import IssueWatch.Config
import IssueWatch.Proofs.Config.Roster
import Mathlib.Data.List.Infix

/-!
# Rosters grow

Reading files only adds users behind those declared before, also when a file is rejected.  No user in front
answers to the login or the alias of a user behind, so that every user is found under both from the
declaration on, whatever is read later.
-/
namespace IssueWatch.Roster

/-!
## Histories of rosters

The rosters that hold one after another while configuration files are read, whether or not each of the files
is accepted. They change inside a file, with every user that is declared.
-/

/-- The rosters that hold while declarations are read: before the first of them and behind each. -/
def moments (roster : Roster) (declarations : List (Option String × Xml.Element)) : List Roster :=
  declarations.inits.map fun read => (roster.declareAll read).1

/-- The rosters that hold while a file is read. -/
def momentsOfFile (roster : Roster) (workspace : Workspace) (path : Path) : List Roster :=
  match readConfig workspace path with
  | .error _ => [roster]
  | .ok root => roster.moments (declarations root)

/-- The rosters that hold one after another while files are read. -/
def history (roster : Roster) : List (Workspace × Path) → List Roster
  | [] => [roster]
  | (workspace, path) :: rest =>
    roster.momentsOfFile workspace path ++ history (Alert.loadInto roster workspace path).1 rest

variable {roster known : Roster}

/-! ## Finding users -/

/-- Everyone of some users is found under the login and under the alias of the declaration. -/
def FindsEach (roster : Roster) (users : List User) : Prop :=
  ∀ user ∈ users, roster.find? user.mention = some user ∧ roster.find? user.declaredAlias = some user

instance (roster : Roster) (users : List User) : Decidable (roster.FindsEach users) :=
  inferInstanceAs (Decidable (∀ user ∈ users, _ ∧ _))

theorem find?_eq_some_of_fresh {front behind : List User} {user : User} {identifier : String}
    (usersEq : roster.users = front ++ user :: behind) (answers : user.answersTo identifier = true)
    (fresh : ∀ earlier ∈ front, earlier.answersTo identifier = false) :
    roster.find? identifier = some user := by
  rw [find?, List.find?_eq_some_iff_append]
  refine ⟨answers, front, behind, usersEq, fun earlier inFront => ?_⟩
  rw [fresh earlier inFront]
  rfl

theorem Separate.findsEach (separate : roster.Separate) : roster.FindsEach roster.users := by
  intro user member
  obtain ⟨front, behind, usersEq⟩ := List.append_of_mem member
  have fresh : ∀ earlier ∈ front,
      earlier.answersTo user.mention = false ∧ earlier.answersTo user.declaredAlias = false := by
    have inOrder := separate.fresh
    rw [usersEq, List.pairwise_append] at inOrder
    exact fun earlier inFront => inOrder.2.2 earlier inFront user List.mem_cons_self
  have answersToMention : user.answersTo user.mention = true :=
    (user.answersTo_iff _).mpr (.inl rfl)
  have answersToAlias := (separate.formed user member).answersTo_declaredAlias
  exact ⟨find?_eq_some_of_fresh usersEq answersToMention fun earlier inFront => (fresh earlier inFront).1,
    find?_eq_some_of_fresh usersEq answersToAlias fun earlier inFront => (fresh earlier inFront).2⟩

theorem Separate.nodup_logins (separate : roster.Separate) : (roster.users.map User.login).Nodup := by
  rw [List.Nodup, List.pairwise_map]
  refine separate.fresh.imp fun {earlier later} fresh sameLogin => ?_
  have answers : earlier.answersTo later.mention = true :=
    (earlier.answersTo_iff _).mpr (.inl (by rw [User.mention, User.mention, sameLogin]))
  rw [fresh.1] at answers
  cases answers

theorem Separate.nodup_aliases (separate : roster.Separate) :
    (roster.users.filterMap User.emailAlias).Nodup := by
  rw [List.Nodup, List.pairwise_filterMap]
  refine separate.fresh.imp_of_mem fun {earlier later} member _ fresh short named other otherNamed same => ?_
  subst same
  have declaredSame : earlier.declaredAlias = later.declaredAlias := by
    rw [User.declaredAlias, User.declaredAlias, named, otherNamed]
    rfl
  have answers := (separate.formed earlier member).answersTo_declaredAlias
  rw [declaredSame, fresh.2] at answers
  cases answers

/-! ## Growing -/

theorem declareAll_append (front rest : List (Option String × Xml.Element)) :
    roster.declareAll (front ++ rest) =
      match roster.declareAll front with
      | (larger, none) => larger.declareAll rest
      | (larger, some error) => (larger, some error) := by
  induction front generalizing roster with
  | nil => rfl
  | cons entry front induction =>
      obtain ⟨server?, element⟩ := entry
      rw [List.cons_append, declareAll, declareAll]
      cases roster.declare server? element with
      | error error => rfl
      | ok larger => exact induction

theorem users_declareAll {declarations : List (Option String × Xml.Element)}
    (joined : ∀ entry ∈ declarations, ∀ server ∈ entry.1, server.toList.head? = some '@') :
    roster.users <+: (roster.declareAll declarations).1.users := by
  let Grown (later : Roster) : Prop := roster.users <+: later.users
  have kept : Grown (roster.declareAll declarations).1 := by
    refine declareAll_keeps (fun joined declared grown => ?_) joined List.prefix_rfl
    obtain ⟨user, rfl, _⟩ := add_of_declare joined declared
    exact grown.trans (List.prefix_append _ _)
  exact kept

theorem users_declareAll_append {front rest : List (Option String × Xml.Element)}
    (joined : ∀ entry ∈ rest, ∀ server ∈ entry.1, server.toList.head? = some '@') :
    (roster.declareAll front).1.users <+: (roster.declareAll (front ++ rest)).1.users := by
  rw [declareAll_append]
  rcases roster.declareAll front with ⟨larger, _ | error⟩
  · exact users_declareAll joined
  · exact List.prefix_rfl

theorem pairwise_inits {α : Type} (list : List α) :
    list.inits.Pairwise fun front longer => front <+: longer := by
  induction list with
  | nil => simp
  | cons first rest induction =>
      rw [List.inits_cons, List.pairwise_cons, List.pairwise_map]
      exact ⟨fun _ _ => List.nil_prefix, induction.imp fun longer => List.cons_prefix_cons.mpr ⟨rfl, longer⟩⟩

/-- Between the rosters that hold while a document is read no user goes away, and the last of them holds behind
the document. -/
theorem moments_grow (roster : Roster) (root : Xml.Element) :
    ((roster.moments (declarations root)).Pairwise fun earlier later => earlier.users <+: later.users) ∧
    ∀ moment ∈ roster.moments (declarations root), roster.users <+: moment.users ∧
      moment.users <+: (roster.declareAll (declarations root)).1.users := by
  have joined : ∀ entry ∈ declarations root, ∀ server ∈ entry.1, server.toList.head? = some '@' :=
    joined_of_mem_declarations
  constructor
  · rw [moments, List.pairwise_map]
    refine (pairwise_inits _).imp_of_mem fun {front longer} _ member isFront => ?_
    obtain ⟨rest, rfl⟩ := isFront
    refine users_declareAll_append fun entry inRest => joined entry ?_
    exact ((List.mem_inits _ _).mp member).subset (List.mem_append_right _ inRest)
  · intro moment member
    obtain ⟨front, isFront, rfl⟩ := List.mem_map.mp member
    obtain ⟨rest, frontEq⟩ := (List.mem_inits _ _).mp isFront
    rw [← frontEq] at joined ⊢
    exact ⟨users_declareAll fun entry inFront => joined entry (List.mem_append_left _ inFront),
      users_declareAll_append fun entry inRest => joined entry (List.mem_append_right _ inRest)⟩

theorem Separate.declareAll {declarations : List (Option String × Xml.Element)}
    (separate : roster.Separate)
    (joined : ∀ entry ∈ declarations, ∀ server ∈ entry.1, server.toList.head? = some '@') :
    (roster.declareAll declarations).1.Separate :=
  declareAll_keeps (fun joined declared separate => separate.declare joined declared) joined separate

theorem users_loadInto (roster : Roster) (workspace : Workspace) (path : Path) :
    roster.users <+: (Alert.loadInto roster workspace path).1.users := by
  rw [Alert.loadInto]
  cases readConfig workspace path with
  | error error => exact List.prefix_rfl
  | ok root =>
      simp only [fst_ofDocument]
      exact users_declareAll joined_of_mem_declarations

theorem Separate.loadInto (separate : roster.Separate) (workspace : Workspace) (path : Path) :
    (Alert.loadInto roster workspace path).1.Separate :=
  loadInto_keeps (fun joined declared separate => separate.declare joined declared) workspace path separate

theorem Separate.moment {moment : Roster} {root : Xml.Element} (separate : roster.Separate)
    (member : moment ∈ roster.moments (declarations root)) : moment.Separate := by
  obtain ⟨front, isFront, rfl⟩ := List.mem_map.mp member
  have inside := ((List.mem_inits _ _).mp isFront).subset
  exact separate.declareAll fun entry inFront => joined_of_mem_declarations entry (inside inFront)

/-- While a file is read users stay separate and none goes away, whether or not the file is accepted. -/
theorem momentsOfFile_grow (separate : roster.Separate) (workspace : Workspace) (path : Path) :
    ((roster.momentsOfFile workspace path).Pairwise fun earlier later => earlier.users <+: later.users) ∧
    ∀ moment ∈ roster.momentsOfFile workspace path, moment.Separate ∧ roster.users <+: moment.users ∧
      moment.users <+: (Alert.loadInto roster workspace path).1.users := by
  rw [momentsOfFile, Alert.loadInto]
  cases readConfig workspace path with
  | error error => simp [separate]
  | ok root =>
      obtain ⟨grow, between⟩ := moments_grow roster root
      simp only [fst_ofDocument]
      exact ⟨grow, fun moment member => ⟨separate.moment member, between moment member⟩⟩

/-- While files are read users stay separate and none goes away. -/
theorem history_grows (separate : roster.Separate) (loads : List (Workspace × Path)) :
    ((history roster loads).Pairwise fun earlier later => earlier.users <+: later.users) ∧
    ∀ moment ∈ history roster loads, moment.Separate ∧ roster.users <+: moment.users := by
  induction loads generalizing roster with
  | nil => simp [history, separate]
  | cons load rest induction =>
      obtain ⟨workspace, path⟩ := load
      obtain ⟨fileGrows, inFile⟩ := momentsOfFile_grow separate workspace path
      obtain ⟨restGrows, inRest⟩ := induction (separate.loadInto workspace path)
      rw [history]
      constructor
      · refine List.pairwise_append.mpr ⟨fileGrows, restGrows, fun earlier first later behind => ?_⟩
        exact (inFile earlier first).2.2.trans (inRest later behind).2
      · intro moment member
        rcases List.mem_append.mp member with first | behind
        · exact ⟨(inFile moment first).1, (inFile moment first).2.1⟩
        · obtain ⟨momentSeparate, larger⟩ := inRest moment behind
          exact ⟨momentSeparate, (users_loadInto roster workspace path).trans larger⟩

/-- Whatever files are read, users are only added at the end, their logins and their short aliases differ, and each
of them is found under the login and the alias of the declaration from then on. -/
theorem users_found_from_declaration_on (loads : List (Workspace × Path)) :
    (∀ (known next : Roster) (group element : Xml.Element),
      known.declare (emailServer? group) element = .ok next →
        ∃ user : User, next = known.add user ∧ element.value? "github" = some user.mention ∧
          element.value? "alias" = some user.declaredAlias) ∧
    (∀ roster ∈ history {} loads, (roster.users.map User.login).Nodup ∧
      (roster.users.filterMap User.emailAlias).Nodup ∧ roster.FindsEach roster.users) ∧
    (history {} loads).Pairwise fun earlier later =>
      earlier.users <+: later.users ∧ later.FindsEach earlier.users := by
  obtain ⟨grow, separate⟩ := history_grows separate_empty loads
  refine ⟨fun known next group element declared => ?_, fun roster member => ?_, ?_⟩
  · obtain ⟨user, added, admits⟩ := add_of_declare (fun server => head_emailServer?) declared
    exact ⟨user, added, admits.writtenLogin, admits.writtenAlias⟩
  · have rosterSeparate := (separate roster member).1
    exact ⟨rosterSeparate.nodup_logins, rosterSeparate.nodup_aliases, rosterSeparate.findsEach⟩
  · refine grow.imp_of_mem fun {earlier later} _ member larger => ⟨larger, fun user known => ?_⟩
    exact (separate later member).1.findsEach user (larger.subset known)

/-- The declaration of a user with a full address. -/
def declarationOfAnn : Xml.Element where
  name := ⟨none, "user"⟩
  attributes := [(⟨none, "name"⟩, "Ann"), (⟨none, "alias"⟩, "ann@x"), (⟨none, "github"⟩, "@a")]
  text := ""
  children := []

/-- A declaration without a server is accepted, and of two files that are both rejected each adds a user that is
found at the end. -/
theorem users_found_behind_rejected_files :
    let group : Xml.Element := ⟨⟨none, "users"⟩, [], "", [declarationOfAnn]⟩
    let ends := afterFiles "short.xml" "full.xml"
    (∃ user : User, declare {} (emailServer? group) declarationOfAnn = .ok (add {} user) ∧
      some "@a" = some user.mention ∧ some "ann@x" = some user.declaredAlias) ∧
    (Alert.loadInto {} filesWithSharedAddress (.ofText "short.xml")).2.isOk = false ∧
    ends.users.map User.declaredAlias = ["ann", "dan@x"] ∧ ends.FindsEach ends.users := by
  intro group ends
  obtain ⟨written, found, _⟩ := users_found_from_declaration_on
    [(filesWithSharedAddress, .ofText "short.xml"), (filesWithSharedAddress, .ofText "full.xml")]
  have declared : declare {} (emailServer? group) declarationOfAnn =
      .ok (add {} ⟨"Ann", "ann@x", none, "a"⟩) := by
    decide +kernel
  -- One evaluation of the files serves all three.
  have evaluated : ends ∈ history {} [(filesWithSharedAddress, .ofText "short.xml"),
        (filesWithSharedAddress, .ofText "full.xml")] ∧
      (Alert.loadInto {} filesWithSharedAddress (.ofText "short.xml")).2.isOk = false ∧
      ends.users.map User.declaredAlias = ["ann", "dan@x"] := by
    decide +kernel
  obtain ⟨reached, rejected, aliases⟩ := evaluated
  refine ⟨?_, rejected, aliases, (found ends reached).2.2⟩
  obtain ⟨user, added, login, fullAlias⟩ := written {} _ group declarationOfAnn declared
  exact ⟨user, by rw [declared, added], login, fullAlias⟩

end IssueWatch.Roster
