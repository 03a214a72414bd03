import IssueWatch.Config
import Mathlib.Data.List.TakeWhile

/-!
# The users that an identifier refers to

A user is declared only if neither the login nor the alias refers to a user declared before.  The address that
a short alias gets from its server is compared with nothing, so that it may be the full address under which
an earlier user was declared.  That is the only identifier which two users of a roster can share.
-/
namespace IssueWatch.Roster

/-!
## Rosters that files lead to

The rosters that hold after any number of configuration files were read one after another, whether or
not each of them was accepted.
-/

/-- A roster holds after some files were read, starting from another one. -/
inductive Reaches : Roster → Roster → Prop where
  | refl (roster : Roster) : Reaches roster roster
  | load {start known : Roster} (before : Reaches start known) (workspace : Workspace) (path : Path) :
      Reaches start (Alert.loadInto known workspace path).1

/-- A roster holds after some files were read, starting without users. -/
def Reachable (roster : Roster) : Prop :=
  Reaches {} roster

end IssueWatch.Roster


namespace IssueWatch

namespace User

/-- The login behind an at sign, as an alert writes it. -/
def mention (user : User) : String :=
  "@" ++ user.login

/-- The alias that a user was declared with, which is a full address unless the user has a short one. -/
def declaredAlias (user : User) : String :=
  user.emailAlias.getD user.emailAddress

/-- The users that declarations make: the alias is a full address, or it has no at sign and the address is the
alias with a server behind it. -/
inductive Formed : User → Prop where
  | full {name address login : String} (inside : '@' ∈ address.toList)
      (apart : address.toList.head? ≠ some '@') : Formed ⟨name, address, none, login⟩
  | short {name emailAlias server login : String} (plain : '@' ∉ emailAlias.toList)
      (joined : server.toList.head? = some '@') :
      Formed ⟨name, emailAlias ++ server, some emailAlias, login⟩

/-- The short alias of a user makes up the full address that another user was declared with. -/
def TakesAddressOf (user other : User) : Prop :=
  other.emailAlias = none ∧ user.emailAlias ≠ none ∧ user.emailAddress = other.emailAddress

instance (user other : User) : Decidable (user.TakesAddressOf other) :=
  inferInstanceAs (Decidable (_ ∧ _ ∧ _))

theorem toList_mention (user : User) : user.mention.toList = '@' :: user.login.toList := by
  rw [mention, String.toList_append]
  rfl

theorem answersTo_iff (user : User) (identifier : String) :
    user.answersTo identifier = true ↔
      identifier = user.mention ∨ identifier.toList.head? ≠ some '@' ∧
        (user.emailAlias = some identifier ∨ user.emailAddress = identifier) := by
  rw [← String.toList_inj, toList_mention, answersTo]
  cases characters : identifier.toList with
  | nil => simp
  | cons c rest =>
      by_cases isAt : c = '@'
      · subst isAt
        simp [← String.toList_inj]
      · simp [isAt]

/-- The declared alias of a user does not look like a login. -/
theorem Formed.declaredAlias_head {user : User} (formed : user.Formed) :
    user.declaredAlias.toList.head? ≠ some '@' := by
  cases formed with
  | full _ apart => exact apart
  | short plain _ => exact fun first => plain (List.mem_of_head? first)

theorem Formed.answersTo_declaredAlias {user : User} (formed : user.Formed) :
    user.answersTo user.declaredAlias = true := by
  rw [answersTo_iff]
  refine .inr ⟨formed.declaredAlias_head, ?_⟩
  cases formed with
  | full _ _ => exact .inr rfl
  | short _ _ => exact .inl rfl

theorem Formed.at_mem_emailAddress {user : User} (formed : user.Formed) :
    '@' ∈ user.emailAddress.toList := by
  cases formed with
  | full inside _ => exact inside
  | short _ joined =>
      rw [String.toList_append]
      exact List.mem_append_right _ (List.mem_of_head? joined)

/-- A short alias is what stands in front of the first at sign of the address. -/
theorem Formed.short_eq_takeWhile {user : User} {short : String} (formed : user.Formed)
    (named : user.emailAlias = some short) :
    short.toList = user.emailAddress.toList.takeWhile (· != '@') := by
  cases formed with
  | full _ _ => cases named
  | @short _ _ server _ plain joined =>
      cases named
      rw [String.toList_append, List.takeWhile_append_of_pos]
      · cases characters : server.toList with
        | nil => simp [characters] at joined
        | cons c rest =>
            rw [characters] at joined
            cases joined
            simp
      · intro c member
        simpa using fun isAt : c = '@' => plain (isAt ▸ member)

theorem Formed.at_notMem_short {user : User} {short : String} (formed : user.Formed)
    (named : user.emailAlias = some short) : '@' ∉ short.toList := by
  rw [formed.short_eq_takeWhile named]
  intro member
  simpa using List.mem_takeWhile_imp member

/-- Of two users whose declarations were accepted one after the other, only an address that the later one
takes from the earlier one refers to both. -/
theorem Formed.takesAddressOf {earlier later : User} (earlierFormed : earlier.Formed)
    (laterFormed : later.Formed) (freshLogin : earlier.answersTo later.mention = false)
    (freshAlias : earlier.answersTo later.declaredAlias = false) {identifier : String}
    (first : earlier.answersTo identifier = true) (second : later.answersTo identifier = true) :
    later.TakesAddressOf earlier ∧ earlier.emailAddress = identifier := by
  have notFresh {fresh : String} (refused : earlier.answersTo fresh = false) : identifier ≠ fresh := by
    rintro rfl
    rw [first] at refused
    cases refused
  obtain isMention | ⟨plainHead, laterNamed⟩ := (later.answersTo_iff identifier).mp second
  · exact absurd isMention (notFresh freshLogin)
  obtain rfl | ⟨_, earlierNamed⟩ := (earlier.answersTo_iff identifier).mp first
  · exact absurd (by rw [toList_mention]; rfl) plainHead
  cases laterShort : later.emailAlias with
  | none =>
      have isDeclared : identifier = later.declaredAlias := by
        rw [declaredAlias, laterShort]
        simpa [laterShort, eq_comm] using laterNamed
      exact absurd isDeclared (notFresh freshAlias)
  | some short =>
      have declaredShort : later.declaredAlias = short := by
        rw [declaredAlias, laterShort]
        rfl
      rw [declaredShort] at freshAlias
      have laterAddress : later.emailAddress = identifier := by
        obtain isShort | isAddress := laterNamed
        · rw [laterShort] at isShort
          exact absurd (Option.some.inj isShort).symm (notFresh freshAlias)
        · exact isAddress
      have notShort (other : String) : earlier.emailAlias ≠ some other := by
        intro earlierShort
        obtain isShort | isAddress := earlierNamed
        · apply earlierFormed.at_notMem_short isShort
          rw [← laterAddress]
          exact laterFormed.at_mem_emailAddress
        -- The same address would have been made from the same alias.
        · have same : other = short := by
            rw [← String.toList_inj, earlierFormed.short_eq_takeWhile earlierShort,
              laterFormed.short_eq_takeWhile laterShort, isAddress, laterAddress]
          have refers : earlier.answersTo short = true := by
            rw [answersTo_iff, earlierShort, same]
            refine .inr ⟨fun isAt => ?_, .inl rfl⟩
            exact laterFormed.at_notMem_short laterShort (List.mem_of_head? isAt)
          rw [freshAlias] at refers
          cases refers
      have full : earlier.emailAlias = none := Option.eq_none_iff_forall_ne_some.mpr notShort
      have earlierAddress : earlier.emailAddress = identifier := by
        simpa [full] using earlierNamed
      exact ⟨⟨full, by simp [laterShort], laterAddress.trans earlierAddress.symm⟩, earlierAddress⟩

end User

theorem ConfigError.bind_eq_ok_iff {Value Answer : Type} {first : Except ConfigError Value}
    {next : Value → Except ConfigError Answer} {answer : Answer} :
    first >>= next = .ok answer ↔ ∃ value, first = .ok value ∧ next value = .ok answer := by
  cases first with
  | error error => simp [bind, Except.bind]
  | ok value => simp [bind, Except.bind]

namespace Roster

/-! ## What declarations keep -/

theorem head_emailServer? {group : Xml.Element} {server : String}
    (found : server ∈ emailServer? group) : server.toList.head? = some '@' := by
  obtain ⟨written, _, rfl⟩ := Option.map_eq_some_iff.mp found
  split
  · assumption
  · rw [String.toList_append]
    rfl

theorem value?_of_required {element : Xml.Element} {key value : String}
    (read : element.required key = .ok value) : element.value? key = some value := by
  unfold Xml.Element.required at read
  split at read
  · cases read
    assumption
  · cases read

/-- A roster lets an element declare a user: nobody answers to the login or the alias that stand in it. -/
structure Admits (roster : Roster) (element : Xml.Element) (user : User) : Prop where
  formed : user.Formed
  writtenLogin : element.value? "github" = some user.mention
  writtenAlias : element.value? "alias" = some user.declaredAlias
  freshLogin : roster.find? user.mention = none
  freshAlias : roster.find? user.declaredAlias = none

/-- An accepted declaration adds the user that it declares. -/
theorem add_of_declare {roster next : Roster} {server? : Option String} {element : Xml.Element}
    (joined : ∀ server ∈ server?, server.toList.head? = some '@')
    (declared : roster.declare server? element = .ok next) :
    ∃ user : User, next = roster.add user ∧ roster.Admits element user := by
  obtain ⟨name, _, declared⟩ := ConfigError.bind_eq_ok_iff.mp declared
  obtain ⟨emailAlias, aliasRead, declared⟩ := ConfigError.bind_eq_ok_iff.mp declared
  obtain ⟨written, loginRead, declared⟩ := ConfigError.bind_eq_ok_iff.mp declared
  have writtenAlias := value?_of_required aliasRead
  have writtenLogin := value?_of_required loginRead
  split at declared
  · rename_i login characters
    obtain rfl : "@" ++ String.ofList login = written := by
      rw [← String.toList_inj, characters]
      simp
    split_ifs at declared with aliasHead knownLogin knownAlias
    obtain ⟨⟨emailAddress, short?⟩, addressed, added⟩ := ConfigError.bind_eq_ok_iff.mp declared
    rw [Option.not_isSome_iff_eq_none] at knownLogin knownAlias
    cases added
    unfold address at addressed
    split_ifs at addressed with hasAt
    · cases addressed
      exact ⟨⟨name, emailAlias, none, _⟩, rfl, .full (by simpa using hasAt) aliasHead, writtenLogin,
        writtenAlias, knownLogin, knownAlias⟩
    · cases server? with
      | none => cases addressed
      | some server =>
          cases addressed
          exact ⟨⟨name, _, some emailAlias, _⟩, rfl, .short (by simpa using hasAt) (joined server rfl),
            writtenLogin, writtenAlias, knownLogin, knownAlias⟩
  · cases declared

theorem joined_of_mem_declarations {root : Xml.Element} :
    ∀ entry ∈ declarations root, ∀ server ∈ entry.1, server.toList.head? = some '@' := by
  intro entry member server found
  obtain ⟨group, _, inGroup⟩ := List.mem_flatMap.mp member
  obtain ⟨element, _, rfl⟩ := List.mem_map.mp inGroup
  exact head_emailServer? found

theorem fst_ofDocument (known : Roster) (root : Xml.Element) :
    (Alert.ofDocument known root).1 = (known.declareAll (declarations root)).1 := by
  rw [Alert.ofDocument]
  split <;> simp only [*]

section Keeping

variable {property : Roster → Prop}
  (declaring : ∀ {roster next : Roster} {server? : Option String} {element : Xml.Element},
    (∀ server ∈ server?, server.toList.head? = some '@') →
      roster.declare server? element = .ok next → property roster → property next)

include declaring

/-- What a declaration keeps, declarations keep up to the first that is rejected. -/
theorem declareAll_keeps {known : Roster} {declarations : List (Option String × Xml.Element)}
    (joined : ∀ entry ∈ declarations, ∀ server ∈ entry.1, server.toList.head? = some '@')
    (holds : property known) : property (known.declareAll declarations).1 := by
  induction declarations generalizing known with
  | nil => exact holds
  | cons entry rest induction =>
      obtain ⟨server?, element⟩ := entry
      obtain ⟨first, others⟩ := List.forall_mem_cons.mp joined
      rw [declareAll]
      cases declared : known.declare server? element with
      | error error => exact holds
      | ok larger => exact induction others (declaring first declared holds)

theorem loadInto_keeps {known : Roster} (workspace : Workspace) (path : Path) (holds : property known) :
    property (Alert.loadInto known workspace path).1 := by
  rw [Alert.loadInto]
  cases readConfig workspace path with
  | error error => exact holds
  | ok root =>
      simp only [fst_ofDocument]
      exact declareAll_keeps declaring joined_of_mem_declarations holds

/-- What declarations keep holds of every roster that files lead to from one of which it holds. -/
theorem Reaches.keeps {start roster : Roster} (reaches : Reaches start roster) (holds : property start) :
    property roster := by
  induction reaches with
  | refl => exact holds
  | load before workspace path induction => exact loadInto_keeps declaring workspace path induction

end Keeping

/-! ## Who answers -/

theorem find?_eq_none_iff {roster : Roster} {identifier : String} :
    roster.find? identifier = none ↔ ∀ user ∈ roster.users, user.answersTo identifier = false := by
  simp [find?]

/-- The users were declared properly, and nobody answers to a login or an alias of a user behind. -/
structure Separate (roster : Roster) : Prop where
  formed : ∀ user ∈ roster.users, user.Formed
  fresh : roster.users.Pairwise fun earlier later =>
    earlier.answersTo later.mention = false ∧ earlier.answersTo later.declaredAlias = false

theorem separate_empty : Separate {} :=
  ⟨nofun, .nil⟩

theorem Separate.declare {roster next : Roster} {server? : Option String} {element : Xml.Element}
    (separate : roster.Separate) (joined : ∀ server ∈ server?, server.toList.head? = some '@')
    (declared : roster.declare server? element = .ok next) : next.Separate := by
  obtain ⟨user, rfl, admits⟩ := add_of_declare joined declared
  constructor
  · intro other member
    rcases List.mem_append.mp member with inside | isLast
    · exact separate.formed other inside
    · rw [List.mem_singleton.mp isLast]
      exact admits.formed
  · refine List.pairwise_append.mpr ⟨separate.fresh, List.pairwise_singleton _ _, ?_⟩
    intro earlier inside later isLast
    rw [List.mem_singleton.mp isLast]
    exact ⟨find?_eq_none_iff.mp admits.freshLogin earlier inside,
      find?_eq_none_iff.mp admits.freshAlias earlier inside⟩

theorem Reachable.separate {roster : Roster} (reachable : roster.Reachable) : roster.Separate :=
  Reaches.keeps (fun joined declared separate => separate.declare joined declared) reachable separate_empty

/-- Of any two users who answer to an identifier, the later one takes it from the earlier one. -/
theorem Separate.pairwise_answering {roster : Roster} (separate : roster.Separate)
    (identifier : String) :
    (roster.users.filter (·.answersTo identifier)).Pairwise fun earlier later =>
      later.TakesAddressOf earlier ∧ earlier.emailAddress = identifier := by
  rw [List.pairwise_filter]
  refine separate.fresh.imp_of_mem fun {earlier later} earlierMember laterMember fresh first second => ?_
  exact (separate.formed earlier earlierMember).takesAddressOf (separate.formed later laterMember)
    fresh.1 fresh.2 first second

theorem Separate.answersTo_takenAddress {roster : Roster} (separate : roster.Separate)
    {earlier later : User} (member : earlier ∈ roster.users) (takes : later.TakesAddressOf earlier) :
    earlier.answersTo earlier.emailAddress = true ∧ later.answersTo earlier.emailAddress = true := by
  obtain ⟨full, _, same⟩ := takes
  have formed := separate.formed earlier member
  have declared : earlier.declaredAlias = earlier.emailAddress := by
    rw [User.declaredAlias, full]
    rfl
  have head := formed.declaredAlias_head
  have answers := formed.answersTo_declaredAlias
  rw [declared] at head answers
  exact ⟨answers, (later.answersTo_iff _).mpr (.inr ⟨head, .inr same⟩)⟩

/-- An identifier refers to at most one user of a roster that files lead to, except for the full address
of a user that a user declared later takes with a short alias.  Then it refers to these two. -/
theorem answering_of_reachable {roster : Roster} (reachable : roster.Reachable) :
    ((∀ identifier : String, (roster.users.filter (·.answersTo identifier)).length ≤ 1) ↔
      roster.users.Pairwise fun earlier later => ¬ later.TakesAddressOf earlier) ∧
    ∀ identifier : String, (roster.users.filter (·.answersTo identifier)).length ≤ 1 ∨
      ∃ full short : User, roster.users.filter (·.answersTo identifier) = [full, short] ∧
        short.TakesAddressOf full ∧ full.emailAddress = identifier := by
  have separate := reachable.separate
  have answering (identifier : String) :
      (roster.users.filter (·.answersTo identifier)).length ≤ 1 ∨
        ∃ full short : User, roster.users.filter (·.answersTo identifier) = [full, short] ∧
          short.TakesAddressOf full ∧ full.emailAddress = identifier := by
    have pairwise := separate.pairwise_answering identifier
    generalize roster.users.filter (·.answersTo identifier) = found at pairwise ⊢
    match found, pairwise with
    | [], _ | [_], _ => exact .inl (by simp)
    | [full, short], pairwise => exact .inr ⟨full, short, rfl, by simpa using pairwise⟩
    | _ :: second :: third :: _, pairwise =>
        -- The second user would have both a short alias and none.
        obtain ⟨first, others⟩ := List.pairwise_cons.mp pairwise
        obtain ⟨next, _⟩ := List.pairwise_cons.mp others
        exact absurd (next third (by simp)).1.1 (first second (by simp)).1.2.1
  refine ⟨⟨fun unique => ?_, fun noneTakes identifier => ?_⟩, answering⟩
  -- Both users of such a pair stay when the others who do not answer are left out.
  · rw [List.pairwise_iff_forall_sublist]
    intro earlier later inOrder takes
    obtain ⟨first, second⟩ :=
      separate.answersTo_takenAddress (inOrder.subset (by simp)) takes
    have both := (inOrder.filter (·.answersTo earlier.emailAddress)).length_le
    have atMostOne := unique earlier.emailAddress
    simp [first, second] at both
    omega
  · rcases answering identifier with atMostOne | ⟨full, short, found, takes, _⟩
    · exact atMostOne
    · have inOrder : [full, short].Sublist roster.users := by
        rw [← found]
        exact List.filter_sublist
      exact absurd takes (List.pairwise_iff_forall_sublist.mp noneTakes inOrder)

/-- Two files in which a short alias and a full address make up the same address. -/
def filesWithSharedAddress : Workspace where
  files := [
    (["short.xml"], "<c><users default-email-server='x'><user name='Bob' alias='ann' github='@b'/>" ++
      "<user name='Eve' alias='eve' github='@b'/></users></c>"),
    (["full.xml"], "<c><users><user name='Dan' alias='dan@x' github='@d'/>" ++
      "<user name='Ann' alias='ann@x' github='@a'/></users></c>")]

/-- The users after the two files were read in some order. -/
def afterFiles (first second : String) : Roster :=
  (Alert.loadInto (Alert.loadInto {} filesWithSharedAddress (.ofText first)).1
    filesWithSharedAddress (.ofText second)).1

theorem reachable_afterFiles (first second : String) : (afterFiles first second).Reachable :=
  .load (.load (.refl {}) _ _) _ _

/-- Both files are rejected, the later one because of the full address. -/
theorem answering_short_before_full :
    (afterFiles "short.xml" "full.xml").Reachable ∧
      (afterFiles "short.xml" "full.xml").users.map User.login = ["b", "d"] ∧
      ∀ identifier : String,
        ((afterFiles "short.xml" "full.xml").users.filter (·.answersTo identifier)).length ≤ 1 := by
  have reachable := reachable_afterFiles "short.xml" "full.xml"
  have evaluated : (afterFiles "short.xml" "full.xml").users.map User.login = ["b", "d"] ∧
      (afterFiles "short.xml" "full.xml").users.Pairwise fun earlier later =>
        ¬ later.TakesAddressOf earlier := by
    decide +kernel
  exact ⟨reachable, evaluated.1, (answering_of_reachable reachable).1.mpr evaluated.2⟩

/-- In the other order the full address stands first, and the user with the short alias takes it. -/
theorem answering_full_before_short :
    (afterFiles "full.xml" "short.xml").Reachable ∧
      ((afterFiles "full.xml" "short.xml").users.filter (·.answersTo "ann@x")).map User.name =
        ["Ann", "Bob"] :=
  ⟨reachable_afterFiles "full.xml" "short.xml", by decide +kernel⟩

end Roster
end IssueWatch
