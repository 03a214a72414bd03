import IssueWatch.Command
import IssueWatch.Proofs.Console.Plain
import IssueWatch.Proofs.Snapshot.Storing

/-!
# What loading a snapshot comes to

A command that loads a snapshot gets its entries of a kind, or it gives up with a line about the kind or the
file.  There are two ways in which it fails instead: two entries of the kind have the same number, which
nothing catches, or the line holds markup that cannot be resolved.
-/
namespace IssueWatch.Command

/-- A file holds a snapshot whose entries of a kind form a collection. -/
structure Loads (workspace : Workspace) (file : Path) (kindText : String) (snapshot : Snapshot)
    (collection : Collection) : Prop where
  loaded : Snapshot.load workspace file = .ok snapshot
  collected : ∃ kind, Kind.ofText? kindText = some kind ∧ snapshot.collection kind = .ok collection

/-- A kind or a file is refused with a line. -/
inductive Refuses (workspace : Workspace) (file : Path) (kindText : String) : String → Prop where
  | kind (unknown : Kind.ofText? kindText = none) :
      Refuses workspace file kindText ("❌ Error: invalid kind '" ++ kindText ++ "'")
  | snapshot {kind : Kind} {error : Snapshot.LoadError} (known : Kind.ofText? kindText = some kind)
      (failed : Snapshot.load workspace file = .error error) :
      Refuses workspace file kindText
        ("❌ Error loading snapshot " ++ file.text ++ ": " ++ error.message workspace.complaints)

/-- A file holds a snapshot in which two entries of a kind have the same number. -/
def RepeatsNumber (workspace : Workspace) (file : Path) (kindText : String) : Prop :=
  ∃ snapshot kind, Snapshot.load workspace file = .ok snapshot ∧ Kind.ofText? kindText = some kind ∧
    ¬ ((kind.select snapshot.issues).map Issue.number).Nodup

variable {workspace : Workspace} {world : World} {file : Path} {kindText line : String}
  {snapshot other : Snapshot} {collection otherCollection : Collection}

theorem Loads.unique (loads : Loads workspace file kindText snapshot collection)
    (otherLoads : Loads workspace file kindText other otherCollection) :
    other = snapshot ∧ otherCollection = collection := by
  obtain ⟨loaded, kind, kindRead, collected⟩ := loads
  obtain ⟨otherLoaded, otherKind, otherKindRead, otherCollected⟩ := otherLoads
  rw [loaded] at otherLoaded
  rw [kindRead] at otherKindRead
  cases otherLoaded
  cases otherKindRead
  rw [collected] at otherCollected
  cases otherCollected
  exact ⟨rfl, rfl⟩

/-- The collection that is loaded holds the entries of the kind, in the order of the snapshot. -/
theorem Loads.issues_eq (loads : Loads workspace file kindText snapshot collection) :
    ∃ kind, Kind.ofText? kindText = some kind ∧ collection.issues = kind.select snapshot.issues := by
  obtain ⟨_, kind, kindRead, collected⟩ := loads
  rw [Snapshot.collection, Collection.ofIssues] at collected
  split at collected
  · cases collected
    exact ⟨kind, kindRead, rfl⟩
  · cases collected

theorem Refuses.not_loaded (refuses : Refuses workspace file kindText line) {kind : Kind}
    (known : Kind.ofText? kindText = some kind) (loaded : Snapshot.load workspace file = .ok snapshot) :
    False := by
  cases refuses with
  | kind unknown =>
      rw [known] at unknown
      cases unknown
  | snapshot _ failed =>
      rw [loaded] at failed
      cases failed

theorem Refuses.not_loads (refuses : Refuses workspace file kindText line) :
    ¬ Loads workspace file kindText snapshot collection := by
  rintro ⟨loaded, kind, known, _⟩
  exact refuses.not_loaded known loaded

theorem Loads.not_repeats (loads : Loads workspace file kindText snapshot collection) :
    ¬ RepeatsNumber workspace file kindText := by
  rintro ⟨other, kind, loaded, known, repeated⟩
  obtain ⟨otherKind, otherKnown, issuesEq⟩ := loads.issues_eq
  rw [loads.loaded] at loaded
  rw [otherKnown] at known
  cases loaded
  cases known
  rw [← issuesEq] at repeated
  exact repeated collection.distinct

/-- A file and a kind lead to a collection, are refused, or a number occurs twice. -/
theorem loads_or_refuses_or_repeats (workspace : Workspace) (file : Path) (kindText : String) :
    (∃ snapshot collection, Loads workspace file kindText snapshot collection) ∨
      (∃ line, Refuses workspace file kindText line) ∨ RepeatsNumber workspace file kindText := by
  cases known : Kind.ofText? kindText with
  | none => exact .inr (.inl ⟨_, .kind known⟩)
  | some kind =>
      cases loaded : Snapshot.load workspace file with
      | error error => exact .inr (.inl ⟨_, .snapshot known loaded⟩)
      | ok snapshot =>
          by_cases distinct : ((kind.select snapshot.issues).map Issue.number).Nodup
          · refine .inl ⟨snapshot, ⟨_, distinct⟩, loaded, kind, known, ?_⟩
            rw [Snapshot.collection, Collection.ofIssues, dif_pos distinct]
          · exact .inr (.inr ⟨snapshot, kind, loaded, known, distinct⟩)

/-! ## Performing -/

theorem Loads.perform_eq (loads : Loads world.workspace file kindText snapshot collection) :
    Action.perform (loadSnapshot file kindText) world = (.ok (snapshot, collection), world) := by
  obtain ⟨loaded, kind, known, collected⟩ := loads
  rw [loadSnapshot, known]
  simp only [Action.perform_bind, Action.perform_get, loaded, collected, Action.perform_pure]

theorem Refuses.perform_eq (refuses : Refuses world.workspace file kindText line) :
    Action.perform (loadSnapshot file kindText) world = Action.perform (Action.giveUp line) world := by
  rw [loadSnapshot]
  cases refuses with
  | kind unknown => rw [unknown]
  | snapshot known failed =>
      rw [known]
      simp only [Action.perform_bind, Action.perform_get, failed]

theorem RepeatsNumber.perform_eq (repeats : RepeatsNumber world.workspace file kindText) :
    Action.perform (loadSnapshot file kindText) world = (.error (.duplicateNumber {}), world) := by
  obtain ⟨snapshot, kind, loaded, known, repeated⟩ := repeats
  have collected : snapshot.collection kind = .error {} := by
    rw [Snapshot.collection, Collection.ofIssues, dif_neg repeated]
  rw [loadSnapshot, known]
  simp only [Action.perform_bind, Action.perform_get, loaded, collected, Action.perform_throw]

/-- Loading gives the snapshot of a file with the collection of its entries of a kind, or it prints the line that refuses
the kind or the file, and gives up. -/
def LoadsOrGivesUp (world : World) (file : Path) (kindText : String) : Prop :=
  (∃ snapshot collection, Loads world.workspace file kindText snapshot collection ∧
    Action.perform (loadSnapshot file kindText) world = (.ok (snapshot, collection), world)) ∨
  ∃ line shown, Refuses world.workspace file kindText line ∧ Console.resolve line = .ok shown ∧
    Action.perform (loadSnapshot file kindText) world =
      (.error (.exit 1), { world with printed := world.printed ++ [.line shown] })

/-- A command stops when loading a snapshot stops, and in the same way. -/
def StopsAsLoading (command : Action Unit) (world : World) (file : Path) (kindText : String) : Prop :=
  ∀ stop after, Action.perform (loadSnapshot file kindText) world = (.error stop, after) →
    Action.perform command world = (.error stop, after)

theorem loadsOrGivesUp_iff (world : World) (file : Path) (kindText : String) :
    LoadsOrGivesUp world file kindText ↔
      ¬ RepeatsNumber world.workspace file kindText ∧
        ∀ line, Refuses world.workspace file kindText line → ∃ shown, Console.resolve line = .ok shown := by
  constructor
  · rintro (⟨snapshot, collection, loads, _⟩ | ⟨_, shown, _, _, performed⟩)
    · exact ⟨loads.not_repeats, fun line refuses => absurd loads refuses.not_loads⟩
    · refine ⟨fun repeats => ?_, fun line refuses => ?_⟩
      · rw [repeats.perform_eq] at performed
        cases performed
      · cases resolved : Console.resolve line with
        | ok shown => exact ⟨shown, rfl⟩
        | error error =>
            rw [refuses.perform_eq, Action.perform_giveUp_error resolved] at performed
            cases performed
  · rintro ⟨noRepeats, resolves⟩
    obtain ⟨snapshot, collection, loads⟩ | ⟨line, refuses⟩ | repeats :=
      loads_or_refuses_or_repeats world.workspace file kindText
    · exact .inl ⟨snapshot, collection, loads, loads.perform_eq⟩
    · obtain ⟨shown, resolved⟩ := resolves line refuses
      exact .inr ⟨line, shown, refuses, resolved, by rw [refuses.perform_eq, Action.perform_giveUp_ok resolved]⟩
    · exact absurd repeats noRepeats

theorem query_stopsAsLoading (world : World) (file : Path) (text kindText : String) :
    StopsAsLoading (query file text kindText) world file kindText :=
  fun _ _ stopped => Action.perform_bind_error stopped _

theorem report_stopsAsLoading (world : World) (file queriesFile output : Path) (kindText : String) :
    StopsAsLoading (report file queriesFile output kindText) world file kindText :=
  fun _ _ stopped => Action.perform_bind_error stopped _

/-- Behind a file of alerts that is accepted, the command on two snapshots loads the earlier one and then the
later one. -/
theorem alerts_stopsAsLoading (environment : Environment) (server : Mail.Server)
    {startFile endFile alertsFile : Path} (dryRun : Bool) {alerts : List Alert}
    (alertsLoaded : Alert.load world.workspace alertsFile = .ok alerts) :
    let command := Command.alerts environment server startFile endFile alertsFile dryRun kindText
    StopsAsLoading command world startFile kindText ∧
      ∀ snapshot start, Loads world.workspace startFile kindText snapshot start →
        StopsAsLoading command world endFile kindText := by
  intro command
  have begins : ∃ rest, command.perform world = Action.perform (loadSnapshot startFile kindText >>= rest) world ∧
      ∀ loaded, ∃ more, rest loaded = loadSnapshot endFile kindText >>= more := by
    simp only [command, Command.alerts]
    rw [Action.perform_bind_ok (Action.perform_get world), alertsLoaded]
    exact ⟨_, rfl, fun _ => ⟨_, rfl⟩⟩
  obtain ⟨rest, performed, continues⟩ := begins
  refine ⟨fun stop after stopped => ?_, fun snapshot start loads stop after stopped => ?_⟩
  · rw [performed]
    exact Action.perform_bind_error stopped _
  · obtain ⟨more, restEq⟩ := continues (snapshot, start)
    rw [performed, Action.perform_bind_ok loads.perform_eq, restEq]
    exact Action.perform_bind_error stopped _

/-- Loading gives a collection or gives up exactly if no number occurs twice among the entries of the kind and the line
that refuses the kind or the file, if there is one, can be shown.  Otherwise it fails with nothing printed.  The
commands on one snapshot stop as loading does, and so does the command on two, for either of them. -/
theorem loading_fails_iff (world : World) (file : Path) (kindText : String) :
    (LoadsOrGivesUp world file kindText ↔
      ¬ RepeatsNumber world.workspace file kindText ∧
        ∀ line, Refuses world.workspace file kindText line → ∃ shown, Console.resolve line = .ok shown) ∧
    (RepeatsNumber world.workspace file kindText →
      Action.perform (loadSnapshot file kindText) world = (.error (.duplicateNumber {}), world)) ∧
    (∀ line error, Refuses world.workspace file kindText line → Console.resolve line = .error error →
      Action.perform (loadSnapshot file kindText) world = (.error (.markup error), world)) ∧
    (∀ text, StopsAsLoading (query file text kindText) world file kindText) ∧
    (∀ queriesFile output, StopsAsLoading (report file queriesFile output kindText) world file kindText) ∧
    ∀ environment server other alertsFile dryRun alerts, Alert.load world.workspace alertsFile = .ok alerts →
      StopsAsLoading (Command.alerts environment server file other alertsFile dryRun kindText) world file
        kindText ∧
      ∀ snapshot start, Loads world.workspace other kindText snapshot start →
        StopsAsLoading (Command.alerts environment server other file alertsFile dryRun kindText) world file
          kindText := by
  refine ⟨loadsOrGivesUp_iff world file kindText, RepeatsNumber.perform_eq, ?_,
    fun text => query_stopsAsLoading world file text kindText,
    fun queriesFile output => report_stopsAsLoading world file queriesFile output kindText, ?_⟩
  · intro line error refuses unresolved
    rw [refuses.perform_eq, Action.perform_giveUp_error unresolved]
  · intro environment server other alertsFile dryRun alerts alertsLoaded
    exact ⟨(alerts_stopsAsLoading environment server dryRun alertsLoaded).1,
      (alerts_stopsAsLoading environment server dryRun alertsLoaded).2⟩

/-- A snapshot in which two issues have the same number. -/
def withRepeatedNumber : Snapshot where
  org := "o"
  repo := "r"
  issues := [⟨1, "A", "", "open", false, [], none, none⟩, ⟨1, "B", "", "open", false, [], none, none⟩]

/-- A folder with a file of alerts that holds none, a snapshot without issues, and this one. -/
def filesWithRepeatedNumber : World where
  workspace := {
    files := [
      (["a.xml"], "<config/>"),
      (["s.json"], (Snapshot.mk "o" "r" [] [] {}).toJson.write),
      (["t.json"], withRepeatedNumber.toJson.write)] }

theorem loads_withoutIssues :
    Loads filesWithRepeatedNumber.workspace (.ofText "s.json") "all" ⟨"o", "r", [], [], {}⟩
      ⟨[], List.nodup_nil⟩ where
  loaded := Snapshot.load_of_read_write rfl nofun (.object List.nodup_nil nofun) rfl
  collected := ⟨.all, rfl, rfl⟩

theorem repeatsNumber_all :
    RepeatsNumber filesWithRepeatedNumber.workspace (.ofText "t.json") "all" := by
  refine ⟨withRepeatedNumber, .all, ?_, rfl, by decide⟩
  exact Snapshot.load_of_read_write rfl (by decide +kernel) (.object List.nodup_nil nofun) rfl

theorem refuses_missing :
    Refuses filesWithRepeatedNumber.workspace (.ofText "m.json") "all"
      "❌ Error loading snapshot m.json: [Errno 2] No such file or directory: 'm.json'" :=
  @Refuses.snapshot _ _ _ .all (.file ⟨.notFound, .ofText "m.json"⟩) rfl rfl

theorem alertsLoaded_withoutAlerts :
    Alert.load filesWithRepeatedNumber.workspace (.ofText "a.xml") = .ok [] := by
  have read : (Alert.load filesWithRepeatedNumber.workspace (.ofText "a.xml")).toOption.map List.length =
      some 0 := by decide +kernel
  obtain ⟨alerts, loaded, empty⟩ := ConfigFailure.exists_of_map_toOption read
  rw [loaded, List.length_eq_zero_iff.mp empty]

/-- A snapshot without issues is loaded.  Behind it a missing one makes the command on two snapshots give up with a
line, and one with a repeated number makes it fail. -/
theorem loading_behind_snapshot_without_issues :
    let world := filesWithRepeatedNumber
    let command (endFile : String) :=
      Command.alerts {} {} (.ofText "s.json") (.ofText endFile) (.ofText "a.xml") false "all"
    LoadsOrGivesUp world (.ofText "s.json") "all" ∧
    (command "m.json").perform world = (.error (.exit 1), { world with printed :=
      [.line "❌ Error loading snapshot m.json: [Errno 2] No such file or directory: 'm.json'"] }) ∧
    (command "t.json").perform world = (.error (.duplicateNumber {}), world) := by
  intro world command
  have stops (file : String) : StopsAsLoading (command file) world (.ofText file) "all" :=
    ((loading_fails_iff world (.ofText file) "all").2.2.2.2.2 {} {} (.ofText "s.json") (.ofText "a.xml") false
      [] alertsLoaded_withoutAlerts).2 _ _ loads_withoutIssues
  refine ⟨(loading_fails_iff world _ _).1.mpr ⟨loads_withoutIssues.not_repeats, ?_⟩, ?_, ?_⟩
  · exact fun line refuses => absurd loads_withoutIssues refuses.not_loads
  · refine stops "m.json" _ _ ?_
    rw [refuses_missing.perform_eq]
    exact Action.perform_giveUp_ok (by decide +kernel) world
  · exact stops "t.json" _ _ ((loading_fails_iff world (.ofText "t.json") "all").2.1 repeatsNumber_all)

/-- Two issues with the same number make a command fail without a word, and so does a kind that closes a tag. -/
theorem uncaught_while_loading :
    ¬ LoadsOrGivesUp filesWithRepeatedNumber (.ofText "t.json") "all" ∧
    (query (.ofText "t.json") "is:open" "all").perform filesWithRepeatedNumber =
      (.error (.duplicateNumber {}), filesWithRepeatedNumber) ∧
    ¬ LoadsOrGivesUp filesWithRepeatedNumber (.ofText "s.json") "[/all]" := by
  refine ⟨fun endsWell => ?_, ?_, fun endsWell => ?_⟩
  · exact ((loadsOrGivesUp_iff _ _ _).mp endsWell).1 repeatsNumber_all
  · exact query_stopsAsLoading _ _ _ _ _ _ (RepeatsNumber.perform_eq repeatsNumber_all)
  · obtain ⟨shown, resolved⟩ := ((loadsOrGivesUp_iff _ _ _).mp endsWell).2 _ (.kind rfl)
    have unmatched : Console.resolve "❌ Error: invalid kind '[/all]'" = .error .unmatched := by
      decide +kernel
    have line : "❌ Error: invalid kind '" ++ "[/all]" ++ "'" = "❌ Error: invalid kind '[/all]'" := by
      decide
    rw [line, unmatched] at resolved
    cases resolved

end IssueWatch.Command
