import IssueWatch.Command
import IssueWatch.Proofs.Console.Plain
import IssueWatch.Proofs.Snapshot.Storing
import IssueWatch.Proofs.Tracker

/-!
# Cached issues

A run of the command that takes snapshots and comes to its end leaves a file from which exactly the issues
are loaded that the tracker reports.  A query of the file therefore answers as it would of the tracker.
-/
namespace IssueWatch

namespace Command

open IssueWatch.Action

variable {environment : Environment} {service : Tracker.Service} {now : Timestamp} {home : String}
  {repository : Repository} {state : String} {given : Option String} {folder : Path} {world after : World}

theorem store_ok {archive : Archive} {org repo : String} {issues : List Issue} {time : Timestamp}
    {metadata : Json.Fields} {file : Path}
    (performed : (store archive org repo issues time metadata).perform world = (.ok file, after)) :
    archive.store world.workspace (Archive.stamped (org, repo) issues time metadata) time =
      .ok after.workspace := by
  obtain ⟨_, stored, changed, said⟩ := exists_of_perform_bind performed
  obtain ⟨_, told, saying, done⟩ := exists_of_perform_bind said
  cases done
  rw [(quiet_say _).workspace_eq saying]
  exact change_ok changed

theorem fetchIssues_ok {issues : List Issue}
    (performed : (fetchIssues environment service given repository state).perform world =
      (.ok (.ok issues), after)) :
    (Tracker.fetch service repository state).2 = .ok issues := by
  rw [fetchIssues] at performed
  cases token : Tracker.token given environment with
  | error error =>
      rw [token] at performed
      cases performed
  | ok token =>
      simp only [token] at performed
      obtain ⟨_, _, _, returned⟩ := exists_of_perform_bind performed
      exact Except.ok.inj (Prod.mk.inj returned).1

/-- A run of the command that comes to its end has stored what was fetched, and changes no file after it. -/
theorem cache_ok
    (performed : (cache environment service now home repository state given folder).perform world =
      (.ok (), after)) :
    ∃ issues workspace, (Tracker.fetch service repository state).2 = .ok issues ∧
      Archive.store ⟨folder⟩ workspace
        (Archive.stamped (repository.org, repository.repo) issues now []) now = .ok after.workspace := by
  rw [cache] at performed
  split at performed
  · obtain ⟨_, _, gaveUp, _⟩ := exists_of_perform_bind performed
    exact absurd gaveUp (perform_giveUp_ne_ok _)
  · obtain ⟨_, _, _, fetching⟩ := exists_of_perform_bind performed
    obtain ⟨fetched, _, fetchedEq, storing⟩ := exists_of_perform_bind fetching
    cases fetched with
    | error error => exact absurd storing (perform_giveUp_ne_ok _)
    | ok issues =>
        obtain ⟨_, opened, _, onward⟩ := exists_of_perform_bind storing
        obtain ⟨_, _, stored, onward⟩ := exists_of_perform_bind onward
        obtain ⟨_, _, got, printing⟩ := exists_of_perform_bind onward
        cases got
        refine ⟨issues, opened.workspace, fetchIssues_ok fetchedEq, ?_⟩
        rw [(quiet_print _).workspace_eq printing]
        exact store_ok stored

/-! ## Runs that come to their end -/

theorem isPlain_progress {count : Nat} {message : String} (member : message ∈ Tracker.progress count) :
    Console.IsPlain message := by
  obtain ⟨index, _, rfl⟩ := List.mem_map.mp member
  exact ((show Console.IsPlain "Fetched " by decide).append (Console.isPlain_toString _)).append (by decide)

theorem isPlain_of_mem_fetch {message : String}
    (member : message ∈ (Tracker.fetch service repository state).1) : Console.IsPlain message := by
  rw [Tracker.fetch] at member
  split at member
  · cases member
  · exact isPlain_progress member

theorem fetchIssues_completes {token : String} {issues : List Issue}
    (tokenFound : Tracker.token given environment = .ok token)
    (fetched : (Tracker.fetch service repository state).2 = .ok issues) (world : World) :
    ∃ printed, (fetchIssues environment service given repository state).perform world =
      (.ok (.ok issues), { world with printed }) := by
  have plain : ∀ message ∈ (Tracker.fetch service repository state).1, Console.IsPlain message :=
    fun message => isPlain_of_mem_fetch
  obtain ⟨printed, progressed⟩ := exists_perform_printAll plain world
  have returned (after : World) : perform (pure (Tracker.fetch service repository state).2) after =
      (.ok (.ok issues), after) := by
    rw [fetched, perform_pure]
  refine ⟨printed, ?_⟩
  rw [fetchIssues, tokenFound]
  exact (perform_bind_ok progressed _).trans (returned _)

theorem store_completes {archive : Archive} {org repo : String} {issues : List Issue} {time : Timestamp}
    {metadata : Json.Fields} {later : Workspace} (world : World)
    (stored : archive.store world.workspace (Archive.stamped (org, repo) issues time metadata) time =
      .ok later)
    (pathPlain : Console.IsPlain (archive.filePath time).text) :
    ∃ printed, (store archive org repo issues time metadata).perform world =
      (.ok (archive.filePath time), { world with workspace := later, printed }) := by
  have savedPlain : Console.IsPlain ("Saved " ++ toString issues.length ++ " issues to " ++
      (archive.filePath time).text) :=
    (((show Console.IsPlain "Saved " by decide).append (Console.isPlain_toString _)).append
      (by decide)).append pathPlain
  obtain ⟨printed, said⟩ := exists_perform_say savedPlain { world with workspace := later }
  refine ⟨printed, ?_⟩
  have changed := perform_change (fun workspace =>
    archive.store workspace (Archive.stamped (org, repo) issues time metadata) time) world
  simp only [stored] at changed
  rw [store]
  exact (perform_bind_ok changed _).trans (perform_bind_ok said _)

theorem exists_show_storageTable {file : Path} (archive : Archive)
    (namePlain : Console.IsPlain file.name) (folderPlain : Console.IsPlain (fullName home archive.folder))
    (count : Nat) (workspace : Workspace) :
    ∃ shown, (storageTable home archive file count workspace).show = .ok shown := by
  have sizePlain : Console.IsPlain ((archive.statistics workspace).sizeText ++ " MB") :=
    (Archive.Statistics.isPlain_sizeText _).append (by decide)
  refine Console.exists_show_table (by decide) (by decide) ?_
  simp only [List.forall_mem_cons, List.not_mem_nil, false_imp_iff, implies_true, and_true]
  exact ⟨⟨by decide, namePlain⟩, ⟨by decide, Console.isPlain_toString _⟩,
    ⟨by decide, Console.isPlain_toString _⟩, ⟨by decide, sizePlain⟩, by decide, folderPlain⟩

/-- With a state that exists, a token, issues to fetch and room for the file, a run comes to its end if nothing
in the names can be taken for markup. -/
theorem cache_completes {token : String} {issues : List Issue} {made later : Workspace}
    (valid : state ∈ ["open", "closed", "all"]) (tokenFound : Tracker.token given environment = .ok token)
    (fetched : (Tracker.fetch service repository state).2 = .ok issues)
    (folderMade : world.workspace.makeFolder folder = .ok made)
    (stored : Archive.store ⟨folder⟩ made
      (Archive.stamped (repository.org, repository.repo) issues now []) now = .ok later)
    (repositoryPlain : Console.IsPlain repository.path)
    (pathPlain : Console.IsPlain (Archive.filePath ⟨folder⟩ now).text)
    (namePlain : Console.IsPlain (Archive.filePath ⟨folder⟩ now).name)
    (folderPlain : Console.IsPlain (fullName home folder)) :
    ∃ after, (cache environment service now home repository state given folder).perform world =
      (.ok (), after) := by
  have statePlain : Console.IsPlain state := by
    have each : ∀ state ∈ ["open", "closed", "all"], Console.IsPlain state := by decide
    exact each state valid
  have announcementPlain : Console.IsPlain
      ("🔍 Caching " ++ state ++ " issues from " ++ repository.path) :=
    (((show Console.IsPlain "🔍 Caching " by decide).append statePlain).append (by decide)).append
      repositoryPlain
  obtain ⟨announced, announcing⟩ := exists_perform_say announcementPlain world
  obtain ⟨progressed, fetching⟩ := fetchIssues_completes tokenFound fetched
    { world with printed := announced }
  have making := perform_change (fun workspace => workspace.makeFolder folder)
    { world with printed := progressed }
  simp only [folderMade] at making
  obtain ⟨saved, storing⟩ := store_completes { world with workspace := made, printed := progressed }
    stored pathPlain
  obtain ⟨shown, showing⟩ := exists_show_storageTable ⟨folder⟩ namePlain folderPlain
    issues.length later
  rw [cache, if_neg (not_not.mpr valid), perform_bind_ok announcing, perform_bind_ok fetching]
  refine ⟨_, (perform_bind_ok making _).trans ((perform_bind_ok storing _).trans
    ((perform_bind_ok (perform_get _) _).trans (perform_print_ok showing _)))⟩

/-! ## What is loaded back -/

/-- Behind a run that comes to its end, the file holds exactly the issues that the tracker reports in the
state, each once and in the order of their numbers.  So for every kind and every query, the issues that are
selected are those whose entries are of the kind and satisfy the query. -/
theorem cached_as_served {entries : List Tracker.Entry}
    (serves : Tracker.Serves service repository entries)
    (performed : (cache environment service now home repository state given folder).perform world =
      (.ok (), after)) (kind : Kind) :
    ∃ snapshot collection,
      Snapshot.load after.workspace (Archive.filePath ⟨folder⟩ now) = .ok snapshot ∧
      snapshot.collection kind = .ok collection ∧
      (collection.issues.map Issue.number).Pairwise (· < ·) ∧
      (∀ issue, issue ∈ collection.issues ↔
        ∃ entry ∈ entries, entry.Reports issue ∧ entry.HasState state ∧ entry.HasKind kind) ∧
      ∀ (query : Expr) (issue : Issue), issue ∈ query.select collection.issues ↔
        ∃ entry ∈ entries, entry.Reports issue ∧ entry.HasState state ∧ entry.HasKind kind ∧
          entry.Satisfies query := by
  obtain ⟨issues, workspace, fetchedEq, stored⟩ := cache_ok performed
  obtain ⟨messages, found, fetchEq, fetched⟩ := serves.fetched state
  obtain rfl : issues = found := by
    rw [fetchEq] at fetchedEq
    exact (Except.ok.inj fetchedEq).symm
  have noFields : Json.Plain (.object []) := .object List.nodup_nil nofun
  have plain : Json.Plain (.object (Archive.stampedMetadata [] now issues.length)) :=
    Archive.plain_stampedMetadata noFields now fetched.countable
  have loaded : Snapshot.load after.workspace (Archive.filePath ⟨folder⟩ now) =
      .ok (Archive.stamped (repository.org, repository.repo) issues now []) := by
    rw [Snapshot.load, Workspace.read_of_write stored]
    exact Snapshot.ofText_write fetched.short plain rfl
  have ordered : ((kind.select issues).map Issue.number).Pairwise (· < ·) :=
    fetched.ordered.sublist (List.filter_sublist.map _)
  have distinct : ((kind.select issues).map Issue.number).Nodup := ordered.imp Int.ne_of_lt
  have member (issue : Issue) : issue ∈ kind.select issues ↔
      ∃ entry ∈ entries, entry.Reports issue ∧ entry.HasState state ∧ entry.HasKind kind := by
    rw [Kind.select, List.mem_filter, fetched.reported]
    constructor
    · rintro ⟨⟨entry, entryMember, reports, hasState⟩, admitted⟩
      exact ⟨entry, entryMember, reports, hasState, (reports.admits_iff kind).mp admitted⟩
    · rintro ⟨entry, entryMember, reports, hasState, hasKind⟩
      exact ⟨⟨entry, entryMember, reports, hasState⟩, (reports.admits_iff kind).mpr hasKind⟩
  refine ⟨_, ⟨kind.select issues, distinct⟩, loaded, ?_, ordered, member, fun query issue => ?_⟩
  · rw [Snapshot.collection, Collection.ofIssues]
    exact dif_pos distinct
  · rw [Expr.select, List.mem_filter, member]
    constructor
    · rintro ⟨⟨entry, entryMember, reports, hasState, hasKind⟩, holds⟩
      exact ⟨entry, entryMember, reports, hasState, hasKind, (reports.satisfies_iff query).mpr holds⟩
    · rintro ⟨entry, entryMember, reports, hasState, hasKind, satisfies⟩
      exact ⟨⟨entry, entryMember, reports, hasState, hasKind⟩, (reports.satisfies_iff query).mp satisfies⟩

/-- A tracker with a pull request, an issue with an empty label and milestone, and a closed issue. -/
def mixedEntries : List Tracker.Entry := [
  { number := .int 9, title := .string "P", url := .string "p", state := .string "open",
    isPullRequest := true, labels := [], milestone := none, assignee := none },
  { number := .int 4, title := .string "I", url := .string "i", state := .string "open",
    isPullRequest := false, labels := [.string ""], milestone := some (.string ""),
    assignee := some (.string "ann", .string "") },
  { number := .int 2, title := .string "C", url := .string "c", state := .string "closed",
    isPullRequest := false, labels := [], milestone := none, assignee := none }]

def openIssue : Issue where
  number := 4
  title := "I"
  url := "i"
  state := "open"
  labels := [""]
  milestone := some ""
  assignee := some { login := "ann" }

theorem reports_openIssue :
    Tracker.Entry.Reports
      { number := .int 4, title := .string "I", url := .string "i", state := .string "open",
        isPullRequest := false, labels := [.string ""], milestone := some (.string ""),
        assignee := some (.string "ann", .string "") } openIssue :=
  ⟨rfl, rfl, rfl, rfl, rfl, rfl, rfl, rfl⟩

theorem serves_mixedEntries :
    Tracker.Serves ⟨[("o/r", mixedEntries)]⟩ ⟨"o", "r"⟩ mixedEntries where
  served := rfl
  typed := by
    simp only [mixedEntries, List.forall_mem_cons]
    exact ⟨⟨⟨9, "P", "p", "open", true, [], none, none⟩, rfl, rfl, rfl, rfl, rfl, rfl, rfl, rfl⟩,
      ⟨openIssue, reports_openIssue⟩,
      ⟨⟨2, "C", "c", "closed", false, [], none, none⟩, rfl, rfl, rfl, rfl, rfl, rfl, rfl, rfl⟩, nofun⟩
  distinct := by simp [mixedEntries]
  short := by
    simp only [mixedEntries, List.forall_mem_cons, Json.int.injEq, forall_eq']
    exact ⟨by decide +kernel, by decide +kernel, by decide +kernel, nofun⟩
  countable := by decide +kernel

/-- Of three entries in another order, the open issue alone is loaded back, with its empty names. -/
theorem cached_as_served_open_issue :
    ∃ after snapshot collection,
      (cache {} ⟨[("o/r", mixedEntries)]⟩ ⟨2024, 2, 29, 9, 5, 0, 0, none⟩ "/home" ⟨"o", "r"⟩ "open"
        (some "token") (.ofText "data")).perform {} = (.ok (), after) ∧
      Snapshot.load after.workspace (.ofText "data/Issues_2024-02-29@09-05.json") = .ok snapshot ∧
      snapshot.collection .issue = .ok collection ∧
      ∀ issue, issue ∈ (Expr.leaf (.milestone "")).select collection.issues ↔ issue = openIssue := by
  have folderMade : ({} : Workspace).makeFolder (.ofText "data") = .ok { folders := [["data"]] } := rfl
  have located : ({ folders := [["data"]] } : Workspace).locate
      (Archive.filePath ⟨.ofText "data"⟩ ⟨2024, 2, 29, 9, 5, 0, 0, none⟩) =
        .ok ["data", "Issues_2024-02-29@09-05.json"] := by
    decide +kernel
  have samePath : Path.ofText "data/Issues_2024-02-29@09-05.json" =
      Archive.filePath ⟨.ofText "data"⟩ ⟨2024, 2, 29, 9, 5, 0, 0, none⟩ := by
    decide +kernel
  obtain ⟨messages, issues, fetchEq, _⟩ := serves_mixedEntries.fetched "open"
  obtain ⟨after, performed⟩ := @cache_completes {} ⟨[("o/r", mixedEntries)]⟩
    ⟨2024, 2, 29, 9, 5, 0, 0, none⟩ "/home" ⟨"o", "r"⟩ "open" (some "token") (.ofText "data") {} "token" issues
    _ _ (by decide) rfl (by rw [fetchEq]) folderMade (Workspace.write_of_locate located rfl _)
    (by decide +kernel) (by decide +kernel) (by decide +kernel) (by decide +kernel)
  obtain ⟨snapshot, collection, loaded, collected, _, _, selected⟩ :=
    cached_as_served serves_mixedEntries performed .issue
  refine ⟨after, snapshot, collection, performed, samePath ▸ loaded, collected, fun issue => ?_⟩
  rw [selected]
  constructor
  · rintro ⟨entry, member, reports, hasState, hasKind, _⟩
    simp only [mixedEntries, List.mem_cons, List.not_mem_nil, or_false] at member
    rcases member with rfl | rfl | rfl
    · cases hasKind
    · exact reports_openIssue.unique reports
    · simp [Tracker.Entry.HasState] at hasState
  · rintro rfl
    exact ⟨_, .tail _ (.head _), reports_openIssue, .inr rfl, rfl, rfl⟩

end Command
end IssueWatch
