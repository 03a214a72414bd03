import IssueWatch.Proofs.Command.Caching
import IssueWatch.Proofs.Command.Loading
import IssueWatch.Proofs.Tracker.Numbers
import IssueWatch.Proofs.Workspace.Listing

/-!
# What commands leave in the files

The command that takes snapshots and the one that writes reports change no file, or exactly one, which then holds
all that it should: every issue that was fetched, or a section for every query.  All that can be refused is
checked before that, so that a command that gives up has written nothing.
-/
namespace IssueWatch.Command

open IssueWatch.Action

namespace WritesWhole

variable {before after : World} {refused : Prop} {written : Workspace → Prop}

end WritesWhole

/-! ## Taking snapshots -/

section
variable {environment : Environment} {service : Tracker.Service} {now : Timestamp} {home : String}
  {repository : Repository} {state : String} {given : Option String} {folder : Path} {world after : World}

/-- The issues that are fetched with a token, or what stands in the way. -/
def fetched (environment : Environment) (service : Tracker.Service) (given : Option String)
    (repository : Repository) (state : String) : Except Tracker.FetchError (List Issue) := do
  let _ ← Tracker.token given environment
  (Tracker.fetch service repository state).2

end

/-! ## Writing reports -/

section
variable {world : World} {snapshotFile queriesFile output : Path} {kindText : String}

end

/-! ## Both commands -/

end IssueWatch.Command
