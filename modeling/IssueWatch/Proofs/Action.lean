import IssueWatch.Cli

/-!
# Performing actions

What an action comes to in a given world, step by step, and the actions that only print: they leave files
and mail alone, and they never stop with the exit code of success.
-/
namespace IssueWatch

namespace Action

variable {α β : Type}

/-- What an action comes to in a world: its value or the reason for which it stops, and the world that it
leaves. -/
def perform (action : Action α) (world : World) : Except Stop α × World :=
  action.run.run world

@[simp]
theorem perform_pure (value : α) (world : World) :
    perform (pure value) world = (.ok value, world) :=
  rfl

@[simp]
theorem perform_throw (stop : Stop) (world : World) :
    perform (throw stop : Action α) world = (.error stop, world) :=
  rfl

@[simp]
theorem perform_get (world : World) : perform get world = (.ok world, world) :=
  rfl

@[simp]
theorem perform_modify (update : World → World) (world : World) :
    perform (modify update) world = (.ok (), update world) :=
  rfl

theorem perform_bind (action : Action α) (next : α → Action β) (world : World) :
    perform (action >>= next) world =
      match perform action world with
      | (.ok value, after) => perform (next value) after
      | (.error stop, after) => (.error stop, after) := by
  simp only [perform, ExceptT.run_bind, StateT.run_bind]
  rcases action.run.run world with ⟨_ | value, after⟩ <;> rfl

theorem perform_bind_ok {action : Action α} {world after : World} {value : α}
    (performed : perform action world = (.ok value, after)) (next : α → Action β) :
    perform (action >>= next) world = perform (next value) after := by
  rw [perform_bind, performed]

theorem perform_bind_error {action : Action α} {world after : World} {stop : Stop}
    (performed : perform action world = (.error stop, after)) (next : α → Action β) :
    perform (action >>= next) world = (.error stop, after) := by
  rw [perform_bind, performed]

/-- An action that comes to its end has come through each of its parts. -/
theorem exists_of_perform_bind {action : Action α} {next : α → Action β} {world after : World}
    {result : β} (performed : perform (action >>= next) world = (.ok result, after)) :
    ∃ value between, perform action world = (.ok value, between) ∧
      perform (next value) between = (.ok result, after) := by
  rw [perform_bind] at performed
  rcases first : perform action world with ⟨stop | value, between⟩
  · rw [first] at performed
    cases performed
  · rw [first] at performed
    exact ⟨value, between, rfl, performed⟩

theorem perform_change (step : Workspace → Except FileError Workspace) (world : World) :
    perform (change step) world =
      match step world.workspace with
      | .ok workspace => (.ok (), { world with workspace })
      | .error error => (.error (.file error), world) := by
  rw [change, perform_bind_ok (perform_get world)]
  cases step world.workspace <;> rfl

theorem perform_map (action : Action α) (next : α → β) (world : World) :
    perform (do return next (← action)) world =
      ((perform action world).1.map next, (perform action world).2) := by
  rw [perform_bind]
  rcases perform action world with ⟨_ | _, _⟩ <;> rfl

theorem perform_say_ok {markup shown : String} (resolved : Console.resolve markup = .ok shown)
    (world : World) :
    perform (say markup) world =
      (.ok (), { world with printed := world.printed ++ [.line shown] }) := by
  simp only [say, print, Console.Entry.show, resolved]
  rfl

theorem perform_say_error {markup : String} {error : Console.MarkupError}
    (unresolved : Console.resolve markup = .error error) (world : World) :
    perform (say markup) world = (.error (.markup error), world) := by
  simp only [say, print, Console.Entry.show, unresolved]
  rfl

/-- An action that leaves files and mail alone and never stops with the exit code of success. -/
structure Quiet (action : Action α) : Prop where
  mail : ∀ world, (perform action world).2.mail = world.mail
  workspace : ∀ world, (perform action world).2.workspace = world.workspace
  fails : ∀ world stop, (perform action world).1 = .error stop → stop ≠ .exit 0

theorem Quiet.pure (value : α) : Quiet (Pure.pure value : Action α) :=
  ⟨fun _ => rfl, fun _ => rfl, nofun⟩

theorem Quiet.throw {stop : Stop} (failure : stop ≠ .exit 0) :
    Quiet (MonadExcept.throw stop : Action α) where
  mail _ := rfl
  workspace _ := rfl
  fails _ found stopEq := by
    cases stopEq
    exact failure

theorem Quiet.bind {action : Action α} {next : α → Action β} (first : Quiet action)
    (second : ∀ value, Quiet (next value)) : Quiet (action >>= next) := by
  have onward (world : World) :
      (∃ value, perform (action >>= next) world =
          perform (next value) (perform action world).2) ∨
        ∃ stop, (perform action world).1 = .error stop ∧
          perform (action >>= next) world = (.error stop, (perform action world).2) := by
    rw [perform_bind]
    rcases perform action world with ⟨stop | value, after⟩
    · exact .inr ⟨stop, rfl, rfl⟩
    · exact .inl ⟨value, rfl⟩
  refine ⟨fun world => ?_, fun world => ?_, fun world stop stopped => ?_⟩
  · rcases onward world with ⟨value, performed⟩ | ⟨_, _, performed⟩
    · rw [performed, (second value).mail, first.mail]
    · rw [performed, first.mail]
  · rcases onward world with ⟨value, performed⟩ | ⟨_, _, performed⟩
    · rw [performed, (second value).workspace, first.workspace]
    · rw [performed, first.workspace]
  · rcases onward world with ⟨value, performed⟩ | ⟨found, foundEq, performed⟩
    · rw [performed] at stopped
      exact (second value).fails _ stop stopped
    · rw [performed] at stopped
      cases stopped
      exact first.fails world _ foundEq

theorem quiet_print (entry : Console.Entry) : Quiet (print entry) := by
  unfold print
  cases entry.show with
  | ok shown => exact ⟨fun _ => rfl, fun _ => rfl, nofun⟩
  | error error => exact .throw nofun

theorem quiet_say (markup : String) : Quiet (say markup) :=
  quiet_print _

theorem Quiet.goes_on_or_stops {action : Action α} (quiet : Quiet action) (world : World) :
    (∃ value after, perform action world = (.ok value, after) ∧
      after.mail = world.mail ∧ after.workspace = world.workspace) ∨
    ∃ stop after, perform action world = (.error stop, after) ∧
      after.mail = world.mail ∧ stop ≠ .exit 0 := by
  have mail := quiet.mail world
  have workspace := quiet.workspace world
  have fails := quiet.fails world
  rcases performed : perform action world with ⟨stop | value, after⟩
  · rw [performed] at mail fails
    exact .inr ⟨stop, after, rfl, mail, fails stop rfl⟩
  · rw [performed] at mail workspace
    exact .inl ⟨value, after, rfl, mail, workspace⟩

theorem perform_send (server : Mail.Server) (settings : Mail.Settings) (sender : String)
    (message : Mail.Message) (world : World) :
    perform (send server settings sender message) world =
      (.ok (Mail.deliver server settings sender message world.mail).2,
        { world with mail := (Mail.deliver server settings sender message world.mail).1 }) :=
  rfl

theorem perform_giveUp_ok {markup shown : String} (resolved : Console.resolve markup = .ok shown)
    (world : World) :
    perform (giveUp markup : Action α) world =
      (.error (.exit 1), { world with printed := world.printed ++ [.line shown] }) := by
  rw [giveUp, perform_bind_ok (perform_say_ok resolved world), perform_throw]

theorem perform_giveUp_error {markup : String} {error : Console.MarkupError}
    (unresolved : Console.resolve markup = .error error) (world : World) :
    perform (giveUp markup : Action α) world = (.error (.markup error), world) := by
  rw [giveUp, perform_bind_error (perform_say_error unresolved world)]

theorem perform_giveUp_ne_ok (markup : String) {world after : World} {value : α} :
    perform (giveUp markup) world ≠ (.ok value, after) := by
  intro performed
  obtain ⟨_, between, _, thrown⟩ := exists_of_perform_bind performed
  cases thrown

theorem Quiet.workspace_eq {action : Action α} (quiet : Quiet action) {world after : World}
    {result : Except Stop α} (performed : perform action world = (result, after)) :
    after.workspace = world.workspace := by
  have kept := quiet.workspace world
  rwa [performed] at kept

theorem change_ok {step : Workspace → Except FileError Workspace} {world after : World}
    (performed : perform (change step) world = (.ok (), after)) :
    step world.workspace = .ok after.workspace := by
  rw [perform_change] at performed
  cases stepped : step world.workspace with
  | error error =>
      rw [stepped] at performed
      cases performed
  | ok workspace =>
      rw [stepped] at performed
      cases performed
      rfl

/-! ## Postconditions -/

/-- A quiet action that stops at nothing but markup. -/
structure Prints (action : Action α) : Prop extends Quiet action where
  stops : ∀ world stop, (perform action world).1 = .error stop → ∃ error, stop = .markup error

theorem Prints.pure (value : α) : Prints (Pure.pure value : Action α) :=
  ⟨.pure value, nofun⟩

theorem Prints.bind {action : Action α} {next : α → Action β} (first : Prints action)
    (second : ∀ value, Prints (next value)) : Prints (action >>= next) where
  toQuiet := first.toQuiet.bind fun value => (second value).toQuiet
  stops world stop stopped := by
    rw [perform_bind] at stopped
    have firstStops := first.stops world
    rcases performed : perform action world with ⟨found | value, after⟩
    · rw [performed] at stopped firstStops
      cases stopped
      exact firstStops _ rfl
    · rw [performed] at stopped
      exact (second value).stops after stop stopped

section
variable {world : World} {post : Except Stop β × World → Prop}

/-- Behind printing, a postcondition is due of what comes next, in the same files, or else of a stop at markup. -/
theorem Prints.satisfies_bind {action : Action α} {next : α → Action β} (prints : Prints action)
    (unresolved : ∀ error after, after.workspace = world.workspace → post (.error (.markup error), after))
    (printed : ∀ value after, perform action world = (.ok value, after) → after.workspace = world.workspace →
      post (perform (next value) after)) :
    post (perform (action >>= next) world) := by
  have kept := prints.workspace world
  have stops := prints.stops world
  rcases performed : perform action world with ⟨stop | value, after⟩
  · rw [performed] at kept stops
    obtain ⟨error, rfl⟩ := stops stop rfl
    rw [perform_bind_error performed]
    exact unresolved error after kept
  · rw [performed] at kept
    rw [perform_bind_ok performed]
    exact printed value after performed kept

theorem Prints.satisfies {action : Action β} (prints : Prints action)
    (unresolved : ∀ error after, after.workspace = world.workspace → post (.error (.markup error), after))
    (printed : ∀ value after, after.workspace = world.workspace → post (.ok value, after)) :
    post (perform action world) := by
  rw [← bind_pure action]
  exact prints.satisfies_bind unresolved fun value after _ kept => printed value after kept

end

end Action

namespace Cli.Outcome

end Cli.Outcome

end IssueWatch
