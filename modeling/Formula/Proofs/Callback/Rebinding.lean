import Formula.Callback.Script
import Formula.Proofs.Session.Recording

/-! Scripts go on with the session that runs them by binding only, whatever they do otherwise.
Those that compute from their arguments alone do not touch it. -/
namespace Formula

/-- The computation changes a session in no other way than by binding and validating. -/
def Settles (interface : Interface κ) (run : Run κ σ α) : Prop :=
  ∀ s, ∃ made, Binds interface s made (run.run s).2

section
variable {interface : Interface κ}

theorem settles_pure (a : α) : Settles (σ := σ) interface (pure a) :=
  fun s => ⟨[], .done s⟩

theorem settles_throw (fault : Fault) :
    Settles interface (throw fault : Run κ σ α) :=
  fun s => ⟨[], .done s⟩

theorem settles_pureRun (outcome : Except Fault α) :
    Settles (σ := σ) interface (Node.pureRun outcome) :=
  fun s => ⟨[], .done s⟩

theorem settles_bind {run : Run κ σ α} {next : α → Run κ σ β} (first : Settles interface run)
    (second : ∀ a, Settles interface (next a)) : Settles interface (run >>= next) := by
  intro s
  obtain ⟨made, binds⟩ := first s
  rw [Node.run_bind]
  generalize run.run s = outcome at binds
  rcases outcome with ⟨fault | a, t⟩
  · exact ⟨made, binds⟩
  · obtain ⟨more, onward⟩ := second a t
    exact ⟨made ++ more, binds.trans onward⟩

theorem settles_get {next : Session κ σ → Run κ σ α}
    (settles : ∀ s, ∃ made, Binds interface s made ((next s).run s).2) :
    Settles interface (get >>= next) := by
  intro s
  rw [Node.run_bind, Node.run_get]
  exact settles s

end

/-- Actions that compute from the values of the parameters. -/
def Action.computes : Action → Bool
  | .fold _ | .negation | .count | .first | .last | .constant _ | .raise _ => true
  | .counter | .bindVariable _ | .bindFunction .. | .describe => false

/-- Callbacks that compute from their arguments. -/
def Blueprint.computes : Blueprint → Bool
  | .primitive _ => true
  | .script _ _ action => action.computes

namespace Callback

theorem continueWith_run (outcome : Except Fault Session) (s : Session) :
    (continueWith outcome).run s =
      match outcome with
      | .ok t => (.ok (), t)
      | .error fault => (.error fault, s) := by
  cases outcome <;> rfl

/-- Trying an assignment, perhaps after a change of the record. -/
theorem binds_continue {interface : Interface Callback} (s : Session) (record : Record)
    (a : Assignment Callback) (next : Unit → Value) :
    ∃ made, Binds interface s made
      ((continueWith (a.attempt interface { s with state := record }) >>= fun u =>
        (pure (next u) : Run Callback Record Value)).run s).2 := by
  rw [Node.run_bind, continueWith_run]
  cases outcome : a.attempt interface { s with state := record } with
  | ok t => exact ⟨[a], .state record (.assign outcome (.done t))⟩
  | error fault => exact ⟨[], .done s⟩

theorem settles_act (shown : Callback → String) (callback : Callback) (values : List Value)
    (action : Action) : Settles (interface shown) (act shown callback values action) := by
  cases action with
  | fold | negation | first | last => exact settles_pureRun _
  | count | constant => exact settles_pure _
  | raise fault => exact settles_throw fault
  | counter => exact settles_get fun s => ⟨[], .state _ (.done _)⟩
  | bindVariable name =>
    refine settles_bind (settles_pureRun _) fun value => settles_get fun s => ?_
    exact binds_continue s s.state (.var name value) fun _ => value
  | bindFunction name arity binding =>
    cases binding with
    | inl blueprint =>
      refine settles_get fun s => ?_
      exact binds_continue s (s.state.make blueprint).2
        (.call name arity (.callback (s.state.make blueprint).1)) fun _ => _
    | inr value =>
      refine settles_get fun s => ?_
      exact binds_continue s s.state (.call name arity (.value value)) fun _ => _
  | describe =>
    exact settles_get fun s => settles_bind (settles_pureRun _) (fun _ => settles_pure _) s

/-- Scripts change a session in no other way than by binding. -/
theorem rebinding_host (shown : Callback → String) : (host shown).Rebinding := by
  intro callback arguments
  change Settles (interface shown) (call shown callback arguments)
  unfold call
  split
  · exact settles_pureRun _
  · split
    · exact settles_throw _
    · refine settles_bind ?_ fun _ => settles_act shown callback _ _
      exact fun s => ⟨[], .state _ (.done _)⟩

theorem exists_act_eq_pureRun (shown : Callback → String) (callback : Callback)
    (values : List Value) {action : Action} (computes : action.computes = true) :
    ∃ outcome, act shown callback values action = Node.pureRun outcome := by
  cases action with
  | fold | negation | first | last => exact ⟨_, rfl⟩
  | count | constant => exact ⟨.ok _, rfl⟩
  | raise fault => exact ⟨.error fault, rfl⟩
  | counter | bindVariable | bindFunction | describe => contradiction

/-- Callbacks that compute from their arguments are stateless: scripts leave a recorded call. -/
theorem stateless_of_computes (shown : Callback → String) {callback : Callback}
    (computes : callback.blueprint.computes = true) : (host shown).Stateless callback := by
  intro arguments
  change ∃ outcome, ∀ s : Session, ∃ state,
    (call shown callback arguments).run s = (outcome, { s with state := state })
  unfold call
  split
  · exact ⟨_, fun s => ⟨s.state, rfl⟩⟩
  · next tag signature action made =>
    split
    · exact ⟨.error _, fun s => ⟨s.state, rfl⟩⟩
    · next values _ =>
      rw [made] at computes
      obtain ⟨outcome, acts⟩ := exists_act_eq_pureRun shown callback values computes
      refine ⟨outcome, fun s =>
        ⟨{ s.state with calls := (tag, values) :: s.state.calls }, ?_⟩⟩
      rw [acts, Node.run_bind]
      rfl

end Callback

end Formula
