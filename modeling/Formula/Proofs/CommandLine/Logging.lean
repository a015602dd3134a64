import Formula.Proofs.CommandLine.FileSource

/-! Logs and outcomes. What is logged before a source is evaluated does not change what evaluating
it comes to, so the stages of an evaluation can be told by their outcomes. -/
namespace Formula.CommandLine
open Logged

/-- What a computation comes to does not depend on what was logged before. -/
def Unlogged (computation : Logged α) : Prop :=
  ∀ events, (computation.run.run events).1 = computation.outcome.1

theorem unlogged_ofExcept (outcome : Except Fault α) : Unlogged (Logged.ofExcept outcome) :=
  fun _ => rfl

theorem unlogged_pure (a : α) : Unlogged (pure a) :=
  fun _ => rfl

theorem unlogged_log (event : Event) : Unlogged (log event) :=
  fun _ => rfl

theorem unlogged_bind {computation : Logged α} {next : α → Logged β}
    (first : Unlogged computation) (second : ∀ a, Unlogged (next a)) :
    Unlogged (computation >>= next) := by
  intro events
  have same := first events
  rw [Logged.outcome] at same ⊢
  cases run : computation.run.run events with
  | mk outcome later =>
    cases start : computation.run.run [] with
    | mk other after =>
      rw [run, start] at same
      dsimp only at same
      subst same
      cases outcome with
      | ok a =>
        rw [run_bind_ok run, run_bind_ok start, second a later, second a after]
      | error fault => rw [run_bind_error run, run_bind_error start]

/-- What consecutive computations come to, if the log does not matter to the second one. -/
theorem outcome_bind {computation : Logged α} {next : α → Logged β}
    (unlogged : ∀ a, Unlogged (next a)) : (computation >>= next).outcome.1 =
      computation.outcome.1 >>= fun a => (next a).outcome.1 := by
  rw [Logged.outcome, Logged.outcome]
  cases run : computation.run.run [] with
  | mk outcome later =>
    cases outcome with
    | ok a => rw [run_bind_ok run, unlogged a later]; rfl
    | error fault => rw [run_bind_error run]; rfl

theorem unlogged_bindVariable (s : Callback.Session) (name : String) (value : Value) :
    Unlogged (bindVariable s name value) := by
  apply unlogged_bind (unlogged_ofExcept _)
  intro t
  dsimp only
  split
  · exact unlogged_bind (unlogged_log _) fun _ => unlogged_pure t
  · exact unlogged_pure t

theorem unlogged_assign (kind : NumberKind) (s : Callback.Session) (texts assigned : List String) :
    Unlogged (assign kind s assigned texts) := by
  induction texts generalizing s assigned with
  | nil => exact unlogged_pure _
  | cons text texts ih =>
    rw [assign]
    split
    · exact unlogged_pure _
    · split
      · exact unlogged_pure _
      · exact unlogged_bind (unlogged_bindVariable _ _ _) fun t => ih t _

theorem unlogged_bindConstants (assigned : List String) (s : Callback.Session)
    (constants : List (String × Value)) : Unlogged (bindConstants assigned s constants) := by
  induction constants generalizing s with
  | nil => exact unlogged_pure s
  | cons constant constants ih =>
    rw [bindConstants]
    dsimp only
    split
    · exact unlogged_bind (unlogged_bindVariable _ _ _) ih
    · exact ih s

theorem unlogged_bindFunctions (s : Callback.Session) (slots : List FunctionSlot) :
    Unlogged (bindFunctions s slots) := by
  induction slots generalizing s with
  | nil => exact unlogged_pure s
  | cons slot slots ih =>
    rw [bindFunctions]
    dsimp only
    split
    · refine unlogged_bind (unlogged_bind (unlogged_ofExcept _) fun t => ?_) ih
      exact unlogged_bind (unlogged_log _) fun _ => unlogged_pure t
    · exact ih s

theorem unlogged_bindMathematics (assigned : List String) (s : Callback.Session) :
    Unlogged (bindMathematics assigned s) :=
  unlogged_bind (unlogged_bindConstants _ _ _) fun t => unlogged_bindFunctions t _

theorem unlogged_compile (config : Config) (source : Source) :
    Unlogged (compile config source) := by
  apply unlogged_bind (unlogged_ofExcept _)
  intro text
  apply unlogged_bind (unlogged_log _)
  intro _
  apply unlogged_bind (unlogged_ofExcept _)
  intro compiled
  exact unlogged_bind (unlogged_log _) fun _ => unlogged_pure compiled

theorem unlogged_evaluate (s : Callback.Session) : Unlogged (evaluate s) := by
  apply unlogged_bind (unlogged_ofExcept _)
  intro t
  exact unlogged_bind (unlogged_log _) fun _ => unlogged_ofExcept _

/-- Mathematics is bound if that is asked for. -/
def bindOptions (particulars : Particulars) (names : List String) (s : Callback.Session) :
    Logged Callback.Session :=
  if particulars.math then bindMathematics names s else pure s

/-- What is done when the assignments have been looked at. -/
def conclude (particulars : Particulars) : Except Misassignment (Callback.Session × List String) →
    Logged (Except Misassignment Value)
  | .error cause => pure (.error cause)
  | .ok (s, names) => bindOptions particulars names s >>= fun t =>
    evaluate t >>= fun value => pure (.ok value)

/-- The stages of evaluating a source. -/
theorem evaluateSource_eq (config : Config) (source : Source) (particulars : Particulars) :
    evaluateSource config source particulars = compile config source >>= fun compiled =>
      assign config.numberKind (.start compiled config.policy .empty) [] particulars.assignments >>=
        conclude particulars := by
  refine bind_congr fun compiled => bind_congr fun outcome => ?_
  cases outcome with
  | error cause => rfl
  | ok bound =>
    dsimp only [conclude, bindOptions]
    split <;> rfl

theorem unlogged_bindOptions (particulars : Particulars) (names : List String)
    (s : Callback.Session) : Unlogged (bindOptions particulars names s) := by
  unfold bindOptions
  split
  · exact unlogged_bindMathematics names s
  · exact unlogged_pure s

theorem unlogged_conclude (particulars : Particulars)
    (outcome : Except Misassignment (Callback.Session × List String)) :
    Unlogged (conclude particulars outcome) := by
  cases outcome with
  | error cause => exact unlogged_pure _
  | ok bound =>
    apply unlogged_bind (unlogged_bindOptions particulars bound.2 bound.1)
    intro t
    exact unlogged_bind (unlogged_evaluate t) fun _ => unlogged_pure _

/-- Evaluating a source does not depend on the log. -/
theorem unlogged_evaluateSource (config : Config) (source : Source) (particulars : Particulars) :
    Unlogged (evaluateSource config source particulars) := by
  rw [evaluateSource_eq]
  apply unlogged_bind (unlogged_compile config source)
  intro compiled
  exact unlogged_bind (unlogged_assign _ _ _ _) (unlogged_conclude particulars)

end Formula.CommandLine
