import Formula.Proofs.Session.Evaluation

/-! The calls of an evaluation. A host that records every call gives the same outcomes as the host
it is made from, so what it records are the calls that an evaluation makes. Callbacks may bind
symbols while they run; a fault about a symbol without a binding is then always one that a callback
raised, since all symbols were bound before and stay so. -/
namespace Formula

/-- A call of a callback, with what it came to. -/
structure CallEvent (κ : Type) where
  callback : κ
  arguments : List Value
  outcome : Except Fault Value

namespace Session

/-- The session with another state of the callbacks. -/
def withState (s : Session κ σ) (state : τ) : Session κ τ :=
  ⟨s.source, s.root, s.context, s.values, s.callbacks, s.validated, s.policy, state⟩

/-- The session without what is recorded beside the state. -/
def forget (s : Session κ (σ × τ)) : Session κ σ :=
  s.withState s.state.1

end Session

/-- The host that also records its calls. -/
def Host.recording (host : Host κ σ) : Host κ (σ × List (CallEvent κ)) where
  toInterface := host.toInterface
  call callback arguments := ExceptT.mk fun s =>
    let outcome := (host.call callback arguments).run s.forget
    (outcome.1, outcome.2.withState
      (outcome.2.state, s.state.2 ++ [⟨callback, arguments, outcome.1⟩]))

/-- The calls that the next evaluation of a session makes, in their order. -/
def Session.calls (host : Host κ σ) (s : Session κ σ) : List (CallEvent κ) :=
  ((s.withState (s.state, [])).evaluate host.recording).2.state.2

/-! ### Recording changes nothing -/

namespace Session

theorem evaluate_of_ok {s t : Session κ σ} (host : Host κ σ) (success : s.validate = .ok t) :
    s.evaluate host = (Node.evaluate host t.policy t.root).run t := by
  rw [evaluate, success]
  rfl

theorem evaluate_of_error {s : Session κ σ} (host : Host κ σ) (failed : s.validate = .error fault) :
    s.evaluate host = (.error fault, s) := by
  rw [evaluate, failed]

theorem validate_withState (s : Session κ σ) (state : τ) :
    (s.withState state).validate = s.validate.map (·.withState state) := by
  have sameFlag : (s.withState state).validated = s.validated := rfl
  have sameVariable : (s.withState state).unboundVariable? = s.unboundVariable? := rfl
  have sameFunction : (s.withState state).unboundFunction? = s.unboundFunction? := rfl
  rw [validate, validate, sameFlag, sameVariable, sameFunction]
  split
  · rfl
  · cases s.unboundVariable? <;> cases s.unboundFunction? <;> rfl

theorem simulates_recording (host : Host κ σ) (root : Node) :
    Simulates host host.recording root fun s recorded => recorded.forget = s where
  sameValue := by
    rintro s recorded slot rfl _
    rfl
  sameCallback := by
    rintro s recorded slot rfl _
    rfl
  call := by
    rintro s recorded slot callback values rfl _ _
    exact ⟨rfl, rfl⟩

/-- Recording the calls does not change an evaluation. -/
theorem evaluate_recording (host : Host κ σ) (s : Session κ σ) (log : List (CallEvent κ)) :
    Alike (fun t recorded => recorded.forget = t) (s.evaluate host)
      ((s.withState (s.state, log)).evaluate host.recording) := by
  have validated := s.validate_withState (s.state, log)
  cases outcome : s.validate with
  | error fault =>
    rw [outcome] at validated
    rw [evaluate_of_error host outcome, evaluate_of_error host.recording validated]
    exact ⟨rfl, rfl⟩
  | ok t =>
    have same := (validate_ok_iff.mp outcome).2
    have related : (t.withState (s.state, log)).forget = t := by
      rw [same]
      rfl
    rw [outcome] at validated
    rw [evaluate_of_ok host outcome, evaluate_of_ok host.recording validated]
    exact (simulates_recording host t.root).evaluate t.policy related t.root
      (List.Subset.refl _) (List.Subset.refl _)

/-- The recorded evaluation of a session that has been validated. -/
def recorded (host : Host κ σ) (s : Session κ σ) : Outcome κ (σ × List (CallEvent κ)) Value :=
  (Node.evaluate host.recording s.policy s.root).run (s.withState (s.state, []))

/-- An evaluation is the recorded one after validating. -/
theorem evaluate_eq_recorded {s t : Session κ σ} (host : Host κ σ) (success : s.validate = .ok t) :
    (s.evaluate host).1 = (t.recorded host).1 ∧ s.calls host = (t.recorded host).2.state.2 := by
  have validated := s.validate_withState (s.state, ([] : List (CallEvent κ)))
  have sameState : s.state = t.state := by
    rw [(validate_ok_iff.mp success).2]
  rw [success] at validated
  have run : (s.withState (s.state, [])).evaluate host.recording = t.recorded host := by
    rw [evaluate_of_ok host.recording validated, recorded, sameState]
    rfl
  rw [(s.evaluate_recording host []).1, calls, run]
  exact ⟨rfl, rfl⟩

end Session

/-! ### Callbacks that bind -/

/-- Calls change a session in no other way than by binding and validating. -/
def Host.Rebinding (host : Host κ σ) : Prop :=
  ∀ callback arguments s, ∃ made,
    Binds host.toInterface s made ((host.call callback arguments).run s).2

/-- What a call comes to depends on its arguments alone, and calls do not touch the session. They
may leave a trace in the state of the callbacks, which has no influence on what calls come to. -/
def Host.Stateless (host : Host κ σ) (callback : κ) : Prop :=
  ∀ arguments, ∃ outcome, ∀ s, ∃ state,
    (host.call callback arguments).run s = (outcome, { s with state := state })

theorem keeps_of_snd {Inv : Session κ σ → Prop} {outcome : Outcome κ σ α} (inv : Inv outcome.2) :
    Keeps Inv (fun _ => Inv) outcome := by
  rcases outcome with ⟨_ | _, t⟩ <;> exact inv

theorem Keeps.snd {Inv : Session κ σ → Prop} {outcome : Outcome κ σ α}
    (keeps : Keeps Inv (fun _ => Inv) outcome) : Inv outcome.2 := by
  rcases outcome with ⟨_ | _, t⟩ <;> exact keeps

theorem Keeps.of_error {Inv : Session κ σ → Prop} {outcome : Outcome κ σ α}
    (keeps : Keeps Inv Bad outcome) (failed : outcome.1 = .error fault) : Bad fault outcome.2 := by
  rcases outcome with ⟨_, t⟩
  cases failed
  exact keeps

namespace Host.Rebinding
variable {host : Host κ σ}

/-- An evaluation changes a session in no other way than by binding and validating. -/
theorem evaluate_binds (rebinding : host.Rebinding) (s : Session κ σ) :
    ∃ made, Binds host.toInterface s made (s.evaluate host).2 := by
  cases outcome : s.validate with
  | error fault =>
    rw [Session.evaluate_of_error host outcome]
    exact ⟨[], .done s⟩
  | ok t =>
    have maintains : Maintains host t.root (fun u => ∃ made, Binds host.toInterface t made u)
        (fun _ u => ∃ made, Binds host.toInterface t made u) := by
      refine ⟨fun inv _ => inv, fun inv _ _ => inv, fun inv _ _ => inv, ?_⟩
      rintro u slot callback values ⟨made, binds⟩ _ _
      obtain ⟨more, continued⟩ := rebinding callback values u
      exact keeps_of_snd ⟨made ++ more, binds.trans continued⟩
    rw [Session.evaluate_of_ok host outcome]
    obtain ⟨made, binds⟩ := (maintains.evaluate t.policy ⟨[], .done t⟩ t.root
      (List.Subset.refl _) (List.Subset.refl _)).snd
    exact ⟨made, .validate outcome binds⟩

/-- In an evaluation of a session with all symbols bound, a fault about a symbol is one that a
recorded call came to. -/
theorem maintains_recording (rebinding : host.Rebinding) {s : Session κ (σ × List (CallEvent κ))}
    (bound : s.Bound) : Maintains host.recording s.root s.Extends fun fault t =>
      fault.isAboutSymbol = true → ∃ call ∈ t.state.2, call.outcome = .error fault where
  own inv own about := by
    rw [own] at about
    contradiction
  unboundVariable inv member held := by
    have present := inv.values _ (bound.values _ member)
    rw [held] at present
    contradiction
  unboundFunction inv member held := by
    have present := inv.callbacks _ (bound.callbacks _ member)
    rw [held] at present
    contradiction
  call := by
    intro t slot callback values inv _ _
    obtain ⟨made, binds⟩ := rebinding callback values t.forget
    have later := binds.extends
    change Keeps _ _ (((host.call callback values).run t.forget).1, _)
    cases outcome : ((host.call callback values).run t.forget).1 with
    | ok value =>
      exact inv.trans ⟨later.compiled, later.policy, later.values, later.callbacks⟩
    | error fault =>
      intro _
      exact ⟨⟨callback, values, .error fault⟩, by simp [Session.withState], rfl⟩

/-- A fault about a symbol comes from validating or from a callback. -/
theorem fault_origin (rebinding : host.Rebinding) {s : Session κ σ} (sound : s.Sound)
    (failed : (s.evaluate host).1 = .error fault) (about : fault.isAboutSymbol = true) :
    s.validate = .error fault ∨ ∃ call ∈ s.calls host, call.outcome = .error fault := by
  cases outcome : s.validate with
  | error other =>
    rw [Session.evaluate_of_error host outcome] at failed
    cases failed
    exact .inl rfl
  | ok t =>
    right
    obtain ⟨bound, same⟩ := sound.validate_ok_iff.mp outcome
    obtain ⟨evaluated, calls⟩ := Session.evaluate_eq_recorded host outcome
    have boundStart : (t.withState (t.state, ([] : List (CallEvent κ)))).Bound := by
      rw [same]
      exact ⟨bound.values, bound.callbacks⟩
    have keeps := (rebinding.maintains_recording boundStart).evaluate t.policy
      (.refl _) t.root (List.Subset.refl _) (List.Subset.refl _)
    rw [calls]
    exact keeps.of_error (evaluated.symm.trans failed) about

end Host.Rebinding

end Formula
