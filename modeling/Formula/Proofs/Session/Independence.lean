import Formula.Proofs.Session.History
import Mathlib.Data.List.Pairwise

/-! Evaluation does not depend on the history of a session whose callbacks are stateless: only the
last successful assignment of each symbol counts. A session and a fresh one with these assignments
hold the same, and evaluations from sessions that hold the same go on side by side. -/
namespace Formula

/-- All callbacks of these slots are stateless. -/
def Host.StatelessAt (host : Host κ σ) (callbacks : Nat → Option κ) : Prop :=
  ∀ n callback, callbacks n = some callback → host.Stateless callback

/-- The assignment is not of a callback that keeps a state. -/
def Assignment.Stateless (host : Host κ σ) (a : Assignment κ) : Prop :=
  ∀ callback, a.callback? = some callback → host.Stateless callback

/-- The operation does not bind a callback that keeps a state. -/
def Operation.Stateless (host : Host κ σ) (op : Operation κ) : Prop :=
  ∀ a, op.assignment? host.toInterface = some a → a.Stateless host

/-- The last assignment of each symbol. -/
def latest (made : List (Assignment κ)) : List (Assignment κ) :=
  made.pwFilter fun a b => a.symbol ≠ b.symbol

/-- The successful assignments of operations that follow one another. Evaluations make none. -/
def Session.effects (host : Host κ σ) (s : Session κ σ) : List (Operation κ) → List (Assignment κ)
  | [] => []
  | op :: ops => op.made host.toInterface s ++ effects host (op.perform host s) ops

/-- Makes assignments one after the other. -/
def Session.assign (interface : Interface κ) (s : Session κ σ) (assignments : List (Assignment κ)) :
    Except Fault (Session κ σ) :=
  assignments.foldlM (fun s a => a.attempt interface s) s

/-! ### The last assignments -/

theorem latest_cons_of_fresh {a : Assignment κ} {made : List (Assignment κ)}
    (fresh : ∀ b ∈ latest made, a.symbol ≠ b.symbol) : latest (a :: made) = a :: latest made :=
  List.pwFilter_cons_of_pos fresh

theorem latest_cons_of_repeated {a b : Assignment κ} {made : List (Assignment κ)}
    (again : b ∈ latest made) (same : a.symbol = b.symbol) : latest (a :: made) = latest made :=
  List.pwFilter_cons_of_neg fun fresh => fresh b again same

theorem lastFor_eq_some_iff {made : List (Assignment κ)} {symbol : Symbol} {a : Assignment κ} :
    lastFor made symbol = some a ↔ a ∈ latest made ∧ a.symbol = symbol := by
  induction made generalizing a with
  | nil => simp [lastFor, latest]
  | cons b made ih =>
    rw [lastFor_cons]
    by_cases fresh : ∀ c ∈ latest made, b.symbol ≠ c.symbol
    · rw [latest_cons_of_fresh fresh, List.mem_cons]
      by_cases same : b.symbol = symbol
      · have unmade : lastFor made symbol = none := by
          rw [Option.eq_none_iff_forall_ne_some]
          intro c found
          obtain ⟨last, sameSymbol⟩ := ih.mp found
          exact fresh c last (same.trans sameSymbol.symm)
        have others : a ∈ latest made → a.symbol ≠ symbol := fun last sameSymbol =>
          fresh a last (same.trans sameSymbol.symm)
        rw [unmade, if_pos same, Option.none_or, Option.some.injEq]
        constructor
        · rintro rfl
          exact ⟨.inl rfl, same⟩
        · rintro ⟨rfl | last, sameSymbol⟩
          · rfl
          · exact absurd sameSymbol (others last)
      · rw [if_neg same, Option.or_none, ih]
        constructor
        · rintro ⟨last, sameSymbol⟩
          exact ⟨.inr last, sameSymbol⟩
        · rintro ⟨rfl | last, sameSymbol⟩
          · exact absurd sameSymbol same
          · exact ⟨last, sameSymbol⟩
    · push Not at fresh
      obtain ⟨c, last, sameSymbol⟩ := fresh
      rw [latest_cons_of_repeated last sameSymbol, ← ih]
      by_cases same : b.symbol = symbol
      · rw [ih.mpr ⟨last, sameSymbol.symm.trans same⟩, Option.some_or]
      · rw [if_neg same, Option.or_none]

/-- Of assignments of different symbols, each is the last one of its symbol. -/
theorem lastFor_eq_some_of_distinct {made : List (Assignment κ)}
    (distinct : made.Pairwise fun a b => a.symbol ≠ b.symbol) :
    lastFor made symbol = some a ↔ a ∈ made ∧ a.symbol = symbol := by
  have own : latest made = made := List.pwFilter_eq_self.mpr distinct
  rw [lastFor_eq_some_iff, own]

theorem lastFor_of_perm {made others : List (Assignment κ)} (perm : others.Perm (latest made))
    (symbol : Symbol) : lastFor others symbol = lastFor made symbol := by
  have distinct : others.Pairwise fun a b => a.symbol ≠ b.symbol :=
    (List.pairwise_pwFilter made).perm perm.symm Ne.symm
  ext a
  rw [lastFor_eq_some_of_distinct distinct, lastFor_eq_some_iff, perm.mem_iff]

/-! ### Stateless histories -/

theorem Operation.Stateless.made {op : Operation κ} {host : Host κ σ}
    (stateless : op.Stateless host) {s : Session κ σ}
    (member : a ∈ op.made host.toInterface s) : a.Stateless host := by
  unfold Operation.made at member
  cases asks : op.assignment? host.toInterface with
  | none => simp [asks] at member
  | some b =>
    rw [asks] at member
    cases outcome : b.attempt host.toInterface s with
    | error fault => simp [outcome] at member
    | ok t =>
      have same : a = b := by simpa [outcome] using member
      exact same ▸ stateless b asks

theorem Binds.statelessAt {host : Host κ σ} {s t : Session κ σ}
    (binds : Binds host.toInterface s made t) (stateless : ∀ a ∈ made, a.Stateless host)
    (before : host.StatelessAt s.callbacks) : host.StatelessAt t.callbacks := by
  induction binds with
  | done => exact before
  | state state _ ih => exact ih stateless before
  | assign success _ ih =>
    refine ih (fun b member => stateless b (List.mem_cons_of_mem _ member)) ?_
    have first := stateless _ List.mem_cons_self
    cases Assignment.attempt_ok_iff.mp success with
    | var => exact before
    | call =>
      intro n callback held
      simp only [update] at held
      split at held
      · exact first callback held
      · exact before n callback held
  | validate success _ ih =>
    obtain ⟨_, rfl⟩ := Session.validate_ok_iff.mp success
    exact ih stateless before

/-- Evaluating with stateless callbacks binds nothing. -/
theorem Host.StatelessAt.evaluate_binds {host : Host κ σ} {s : Session κ σ}
    (stateless : host.StatelessAt s.callbacks) :
    Binds host.toInterface s [] (s.evaluate host).2 := by
  cases outcome : s.validate with
  | error fault =>
    rw [Session.evaluate_of_error host outcome]
    exact .done s
  | ok t =>
    have sameCallbacks : t.callbacks = s.callbacks := by
      rw [(Session.validate_ok_iff.mp outcome).2]
    have maintains : Maintains host t.root (fun u => ∃ state, u = { t with state := state })
        (fun _ u => ∃ state, u = { t with state := state }) := by
      refine ⟨fun inv _ => inv, fun inv _ _ => inv, fun inv _ _ => inv, ?_⟩
      rintro u slot callback values ⟨state, rfl⟩ _ held
      obtain ⟨outcome, called⟩ := stateless slot.id callback (sameCallbacks ▸ held) values
      obtain ⟨later, run⟩ := called { t with state := state }
      rw [run]
      exact keeps_of_snd ⟨later, rfl⟩
    obtain ⟨state, same⟩ := (maintains.evaluate t.policy ⟨t.state, rfl⟩ t.root
      (List.Subset.refl _) (List.Subset.refl _)).snd
    rw [Session.evaluate_of_ok host outcome, same]
    exact .validate outcome (.state state (.done _))

/-- With stateless callbacks, the assignments of a history are those of its operations. -/
theorem Host.StatelessAt.history {host : Host κ σ} {s : Session κ σ}
    (before : host.StatelessAt s.callbacks) {ops : List (Operation κ)}
    (stateless : ∀ op ∈ ops, op.Stateless host) :
    History host s ops (s.effects host ops) ∧ ∀ a ∈ s.effects host ops, a.Stateless host := by
  induction ops generalizing s with
  | nil => exact ⟨.nil s, by simp [Session.effects]⟩
  | cons op ops ih =>
    have first : ∀ a ∈ op.made host.toInterface s, a.Stateless host :=
      fun a member => (stateless op List.mem_cons_self).made member
    have accounts : op.Accounts host s (op.made host.toInterface s) := by
      cases op with
      | evaluate => exact before.evaluate_binds
      | _ => rfl
    obtain ⟨onward, others⟩ := ih (accounts.binds.statelessAt first before)
      fun op member => stateless op (List.mem_cons_of_mem _ member)
    refine ⟨.cons accounts onward, ?_⟩
    intro a member
    rcases List.mem_append.mp member with member | member
    · exact first a member
    · exact others a member

/-! ### Sessions that hold the same -/

theorem Assignment.Effect.transfer {a : Assignment κ} {s t u : Session κ σ}
    (effect : Effect interface s a t) (same : u.context = s.context) :
    ∃ v, Effect interface u a v := by
  cases effect with
  | var found number => exact ⟨_, .var (same ▸ found) number⟩
  | call found accepted =>
    refine ⟨_, .call ?_ accepted⟩
    simpa only [Session.functionSlot?, same] using found

/-- Assignments that succeed somewhere succeed one after the other. -/
theorem exists_assign {interface : Interface κ} {assignments : List (Assignment κ)}
    {s : Session κ σ} (effects : ∀ a ∈ assignments, ∃ before after : Session κ σ,
      before.context = s.context ∧ Assignment.Effect interface before a after) :
    ∃ t, s.assign interface assignments = .ok t ∧ Binds interface s assignments t := by
  induction assignments generalizing s with
  | nil => exact ⟨s, rfl, .done s⟩
  | cons a assignments ih =>
    obtain ⟨before, after, same, effect⟩ := effects a List.mem_cons_self
    obtain ⟨next, effect⟩ := effect.transfer same.symm
    have success := Assignment.attempt_ok_iff.mpr effect
    have others : ∀ b ∈ assignments, ∃ before after : Session κ σ,
        before.context = next.context ∧ Assignment.Effect interface before b after := by
      intro b member
      rw [effect.extends.context]
      exact effects b (List.mem_cons_of_mem a member)
    obtain ⟨t, assigned, binds⟩ := ih others
    refine ⟨t, ?_, .assign success binds⟩
    rw [Session.assign, List.foldlM_cons, success]
    exact assigned

/-- The sessions hold the same for the symbols of a tree. -/
structure Session.HoldsAlike (root : Node) (s : Session κ σ) (t : Session κ τ) : Prop where
  values : ∀ slot ∈ root.variableSymbols, s.values slot.id = t.values slot.id
  callbacks : ∀ slot ∈ root.functionSymbols, s.callbacks slot.id = t.callbacks slot.id

/-- Calls of stateless callbacks come to the same in all sessions. -/
theorem Host.simulates_stateless (host : Host κ σ) (root : Node) :
    Simulates host.recording host.recording root fun s t =>
      s.HoldsAlike root t ∧ host.StatelessAt s.callbacks ∧ s.state.2 = t.state.2 where
  sameValue related member := related.1.values _ member
  sameCallback related member := related.1.callbacks _ member
  call := by
    rintro s t slot callback values ⟨alike, stateless, log⟩ _ held
    obtain ⟨outcome, called⟩ := stateless slot.id callback held values
    have recorded : ∀ u : Session κ (σ × List (CallEvent κ)), ∃ state,
        (host.recording.call callback values).run u = (outcome, u.withState
          (state, u.state.2 ++ [⟨callback, values, outcome⟩])) := by
      intro u
      obtain ⟨state, run⟩ := called u.forget
      refine ⟨state, ?_⟩
      change (((host.call callback values).run u.forget).1, _) = _
      rw [run]
      rfl
    obtain ⟨_, first⟩ := recorded s
    obtain ⟨_, second⟩ := recorded t
    rw [first, second]
    exact ⟨rfl, ⟨alike.values, alike.callbacks⟩, stateless, congrArg (· ++ _) log⟩

/-- Evaluations from sessions that hold the same come to the same, with the same calls. -/
theorem Host.StatelessAt.evaluate_alike {host : Host κ σ} {s t u v : Session κ σ}
    (stateless : host.StatelessAt u.callbacks) (validated : s.validate = .ok u)
    (other : t.validate = .ok v) (root : v.root = u.root) (policy : v.policy = u.policy)
    (alike : u.HoldsAlike u.root v) :
    (s.evaluate host).1 = (t.evaluate host).1 ∧ s.calls host = t.calls host := by
  have start : (u.withState (u.state, ([] : List (CallEvent κ)))).HoldsAlike u.root
      (v.withState (v.state, ([] : List (CallEvent κ)))) := ⟨alike.values, alike.callbacks⟩
  obtain ⟨outcome, _, _, log⟩ := (host.simulates_stateless u.root).evaluate u.policy
    ⟨start, stateless, rfl⟩ u.root (List.Subset.refl _) (List.Subset.refl _)
  obtain ⟨evaluated, calls⟩ := Session.evaluate_eq_recorded host validated
  obtain ⟨evaluatedOther, callsOther⟩ := Session.evaluate_eq_recorded host other
  rw [evaluated, evaluatedOther, calls, callsOther, Session.recorded, Session.recorded, root,
    policy]
  exact ⟨outcome, log⟩

theorem Context.missing?_congr (context : Context) {bound others : List Symbol}
    (same : ∀ symbol, symbol ∈ bound ↔ symbol ∈ others) :
    context.missing? bound = context.missing? others := by
  have contains : ∀ symbol, bound.contains symbol = others.contains symbol := by
    intro symbol
    rw [Bool.eq_iff_iff, List.contains_iff_mem, List.contains_iff_mem, same]
  simp only [missing?, contains]

/-- Sessions of the same expression hold the same if each symbol has the same last assignment. -/
theorem holdsAlike_of_last {compiled : Compiled} (tabulated : compiled.Tabulated)
    {s : Session κ σ} {t : Session κ τ}
    (binds : Binds interface (Session.start compiled policy state) made s)
    (other : Binds interface (Session.start compiled policy fresh) others t)
    (sameLast : ∀ symbol, lastFor made symbol = lastFor others symbol) :
    s.HoldsAlike compiled.root t := by
  constructor
  · intro slot member
    have tabled : slot ∈ compiled.context.variables := (tabulated.mem_variables slot).mpr member
    rw [binds.values_eq tabulated.tabulated tabled, other.values_eq tabulated.tabulated tabled,
      lastGiven, lastGiven, sameLast]
    rfl
  · intro slot member
    have tabled : slot ∈ compiled.context.functions := (tabulated.mem_functions slot).mpr member
    rw [binds.callbacks_eq tabulated.tabulated tabled,
      other.callbacks_eq tabulated.tabulated tabled, lastGiven, lastGiven, sameLast]
    rfl

/-- Only the last assignments of a session matter to its evaluation. -/
theorem Host.StatelessAt.evaluate_of_last {host : Host κ σ} {s t : Session κ σ}
    (stateless : host.StatelessAt s.callbacks) {compiled : Compiled}
    (tabulated : compiled.Tabulated)
    (binds : Binds host.toInterface (Session.start compiled policy state) made s)
    (other : Binds host.toInterface (Session.start compiled policy fresh) others t)
    (sameLast : ∀ symbol, lastFor made symbol = lastFor others symbol) :
    (s.evaluate host).1 = (t.evaluate host).1 ∧ s.calls host = t.calls host := by
  have sameSymbols : ∀ symbol,
      symbol ∈ made.map Assignment.symbol ↔ symbol ∈ others.map Assignment.symbol := by
    intro symbol
    rw [← lastFor_isSome, ← lastFor_isSome, sameLast]
  have validated := validate_eq_of_binds tabulated binds
  have validatedOther := validate_eq_of_binds tabulated other
  rw [← compiled.context.missing?_congr sameSymbols] at validatedOther
  cases missing : compiled.context.missing? (made.map Assignment.symbol) with
  | some symbol =>
    rw [missing] at validated validatedOther
    -- Neither session gets beyond validating, and both lack the same symbol.
    rw [Session.evaluate_of_error host validated, Session.evaluate_of_error host validatedOther,
      s.calls_of_error host validated, t.calls_of_error host validatedOther]
    exact ⟨rfl, rfl⟩
  | none =>
    rw [missing] at validated validatedOther
    have root : s.root = compiled.root := binds.extends.root
    have alike := holdsAlike_of_last tabulated binds other sameLast
    have kept : host.StatelessAt { s with validated := true }.callbacks := stateless
    refine kept.evaluate_alike validated validatedOther ?_ ?_ ?_
    · exact other.extends.root.trans root.symm
    · exact other.extends.policy.trans binds.extends.policy.symm
    · rw [← root] at alike
      exact ⟨alike.values, alike.callbacks⟩

/-- The outcome and the calls of the next evaluation are those of a fresh session of the same
expression in which only the last successful assignment of each symbol is made, in any order. -/
theorem evaluate_history_independent (host : Host κ σ)
    (success : Compiled.compile kind source name = .ok compiled) (policy : DivisionPolicy)
    (state fresh : σ) (ops : List (Operation κ)) (stateless : ∀ op ∈ ops, op.Stateless host)
    (assignments : List (Assignment κ))
    (last : assignments.Perm (latest ((Session.start compiled policy state).effects host ops))) :
    ∃ t, (Session.start compiled policy fresh).assign host.toInterface assignments = .ok t ∧
      (((Session.start compiled policy state).perform host ops).evaluate host).1 =
        (t.evaluate host).1 ∧
      ((Session.start compiled policy state).perform host ops).calls host = t.calls host := by
  have tabulated := tabulated_of_compile success
  have before : host.StatelessAt (Session.start compiled policy state : Session κ σ).callbacks := by
    intro n callback held
    contradiction
  obtain ⟨history, made⟩ := before.history stateless
  have binds := history.binds
  have effects : ∀ a ∈ assignments, ∃ before after : Session κ σ,
      before.context = compiled.context ∧ Assignment.Effect host.toInterface before a after := by
    intro a member
    exact binds.effect_of_mem ((List.pwFilter_sublist _).subset (last.mem_iff.mp member))
  obtain ⟨t, assigned, bindsFresh⟩ :=
    exists_assign (s := Session.start compiled policy fresh) effects
  have sameLast := lastFor_of_perm last
  refine ⟨t, assigned, ?_⟩
  exact (binds.statelessAt made before).evaluate_of_last tabulated binds bindsFresh
    fun symbol => (sameLast symbol).symm

/-- A history in which operations fail and `x` is bound twice. -/
theorem evaluate_history_independent_of_script :
    let negate : Callback := ⟨0, .script "f" (.fixed 1) .negation⟩
    let ops : List (Operation Callback) := [.bindVariable "x" (.int 1), .evaluate,
      .bind "f" (.callback negate), .bind "y" (.value (.int 5)), .bindVariable "x" .none,
      .evaluate, .bindVariable "z" (.int 2), .bindVariable "x" (.int 3), .describe]
    let assignments : List (Assignment Callback) := [.var "x" (.int 3), .var "y" (.int 5),
      .call "f" 1 (.callback negate)]
    let host := Callback.host Callback.shown
    let start : Callback.Session := .start .callAndVariable .checked .empty
    Compiled.compile .int "f(x)+y" "<expr>" = .ok .callAndVariable ∧
      (∀ op ∈ ops, op.Stateless host) ∧
      assignments.Perm (latest (start.effects host ops)) ∧
      ∃ t, start.assign host.toInterface assignments = .ok t ∧
        ((start.perform host ops).evaluate host).1 = (t.evaluate host).1 ∧
        (start.perform host ops).calls host = t.calls host := by
  intro negate ops assignments host start
  have pure : host.Stateless negate := Callback.stateless_of_computes Callback.shown rfl
  have stateless : ∀ op ∈ ops, op.Stateless host := by
    intro op member a asks callback given
    simp only [ops, List.mem_cons, List.not_mem_nil, or_false] at member
    rcases member with rfl | rfl | rfl | rfl | rfl | rfl | rfl | rfl | rfl <;> cases asks <;>
      cases given
    exact pure
  have effects : start.effects host ops = [.var "x" (.int 1), .call "f" 1 (.callback negate),
      .var "y" (.int 5), .var "x" (.int 3)] := by
    simp only [start, host, ops, negate]
    rfl
  have last : assignments.Perm (latest (start.effects host ops)) := by
    rw [effects]
    exact (List.reverse_perm assignments).symm
  exact ⟨compile_callAndVariable, stateless, last, evaluate_history_independent host
    compile_callAndVariable .checked .empty .empty ops stateless assignments last⟩

end Formula
