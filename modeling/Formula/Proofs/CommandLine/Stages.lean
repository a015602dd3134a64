import Formula.Proofs.CommandLine.Evaluation
import Formula.Proofs.CommandLine.Logging
import Formula.Proofs.Session.CallOrder
import Formula.Proofs.Value.Slips

/-! The stages of evaluating a source: it is compiled, assignments are made, mathematics is bound if
that is asked for, the session is validated and its expression evaluated. What each stage comes to
is told apart from the log. A session that has got as far as its evaluation holds numbers that can
occur in an expression of the kind in use, and callbacks only where mathematics is bound. -/
namespace Formula.CommandLine
open Logged

/-- The callbacks of an evaluation are called by this host. -/
def standardHost : Host Callback Record :=
  Callback.host Callback.describedAsBuiltin

/-! ### Stages of an evaluation -/

/-- The session is the one that the expression is evaluated in: the source has been compiled, the
assignments have been made, mathematics has been bound if that is asked for, and no symbol is left
without a binding. -/
inductive Prepared (config : Config) (source : Source) (particulars : Particulars) :
    Callback.Session → Prop where
  | intro (read : source.text = .ok text)
      (compiles : Compiled.compile config.numberKind text source.name = .ok compiled)
      (assigned : (assign config.numberKind (.start compiled config.policy .empty) []
        particulars.assignments).outcome.1 = .ok (.ok (t, names)))
      (bound : (bindOptions particulars names t).outcome.1 = .ok u)
      (validated : u.validate = .ok s) : Prepared config source particulars s

section
variable {config : Config} {source : Source} {particulars : Particulars} {s : Callback.Session}

theorem outcome_compile (config : Config) (source : Source) :
    (compile config source).outcome.1 = source.text >>= fun text =>
      (Compiled.compile config.numberKind text source.name).mapError .expression := by
  cases read : source.text with
  | error fault =>
    rw [compile, read]
    rfl
  | ok text =>
    obtain ⟨later, run⟩ := run_compile config read []
    exact congrArg Prod.fst run

theorem outcome_compile_eq_ok : (compile config source).outcome.1 = .ok compiled ↔
    ∃ text, source.text = .ok text ∧
      Compiled.compile config.numberKind text source.name = .ok compiled := by
  rw [outcome_compile, bind_eq_ok]
  exact exists_congr fun text => and_congr_right fun _ => mapError_eq_ok

theorem outcome_evaluate (s : Callback.Session) : (evaluate s).outcome.1 =
    s.validate >>= fun t => (t.evaluateRoot standardHost t.policy).1 := by
  rw [evaluate, outcome_bind]
  · rfl
  · exact fun _ => unlogged_bind (unlogged_log _) fun _ => unlogged_ofExcept _

theorem outcome_conclude (particulars : Particulars) (names : List String) (s : Callback.Session) :
    (conclude particulars (.ok (s, names))).outcome.1 =
      (bindOptions particulars names s).outcome.1 >>= fun t =>
        (evaluate t).outcome.1 >>= fun value => .ok (.ok value) := by
  rw [conclude, outcome_bind]
  · refine bind_congr fun t => ?_
    rw [outcome_bind]
    · rfl
    · exact fun _ => unlogged_pure _
  · exact fun t => unlogged_bind (unlogged_evaluate t) fun _ => unlogged_pure _

theorem outcome_evaluateSource (config : Config) (source : Source) (particulars : Particulars) :
    (evaluateSource config source particulars).outcome.1 =
      (compile config source).outcome.1 >>= fun compiled =>
        (assign config.numberKind (.start compiled config.policy .empty) []
          particulars.assignments).outcome.1 >>= fun outcome =>
            (conclude particulars outcome).outcome.1 := by
  rw [evaluateSource_eq, outcome_bind]
  · exact bind_congr fun compiled => outcome_bind (unlogged_conclude particulars)
  · exact fun _ => unlogged_bind (unlogged_assign _ _ _ _) (unlogged_conclude particulars)

/-! ### Sessions that expressions are evaluated in -/

/-- Before they are validated, sessions have numbers of the kind in use and binary64 numbers, and
callbacks only where mathematics is asked for. -/
abbrev Ready (config : Config) (particulars : Particulars) (compiled : Compiled) :
    Callback.Session → Prop :=
  Equipped compiled config.policy (Value.Occurs config.numberKind)
    fun callback => particulars.math = true ∧ callback.IsOperation

theorem ends_assign_start (kind : NumberKind) (compiled : Compiled) (policy : DivisionPolicy)
    (texts : List String) :
    Ends (fun outcome => ∀ t names, outcome = .ok (t, names) →
        Equipped compiled policy (·.kind? = some kind) (fun _ => False) t)
      (·.isComputational = false) (assign kind (.start compiled policy .empty) [] texts) := by
  have reported (error : ExpressionError) : Tellable 0 error →
      (Fault.expression error).isComputational = false := fun _ => rfl
  exact ends_assign reported texts [] equipped_start

theorem ends_bindOptions (particulars : Particulars)
    (compiles : Compiled.compile config.numberKind text source.name = .ok compiled)
    (equipped : Equipped compiled config.policy (·.kind? = some config.numberKind)
      (fun _ => False) s) (names : List String) :
    Ends (Ready config particulars compiled) (·.isComputational = false)
      (bindOptions particulars names s) := by
  unfold bindOptions
  split
  · next math =>
    have reported (error : ExpressionError) : Tellable text.length error →
        (Fault.expression error).isComputational = false := fun _ => rfl
    refine (ends_bindMathematics reported names (tabulated_of_compile compiles)
      (arity_le_length compiles) .float
      (equipped.imp (fun _ => Value.occurs_of_kind) fun _ none => none.elim)).imp
      (fun t bound => ?_) fun _ other => other
    exact bound.imp (fun _ occurs => occurs) fun _ operation => ⟨math, operation⟩
  · exact ends_pure (equipped.imp (fun _ => Value.occurs_of_kind) fun _ none => none.elim)

theorem Prepared.exists_ready (prepared : Prepared config source particulars s) :
    ∃ text compiled u, Compiled.compile config.numberKind text source.name = .ok compiled ∧
      Ready config particulars compiled u ∧ u.Bound ∧ s = { u with validated := true } := by
  obtain ⟨_, compiles, assigned, bound, validated⟩ := prepared
  have equipped := (ends_assign_start _ _ _ _).outcome.1 _ assigned _ _ rfl
  have ready := (ends_bindOptions particulars compiles equipped _).outcome.1 _ bound
  have sound := ready.sound (tabulated_of_compile compiles)
  exact ⟨_, _, _, compiles, ready, sound.validate_ok_iff.mp validated⟩

section
variable (prepared : Prepared config source particulars s)
include prepared

theorem Prepared.written : s.root.term.Written config.numberKind := by
  obtain ⟨text, compiled, u, compiles, ready, _, rfl⟩ := prepared.exists_ready
  have root : u.root = compiled.root := congrArg Compiled.root ready.compiled
  exact root ▸ written_of_compile compiles

theorem Prepared.bound : s.Bound := by
  obtain ⟨text, compiled, u, compiles, ready, bound, rfl⟩ := prepared.exists_ready
  exact ⟨bound.values, bound.callbacks⟩

theorem Prepared.occurs (held : s.values n = some v) : v.Occurs config.numberKind := by
  obtain ⟨text, compiled, u, compiles, ready, bound, rfl⟩ := prepared.exists_ready
  exact ready.values n v held

theorem Prepared.isOperation {callback : Callback} (held : s.callbacks n = some callback) :
    particulars.math = true ∧ callback.IsOperation := by
  obtain ⟨text, compiled, u, compiles, ready, bound, rfl⟩ := prepared.exists_ready
  exact ready.callbacks n callback held

/-- Primitives leave the bindings as they are. -/
theorem Prepared.preserved : s.Preserved standardHost := by
  intro slot callback held values t
  obtain ⟨_, primitive, made, _⟩ := prepared.isOperation held
  rw [standardHost, call_primitive _ made]
  exact ⟨rfl, rfl⟩

/-- Without mathematics no function is left to be called. -/
theorem Prepared.functionSymbols_eq_nil (plain : particulars.math = false) :
    s.root.functionSymbols = [] := by
  refine List.eq_nil_iff_forall_not_mem.mpr fun slot member => ?_
  obtain ⟨callback, held⟩ := Option.isSome_iff_exists.mp (prepared.bound.callbacks slot member)
  rw [(prepared.isOperation held).1] at plain
  contradiction

end

end

end Formula.CommandLine
