import Formula.Proofs.Session.Recording

/-! Evaluation under the two division policies. From one session the two go on in the same way until
the checked one refuses a quotient: then it ends, and what it has called is the beginning of what
the unchecked one calls. Callbacks are arbitrary; they may keep a state and bind symbols. -/
namespace Formula

/-- The calls that the evaluation of a node makes from a session, in their order. -/
def Node.calls (host : Host κ σ) (policy : DivisionPolicy) (node : Node) (s : Session κ σ) :
    List (CallEvent κ) :=
  ((Node.evaluate host.recording policy node).run (s.withState (s.state, []))).2.state.2

/-! ### Quotients -/

namespace Value

/-- The policies agree on a quotient unless the checked one refuses it. -/
theorem divide_unchecked (left right : Value) :
    divide .unchecked left right = divide .checked left right ∨
      divide .checked left right = .error (.expression .divisionByZero) := by
  unfold divide
  cases apply .div left right with
  | ok quotient =>
    dsimp only
    split
    · exact .inr rfl
    · exact .inl rfl
  | error fault =>
    dsimp only
    split
    · exact .inr rfl
    · exact .inl rfl

theorem combine_unchecked (op : BinaryOperator) (left right : Value) :
    combine .unchecked op left right = combine .checked op left right ∨
      combine .checked op left right = .error (.expression .divisionByZero) := by
  unfold combine
  split
  · exact divide_unchecked left right
  · exact .inl rfl

theorem isInfinite_of_divide_checked (success : divide .checked left right = .ok quotient) :
    quotient.isInfinite = false := by
  unfold divide at success
  cases outcome : apply .div left right with
  | ok result =>
    rw [outcome] at success
    dsimp only at success
    split at success
    · contradiction
    · next finite =>
      cases success
      simpa using finite
  | error fault =>
    rw [outcome] at success
    dsimp only at success
    split at success <;> contradiction

end Value

/-! ### Calls are only added -/

section
variable {host : Host κ σ} {log : List (CallEvent κ)}

/-- The calls recorded begin with the given ones. -/
def Prolongs (log : List (CallEvent κ)) (outcome : Outcome κ (σ × List (CallEvent κ)) α) : Prop :=
  log <+: outcome.2.state.2

theorem prolongs_andThen {outcome : Outcome κ (σ × List (CallEvent κ)) α}
    {next : α → Session κ (σ × List (CallEvent κ)) → Outcome κ (σ × List (CallEvent κ)) β}
    (first : Prolongs log outcome) (second : ∀ a t, Prolongs t.state.2 (next a t)) :
    Prolongs log (andThen outcome next) := by
  rcases outcome with ⟨_ | a, t⟩
  · exact first
  · exact first.trans (second a t)

/-- Recorded calls are never lost. -/
theorem maintains_log (host : Host κ σ) (root : Node) (log : List (CallEvent κ)) :
    Maintains host.recording root (fun t => log <+: t.state.2) fun _ t => log <+: t.state.2 where
  own inv _ := inv
  unboundVariable inv _ _ := inv
  unboundFunction inv _ _ := inv
  call := by
    intro t slot callback values inv _ _
    exact keeps_of_snd (inv.trans (List.prefix_append t.state.2 _))

theorem prolongs_evaluate (policy : DivisionPolicy) (node : Node)
    (s : Session κ (σ × List (CallEvent κ))) :
    Prolongs s.state.2 ((Node.evaluate host.recording policy node).run s) :=
  ((maintains_log host node s.state.2).evaluate policy (List.prefix_refl _) node
    (List.Subset.refl _) (List.Subset.refl _)).snd

theorem prolongs_evaluateAll (policy : DivisionPolicy) (nodes : List Node)
    (s : Session κ (σ × List (CallEvent κ))) :
    Prolongs s.state.2 ((Node.evaluateAll host.recording policy nodes).run s) := by
  have maintains := maintains_log host (.call ⟨0, "", 0⟩ nodes) s.state.2
  exact (maintains.evaluateAll policy (List.prefix_refl _) nodes (List.Subset.refl _)
    (List.subset_append_left _ _)).snd

theorem prolongs_callSlot (slot : FunctionSlot) (values : List Value)
    (s : Session κ (σ × List (CallEvent κ))) :
    Prolongs s.state.2 (Node.callSlot host.recording slot values s) := by
  unfold Node.callSlot
  cases s.callbacks slot.id with
  | some callback => exact List.prefix_append _ _
  | none => exact List.prefix_refl _

end

/-! ### Lock step -/

/-- The second computation does what the first does, or the first has refused a quotient and has
made the first of the calls of the second. -/
def LockStep (checked unchecked : Outcome κ (σ × List (CallEvent κ)) α) : Prop :=
  unchecked = checked ∨
    checked.1 = .error (.expression .divisionByZero) ∧
      checked.2.state.2 <+: unchecked.2.state.2

section
variable {host : Host κ σ}

theorem lockStep_andThen {checked unchecked : Outcome κ (σ × List (CallEvent κ)) α}
    {next after : α → Session κ (σ × List (CallEvent κ)) → Outcome κ (σ × List (CallEvent κ)) β}
    (first : LockStep checked unchecked) (second : ∀ a t, LockStep (next a t) (after a t))
    (prolongs : ∀ a t, Prolongs t.state.2 (after a t)) :
    LockStep (andThen checked next) (andThen unchecked after) := by
  rcases first with rfl | ⟨refused, log⟩
  · rcases unchecked with ⟨_ | a, t⟩
    · exact .inl rfl
    · exact second a t
  · right
    rcases checked with ⟨_, t⟩
    cases refused
    rcases unchecked with ⟨_ | a, u⟩
    · exact ⟨rfl, log⟩
    · exact ⟨rfl, log.trans (prolongs a u)⟩

theorem lockStep_combine (op : BinaryOperator) (left right : Value)
    (s : Session κ (σ × List (CallEvent κ))) :
    LockStep (Value.combine .checked op left right, s)
      (Value.combine .unchecked op left right, s) := by
  rcases Value.combine_unchecked op left right with same | refused
  · exact .inl (by rw [same])
  · exact .inr ⟨refused, List.prefix_refl _⟩

mutual

/-- The evaluations of a node under the two policies run in lock step. -/
theorem lockStep_evaluate (s : Session κ (σ × List (CallEvent κ))) : (node : Node) →
    LockStep ((Node.evaluate host.recording .checked node).run s)
      ((Node.evaluate host.recording .unchecked node).run s)
  | .literal _ => .inl rfl
  | .negation operand => by
    rw [Node.evaluate_negation, Node.evaluate_negation]
    exact lockStep_andThen (lockStep_evaluate s operand) (fun _ _ => .inl rfl)
      fun _ t => List.prefix_refl _
  | .binary op left right => by
    rw [Node.evaluate_binary, Node.evaluate_binary]
    refine lockStep_andThen (lockStep_evaluate s left) (fun first t => ?_) fun first t => ?_
    · exact lockStep_andThen (lockStep_evaluate t right)
        (fun second u => lockStep_combine op first second u) fun _ _ => List.prefix_refl _
    · exact prolongs_andThen (prolongs_evaluate .unchecked right t) fun _ _ => List.prefix_refl _
  | .var slot => by
    rw [Node.evaluate_var, Node.evaluate_var]
    exact .inl rfl
  | .call slot arguments => by
    rw [Node.evaluate_call, Node.evaluate_call]
    refine lockStep_andThen (.inl rfl) (fun _ t => ?_) fun _ t => ?_
    · exact lockStep_andThen (lockStep_evaluateAll t arguments) (fun _ _ => .inl rfl)
        fun values u => prolongs_callSlot slot values u
    · exact prolongs_andThen (prolongs_evaluateAll .unchecked arguments t)
        fun values u => prolongs_callSlot slot values u
  | .foreign value => by
    rw [Node.evaluate_foreign, Node.evaluate_foreign]
    exact .inl rfl

theorem lockStep_evaluateAll (s : Session κ (σ × List (CallEvent κ))) : (nodes : List Node) →
    LockStep ((Node.evaluateAll host.recording .checked nodes).run s)
      ((Node.evaluateAll host.recording .unchecked nodes).run s)
  | [] => .inl rfl
  | node :: nodes => by
    rw [Node.evaluateAll_cons, Node.evaluateAll_cons]
    refine lockStep_andThen (lockStep_evaluate s node) (fun _ t => ?_) fun _ t => ?_
    · exact lockStep_andThen (lockStep_evaluateAll t nodes) (fun _ _ => .inl rfl)
        fun _ _ => List.prefix_refl _
    · exact prolongs_andThen (prolongs_evaluateAll .unchecked nodes t)
        fun _ _ => List.prefix_refl _

end

theorem isInfinite_of_evaluate_checked {left right : Node} {s : Session κ σ}
    (success : ((Node.evaluate host .checked (.binary .div left right)).run s).1 = .ok quotient) :
    quotient.isInfinite = false := by
  rw [Node.evaluate_binary] at success
  rcases outcomeLeft : (Node.evaluate host .checked left).run s with ⟨_ | first, t⟩
  · rw [outcomeLeft] at success
    contradiction
  · rw [outcomeLeft, andThen_ok] at success
    rcases outcomeRight : (Node.evaluate host .checked right).run t with ⟨_ | second, u⟩
    · rw [outcomeRight] at success
      contradiction
    · rw [outcomeRight, andThen_ok] at success
      exact Value.isInfinite_of_divide_checked success

/-- The evaluation of a node is the recorded one without what is recorded. -/
theorem run_eq_recorded (host : Host κ σ) (policy : DivisionPolicy) (node : Node)
    (s : Session κ σ) :
    let recorded := (Node.evaluate host.recording policy node).run (s.withState (s.state, []))
    (Node.evaluate host policy node).run s = (recorded.1, recorded.2.forget) := by
  have initial : (s.withState (s.state, ([] : List (CallEvent κ)))).forget = s := rfl
  obtain ⟨outcome, session⟩ := (Session.simulates_recording host node).evaluate policy initial node
    (List.Subset.refl _) (List.Subset.refl _)
  exact Prod.ext outcome session.symm

/-- The policies go on alike or the checked evaluation refuses a quotient. -/
theorem evaluate_unchecked (host : Host κ σ) (node : Node) (s : Session κ σ) :
    ((Node.evaluate host .unchecked node).run s = (Node.evaluate host .checked node).run s ∧
        node.calls host .unchecked s = node.calls host .checked s) ∨
      ((Node.evaluate host .checked node).run s).1 = .error (.expression .divisionByZero) ∧
        node.calls host .checked s <+: node.calls host .unchecked s := by
  rcases lockStep_evaluate (s.withState (s.state, [])) node with same | refused
  · left
    rw [run_eq_recorded host .unchecked, run_eq_recorded host .checked, Node.calls, Node.calls,
      same]
    exact ⟨rfl, rfl⟩
  · right
    rw [run_eq_recorded host .checked]
    exact refused

/-- If the checked evaluation of a node comes to a value, or fails otherwise than by a division by
zero, the unchecked one comes to the same, by the same calls and in the same session; if it fails
by a division by zero, its calls begin those of the unchecked one. Checked, no quotient is
infinite. -/
theorem evaluate_lockStep (host : Host κ σ) (node : Node) (s : Session κ σ) :
    let run := fun policy => (Node.evaluate host policy node).run s
    let calls := fun policy => node.calls host policy s
    (∀ value, (run .checked).1 = .ok value →
      run .unchecked = run .checked ∧ calls .unchecked = calls .checked) ∧
    (∀ fault, (run .checked).1 = .error fault → fault ≠ .expression .divisionByZero →
      run .unchecked = run .checked ∧ calls .unchecked = calls .checked) ∧
    ((run .checked).1 = .error (.expression .divisionByZero) →
      calls .checked <+: calls .unchecked) ∧
    ∀ left right quotient, node = .binary .div left right → (run .checked).1 = .ok quotient →
      quotient.isInfinite = false := by
  intro run calls
  have lockStep := evaluate_unchecked host node s
  refine ⟨fun value success => ?_, fun fault failed other => ?_, fun _ => ?_, ?_⟩
  · exact lockStep.resolve_right fun refused => by
      rw [success] at refused
      exact nomatch refused.1
  · exact lockStep.resolve_right fun refused => by
      rw [failed] at refused
      exact other (Except.error.inj refused.1)
  · rcases lockStep with ⟨_, same⟩ | refused
    · exact ⟨[], (List.append_nil _).trans same.symm⟩
    · exact refused.2
  · rintro left right quotient rfl success
    exact isInfinite_of_evaluate_checked success

end

end Formula
