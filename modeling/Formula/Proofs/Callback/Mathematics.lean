import Formula.Callback.Mathematics
import Formula.Proofs.Value.Closure

/-! What the mathematical primitives come to. Each of them fails as operations on values do,
whatever it is applied to: for arguments of wrong types or in a wrong number, for arguments or
results out of bounds, or for want of memory. Its value has no mapping in it if the arguments have
none. -/
namespace Formula.Primitive

/-- What operations on values come to: a value without mappings, or a fault of theirs. -/
abbrev ComesAsOperation (outcome : Except Fault Value) : Prop :=
  Comes Value.Unmapped (·.isOperational = true) outcome

/-- From arguments without mappings the primitive comes to what operations on values come to. -/
def Operates (primitive : Primitive) : Prop :=
  ∀ arguments, (∀ argument ∈ arguments, argument.Unmapped) →
    ComesAsOperation (primitive.apply arguments)

/-! ### Arguments -/

theorem fails_floatOfDecimal (d : Decimal) : Fails (·.isOperational) (floatOfDecimal d) := by
  unfold floatOfDecimal
  split
  · split
    · exact fails_error rfl
    · exact fails_ok _
  · exact fails_ok _
  · exact fails_ok _

theorem fails_real (value : Value) : Fails (·.isOperational) (real value) := by
  unfold real
  split
  · next outcome found =>
    unfold float? at found
    split at found
    · exact Option.some.inj found ▸ fails_ok _
    · exact Option.some.inj found ▸ fails_floatOfDecimal _
    · exact Option.some.inj found ▸ (Value.fails_floatOfFraction _).operational
    · obtain ⟨n, _, rfl⟩ := Option.map_eq_some_iff.mp found
      exact (Value.fails_floatOfInt n).operational
  · exact fails_error rfl

theorem fails_integer (value : Value) : Fails (·.isOperational) (integer value) := by
  unfold integer
  split
  · exact fails_ok _
  · exact fails_error rfl

theorem fails_elements (value : Value) : Fails (·.isOperational) (elements value) := by
  cases value with
  | list | tuple | text | mapping => exact fails_ok _
  | _ => exact fails_error rfl

section
variable {name shown : String}

theorem operates_unary {f : Value → Except Fault Value}
    (comes : ∀ value, ComesAsOperation (f value)) : (unary name shown f).Operates := by
  rintro (_ | ⟨x, _ | ⟨y, others⟩⟩) -
  · exact rfl
  · exact comes x
  · exact rfl

theorem operates_binary {f : Value → Value → Except Fault Value}
    (comes : ∀ first second, ComesAsOperation (f first second)) : (binary name f).Operates := by
  rintro (_ | ⟨x, _ | ⟨y, _ | ⟨z, others⟩⟩⟩) -
  · exact rfl
  · exact rfl
  · exact comes x y
  · exact rfl

/-! ### Real numbers -/

theorem operates_ofReal {f : Binary64 → Except Fault Value}
    (comes : ∀ x, ComesAsOperation (f x)) : (ofReal name f).Operates := by
  apply operates_unary
  intro argument
  exact (fails_real argument).comes_bind comes

theorem fails_settle (growing : Bool) (x value : Binary64) :
    Fails (·.isOperational) (settle growing x value) := by
  unfold settle
  split
  · exact fails_error rfl
  · split
    · split
      · exact fails_error rfl
      · exact fails_error rfl
    · exact fails_ok _

theorem operates_function (growing : Bool) (f : Binary64 → Binary64) :
    (function growing name f).Operates :=
  operates_ofReal fun x => (fails_settle growing x (f x)).comes_map .float

theorem operates_total (f : Binary64 → Binary64) : (total name f).Operates :=
  operates_ofReal fun x => .float (f x)

theorem operates_property (p : Binary64 → Bool) : (property name p).Operates :=
  operates_ofReal fun x => .bool (p x)

theorem unmapped_pair {v w : Value} (first : v.Unmapped) (second : w.Unmapped) :
    (Value.tuple [v, w]).Unmapped :=
  .tuple (List.forall_mem_cons.mpr ⟨first, List.forall_mem_singleton.mpr second⟩)

theorem comes_settleGamma (outcome : Except Binary64.GammaFault Binary64) :
    ComesAsOperation (settleGamma outcome) := by
  rcases outcome with (_ | _) | value
  · exact rfl
  · exact rfl
  · exact .float value

theorem operates_ofReals {f : Binary64 → Binary64 → Except Fault Binary64}
    (fails : ∀ x y, Fails (·.isOperational) (f x y)) : (ofReals name f).Operates := by
  apply operates_binary
  intro first second
  apply (fails_real first).comes_bind
  intro x
  apply (fails_real second).comes_bind
  intro y
  exact (fails x y).comes_map .float

theorem fails_remainderBy (f : Binary64 → Binary64 → Binary64) (x y : Binary64) :
    Fails (·.isOperational) (remainderBy f x y) := by
  unfold remainderBy
  split
  · exact fails_ok _
  · split
    · exact fails_error rfl
    · exact fails_ok _

theorem fails_powerOf (x y : Binary64) : Fails (·.isOperational) (powerOf x y) := by
  have finite : Fails (·.isOperational) (finitePower x y) := by
    unfold finitePower
    dsimp only
    split
    · exact fails_error rfl
    · split
      · split
        · exact fails_error rfl
        · exact fails_error rfl
      · exact fails_ok _
  unfold powerOf
  split
  · exact finite
  · dsimp only
    repeat' split
    all_goals exact fails_ok _

theorem comes_scaled (number power : Value) : ComesAsOperation (scaled number power) := by
  apply (fails_real number).comes_bind
  intro x
  split
  · exact rfl
  · dsimp only
    split
    · exact rfl
    · exact .float _

theorem operates_close : close.Operates := by
  rintro (_ | ⟨first, _ | ⟨second, _ | ⟨third, others⟩⟩⟩) -
  · exact rfl
  · exact rfl
  · exact (fails_real first).comes_bind fun x => (fails_real second).comes_bind fun y => .bool _
  · exact rfl

/-! ### Integers -/

theorem fails_integerOfDecimal (direction : Direction) (d : Decimal) :
    Fails (·.isOperational) (Value.integerOfDecimal direction d) := by
  unfold Value.integerOfDecimal
  split
  · exact fails_error rfl
  · exact fails_error rfl
  · dsimp only
    repeat' split
    all_goals exact fails_ok _

theorem fails_towardsInteger (found : Value.towardsInteger? direction value = some outcome) :
    Fails (·.isOperational) outcome := by
  unfold Value.towardsInteger? at found
  split at found
  · exact Option.some.inj found ▸ fails_ok _
  · next x _ =>
    obtain rfl := Option.some.inj found
    unfold Value.integerOfFloat
    split
    · exact fails_error rfl
    · exact fails_error rfl
    · exact fails_ok _
  · exact Option.some.inj found ▸ fails_integerOfDecimal _ _
  · exact Option.some.inj found ▸ fails_ok _
  · contradiction

theorem operates_towards (direction : Direction) {otherwise : Value → Except Fault Value}
    (comes : ∀ value, ComesAsOperation (otherwise value)) :
    (towards name direction otherwise).Operates := by
  apply operates_unary
  intro argument
  split
  · next found => exact (fails_towardsInteger found).comes_map .int
  · exact comes argument

theorem operates_combined (none : Nat) (f : Nat → Nat → Nat) :
    (combined name none f).Operates := by
  intro arguments _
  apply (fails_mapM fun argument _ => fails_integer argument).comes_bind
  intro numbers
  split
  · exact .int _
  · exact .int _

theorem comes_squareRoot (argument : Value) : ComesAsOperation (squareRoot argument) := by
  apply (fails_integer argument).comes_bind
  intro n
  split
  · exact rfl
  · exact .int _

theorem comes_orders (argument : Value) : ComesAsOperation (orders argument) := by
  apply (fails_integer argument).comes_bind
  intro n
  split
  · exact rfl
  · split
    · exact rfl
    · exact .int _

theorem comes_counted₂ (f selected : Nat → Nat → Nat) (shown : String) (first second : Value) :
    ComesAsOperation (counted₂ f selected shown first second) := by
  apply (fails_integer first).comes_bind
  intro n
  apply (fails_integer second).comes_bind
  intro k
  repeat' split
  all_goals first | exact .int _ | exact rfl

theorem comes_arrangements (first second : Value) :
    ComesAsOperation (arrangements first second) := by
  apply (fails_integer first).comes_bind
  intro n
  apply (fails_integer second).comes_bind
  intro k
  split
  · exact rfl
  · exact comes_counted₂ _ _ _ _ _

theorem operates_permutations : permutations.Operates := by
  intro arguments _
  unfold permutations
  dsimp only
  split
  · exact comes_orders _
  · exact comes_orders _
  · exact comes_arrangements _ _
  · exact rfl
  · exact rfl

/-! ### Several numbers -/

theorem fails_add (s : Summation) (x : Binary64) : Fails (·.isOperational) (s.add x) := by
  unfold Summation.add
  split
  · dsimp only
    split
    · exact fails_error rfl
    · exact fails_ok _
  · exact fails_ok _

theorem fails_result (s : Summation) : Fails (·.isOperational) s.result := by
  unfold Summation.result
  split
  · exact fails_ok _
  · split
    · exact fails_error rfl
    · exact fails_ok _

theorem comes_sum (collection : Value) : ComesAsOperation (sum collection) := by
  apply (fails_elements collection).comes_bind
  intro terms
  refine Fails.comes_bind (fails_foldlM ?_ terms _) ?_
  · intro s term
    exact fails_bind (fails_real term) (fails_add s)
  · intro total
    exact (fails_result total).comes_map .float

/-- The elements of a collection without mappings have none. -/
theorem comes_elements {collection : Value} (unmapped : collection.Unmapped) :
    Comes (∀ element ∈ ·, element.Unmapped) (·.isOperational = true) (elements collection) := by
  cases unmapped with
  | list each => exact each
  | tuple each => exact each
  | text s =>
    intro element member
    obtain ⟨c, _, rfl⟩ := List.mem_map.mp member
    exact .text _
  | _ => exact rfl

theorem comes_multiply {factors : List Value} (each : ∀ factor ∈ factors, factor.Unmapped)
    {start : Value} (unmapped : start.Unmapped) :
    ComesAsOperation (factors.foldlM (Value.apply .mul) start) := by
  induction factors generalizing start with
  | nil => exact unmapped
  | cons factor factors ih =>
    obtain ⟨first, others⟩ := List.forall_mem_cons.mp each
    rw [List.foldlM_cons]
    exact (Value.unmapped_apply .mul unmapped first).bind fun total unmapped => ih others unmapped

/-- A product is the one primitive whose value may be made of its argument's elements. -/
theorem operates_product : product.Operates := by
  rintro (_ | ⟨collection, _ | ⟨second, others⟩⟩) unmapped
  · exact rfl
  · apply (comes_elements (unmapped collection List.mem_cons_self)).bind
    intro factors each
    exact comes_multiply each (.int 1)
  · unfold product
    dsimp only
    repeat' split
    all_goals exact rfl

theorem operates_hypotenuse : hypotenuse.Operates := by
  intro arguments _
  apply (fails_mapM fun argument _ => fails_real argument).comes_bind
  exact fun coordinates => .float _

theorem fails_differences (ps qs : List Value) : Fails (·.isOperational) (differences ps qs) := by
  induction ps generalizing qs with
  | nil => exact fails_ok []
  | cons p ps ih =>
    cases qs with
    | nil => exact fails_ok []
    | cons q qs =>
      apply fails_bind (fails_real p)
      intro x
      apply fails_bind (fails_real q)
      intro y
      exact fails_bind (ih qs) fun others => fails_ok _

theorem comes_distance (first second : Value) : ComesAsOperation (distance first second) := by
  apply (fails_elements first).comes_bind
  intro p
  apply (fails_elements second).comes_bind
  intro q
  split
  · exact rfl
  · exact (fails_differences p q).comes_bind fun coordinates => .float _

theorem fails_logarithm (f : Binary64 → Binary64) (argument : Value) :
    Fails (·.isOperational) (logarithm f argument) := by
  unfold logarithm
  split
  · split
    · exact fails_error rfl
    · exact fails_ok _
  · exact fails_bind (fails_real argument) fun x => fails_settle false x (f x)

theorem operates_logarithmTo (f : Float → Float) : (logarithmTo name f).Operates :=
  operates_unary fun argument => (fails_logarithm _ argument).comes_map .float

theorem operates_naturalLogarithm : naturalLogarithm.Operates := by
  rintro (_ | ⟨argument, _ | ⟨base, _ | ⟨third, others⟩⟩⟩) -
  · exact rfl
  · exact (fails_logarithm _ argument).comes_map .float
  · apply (fails_logarithm _ argument).comes_bind
    intro numerator
    apply (fails_logarithm _ base).comes_bind
    intro denominator
    exact Value.comes_unmapped (Value.comes_operation .div (.floats numerator denominator))
      (Value.fails_floatOperation .div numerator denominator).operational
  · exact rfl

end

/-! ### All of them -/

theorem operates_realFunctions : ∀ primitive ∈ realFunctions, primitive.Operates := by
  simp only [realFunctions, List.forall_mem_cons]
  and_intros
  all_goals first
    | exact operates_function _ _
    | exact operates_total _
    | exact operates_property _
    | exact operates_ofReal fun _ => unmapped_pair (.float _) (.int _)
    | exact operates_ofReal fun _ => unmapped_pair (.float _) (.float _)
    | exact operates_ofReal fun _ => comes_settleGamma _
    | exact List.forall_mem_nil _

theorem operates_binaryFunctions : ∀ primitive ∈ binaryFunctions, primitive.Operates := by
  simp only [binaryFunctions, List.forall_mem_cons]
  and_intros
  · exact operates_ofReals fun _ _ => fails_ok _
  · exact operates_ofReals fun _ _ => fails_ok _
  · exact operates_ofReals (fails_remainderBy _)
  · exact operates_close
  · exact operates_binary comes_scaled
  · exact operates_ofReals fun _ _ => fails_ok _
  · exact operates_ofReals fails_powerOf
  · exact operates_ofReals (fails_remainderBy _)
  · exact List.forall_mem_nil _

theorem operates_integralFunctions : ∀ primitive ∈ integralFunctions, primitive.Operates := by
  simp only [integralFunctions, List.forall_mem_cons]
  and_intros
  · exact operates_towards _ fun _ => rfl
  · exact operates_towards _ fun _ => rfl
  · exact operates_towards _ fun _ => rfl
  · exact operates_combined _ _
  · exact operates_combined _ _
  · exact operates_unary comes_squareRoot
  · exact operates_unary comes_orders
  · exact operates_binary (comes_counted₂ _ _ _)
  · exact operates_permutations
  · exact List.forall_mem_nil _

theorem operates_collectiveFunctions : ∀ primitive ∈ collectiveFunctions, primitive.Operates := by
  simp only [collectiveFunctions, List.forall_mem_cons]
  and_intros
  · exact operates_unary comes_sum
  · exact operates_product
  · exact operates_hypotenuse
  · exact operates_binary comes_distance
  · exact operates_logarithmTo _
  · exact operates_logarithmTo _
  · exact operates_naturalLogarithm
  · exact List.forall_mem_nil _

/-- Mathematical primitives come to what operations on values come to. -/
theorem operates_mathematical (found : mathematical? called = some primitive) :
    primitive.Operates := by
  have member := List.mem_of_find?_eq_some found
  simp only [mathematics, List.mem_append] at member
  rcases member with ((real | binary) | integral) | collective
  · exact operates_realFunctions _ real
  · exact operates_binaryFunctions _ binary
  · exact operates_integralFunctions _ integral
  · exact operates_collectiveFunctions _ collective

end Formula.Primitive
