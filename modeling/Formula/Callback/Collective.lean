import Formula.Callback.Elementary

/-! Primitives on several numbers at once: sums and products of the elements of an argument,
lengths and distances, and logarithms to a base. -/
namespace Formula.Primitive

/-! ### Sums and products -/

/-- A sum under way: the exact sum of the finite terms since the last one that was not, and the
sums of the infinite terms and of all terms that are not finite. -/
structure Summation where
  units : Int
  infinite : Binary64
  special : Binary64

/-- Adds a term. The exact sum has to stay in the range of binary64 numbers. -/
def Summation.add (s : Summation) (x : Binary64) : Except Fault Summation :=
  if x.isFinite then
    let units := s.units + x.units
    if Binary64.overflowUnits ≤ units.natAbs then
      .error (.overflow (.argument "intermediate overflow in fsum"))
    else .ok { s with units := units }
  else
    .ok ⟨0, if x.isInfinite then s.infinite.add x else s.infinite, s.special.add x⟩

def Summation.result (s : Summation) : Except Fault Binary64 :=
  if s.special.isZero then .ok (.roundUnits (s.units < 0) s.units.natAbs 1)
  else if s.infinite.isNaN then .error (.value (.argument "-inf + inf in fsum"))
  else .ok s.special

def sum (collection : Value) : Except Fault Value := do
  let terms ← elements collection
  let total ← terms.foldlM (fun (s : Summation) term => do
    let x ← real term
    s.add x) ⟨0, .zero, .zero⟩
  total.result.map .float

def product : Primitive where
  name := "prod"
  signature := some (.fixed 1)
  apply
    | [collection] => do
      let factors ← elements collection
      factors.foldlM (Value.apply .mul) (.int 1)
    | arguments =>
      if arguments.length < 2 then
        wrongCount "prod() takes exactly 1 positional argument (0 given)"
      else if arguments.length = 2 then
        wrongCount "prod() takes exactly 1 positional argument (2 given)"
      else
        wrongCount ("prod() takes at most 2 arguments (" ++ toString arguments.length ++ " given)")

/-! ### Lengths -/

/-- The length of a vector given by its coordinates. -/
def hypotenuse : Primitive where
  name := "hypot"
  signature := none
  apply arguments := do
    let coordinates ← arguments.mapM real
    .ok (.float (Binary64.length coordinates))

/-- The differences of the coordinates of two points of equal dimension. -/
def differences : List Value → List Value → Except Fault (List Binary64)
  | p :: ps, q :: qs => do
    let x ← real p
    let y ← real q
    let others ← differences ps qs
    .ok (x.sub y :: others)
  | _, _ => .ok []

def distance (first second : Value) : Except Fault Value := do
  let p ← elements first
  let q ← elements second
  if p.length ≠ q.length then
    .error (.value (.argument "both points must have the same number of dimensions"))
  else
    let coordinates ← differences p q
    .ok (.float (Binary64.length coordinates))

/-! ### Logarithms -/

/-- A logarithm of a number, where `f` gives it for positive binary64 numbers. The logarithm of an
integer is computed from the integer itself, which may have no binary64 number. -/
def logarithm (f : Binary64 → Binary64) (argument : Value) : Except Fault Binary64 :=
  match argument.integer? with
  | some n => if n ≤ 0 then outsideDomain else .ok (Binary64.logOfNat f n.toNat)
  | none => do
    let x ← real argument
    settle false x (f x)

def logarithmTo (name : String) (f : Float → Float) : Primitive :=
  unary name ("math." ++ name) fun argument =>
    (logarithm (Binary64.machine f) argument).map .float

/-- The natural logarithm, or the one to the base that is the second argument. -/
def naturalLogarithm : Primitive where
  name := "log"
  signature := none
  apply
    | [argument] => (logarithm Binary64.log argument).map .float
    | [argument, base] => do
      let numerator ← logarithm Binary64.log argument
      let denominator ← logarithm Binary64.log base
      Value.floatOperation .div numerator denominator
    | _ => wrongCount "math.log requires 1 to 2 arguments"

def collectiveFunctions : List Primitive :=
  [unary "fsum" "math.fsum" sum, product, hypotenuse, binary "dist" distance,
    logarithmTo "log2" Float.log2, logarithmTo "log10" Float.log10, naturalLogarithm]

end Formula.Primitive
