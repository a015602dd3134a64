import Formula.Callback.Primitive
import Formula.Number.Integer
import Formula.Value.Integral

/-! Primitives with integral values: the integers next to a number, divisors and multiples, roots,
and counts of selections. -/
namespace Formula.Primitive

/-- The integer next to a number in a direction. -/
def towards (name : String) (direction : Direction) (otherwise : Value → Except Fault Value) :
    Primitive :=
  unary name ("math." ++ name) fun argument =>
    match argument.towardsInteger? direction with
    | some outcome => outcome.map .int
    | none => otherwise argument

/-- The fault of an argument that is no real number. -/
def notReal (argument : Value) : Except Fault Value :=
  .error (.mismatch (.notReal argument.typeName))

/-- The fault of an argument that cannot be truncated. -/
def notTruncatable (argument : Value) : Except Fault Value :=
  .error (.mismatch (.missingMethod argument.typeName "__trunc__"))

/-- A function of any number of integers, combined from left to right. -/
def combined (name : String) (none : Nat) (f : Nat → Nat → Nat) : Primitive where
  name := name
  signature := some ⟨0, 0, true, 0⟩
  apply arguments := do
    let numbers ← arguments.mapM integer
    match numbers.map Int.natAbs with
    | [] => .ok (.int none)
    | first :: others => .ok (.int (others.foldl f first : Nat))

/-- The fault of an argument that has to be a count. -/
def notACount (name : String) : Except Fault α :=
  .error (.value (.argument (name ++ " must be a non-negative integer")))

def squareRoot (argument : Value) : Except Fault Value := do
  let n ← integer argument
  if n < 0 then .error (.value (.argument "isqrt() argument must be nonnegative"))
  else .ok (.int (Nat.sqrt n.toNat))

def orders (argument : Value) : Except Fault Value := do
  let n ← integer argument
  if n < 0 then
    .error (.value (.argument "factorial() not defined for negative values"))
  else if Value.greatestIndex < n then
    .error (.overflow (.argument
      ("factorial() argument should not exceed " ++ toString Value.greatestIndex)))
  else .ok (.int (Integer.factorial n.toNat))

/-- The number of selections of `k` among `n` things by a function; `selected` of them decide how
much there is to compute, and they are named in the fault if they are too many. -/
def counted₂ (f : Nat → Nat → Nat) (selected : Nat → Nat → Nat) (shown : String)
    (first second : Value) : Except Fault Value := do
  let n ← integer first
  let k ← integer second
  if n < 0 then notACount "n"
  else if k < 0 then notACount "k"
  else if n < k then .ok (.int 0)
  else if Value.greatestIndex < selected n.toNat k.toNat then
    .error (.overflow (.argument (shown ++ " must not exceed " ++ toString Value.greatestIndex)))
  else .ok (.int (f n.toNat k.toNat))

def selections : Value → Value → Except Fault Value :=
  counted₂ Integer.selections (fun n k => min k (n - k)) "min(n - k, k)"

def arrangements (first second : Value) : Except Fault Value := do
  let n ← integer first
  let k ← integer second
  if Value.greatestIndex < n ∧ Value.greatestIndex < k then
    .error (.overflow (.argument ("k must not exceed " ++ toString Value.greatestIndex)))
  else counted₂ Integer.arrangements (fun _ _ => 0) "k" first second

/-- Ordered selections of all things or of a number of them. -/
def permutations : Primitive where
  name := "perm"
  signature := some ⟨2, 1, false, 0⟩
  apply
    | [n] | [n, .none] => orders n
    | [n, k] => arrangements n k
    | [] => wrongCount "perm expected at least 1 argument, got 0"
    | arguments =>
      wrongCount ("perm expected at most 2 arguments, got " ++ toString arguments.length)

def integralFunctions : List Primitive :=
  [towards "ceil" .up notReal, towards "floor" .down notReal,
    towards "trunc" .towardsZero notTruncatable,
    combined "gcd" 0 Nat.gcd, combined "lcm" 1 Nat.lcm,
    unary "isqrt" "math.isqrt" squareRoot, unary "factorial" "math.factorial" orders,
    binary "comb" selections, permutations]

end Formula.Primitive
