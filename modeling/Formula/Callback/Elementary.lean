import Formula.Callback.Primitive
import Formula.Number.Binary64.Gamma
import Formula.Number.Binary64.Special

/-! Primitives on real numbers. An argument of any number kind is taken as a binary64 number. A
function has no value outside its domain; where its values are too great for binary64 it fails as
well, in another way if the function grows beyond all bounds and in the same way at a pole. -/
namespace Formula.Primitive

/-- The fault of an argument outside the domain. -/
def outsideDomain : Except Fault α :=
  .error (.value .domain)

def outsideRange : Except Fault α :=
  .error (.overflow .range)

/-! ### One number -/

/-- The value of a function that grows beyond all bounds (`growing`) or has poles only. -/
def settle (growing : Bool) (x value : Binary64) : Except Fault Binary64 :=
  if value.isNaN && !x.isNaN then outsideDomain
  else if value.isInfinite && x.isFinite then
    if growing then outsideRange else outsideDomain
  else .ok value

def ofReal (name : String) (f : Binary64 → Except Fault Value) : Primitive :=
  unary name ("math." ++ name) fun argument => do
    let x ← real argument
    f x

/-- A function of one number, with a number as its value. -/
def function (growing : Bool) (name : String) (f : Binary64 → Binary64) : Primitive :=
  ofReal name fun x => (settle growing x (f x)).map .float

/-- A function of one number that is defined everywhere. -/
def total (name : String) (f : Binary64 → Binary64) : Primitive :=
  ofReal name fun x => .ok (.float (f x))

def property (name : String) (p : Binary64 → Bool) : Primitive :=
  ofReal name fun x => .ok (.bool (p x))

/-- The value of the gamma function or its logarithm. -/
def settleGamma (outcome : Except Binary64.GammaFault Binary64) : Except Fault Value :=
  match outcome with
  | .ok value => .ok (.float value)
  | .error .domain => outsideDomain
  | .error .range => outsideRange

def degrees (x : Binary64) : Binary64 :=
  x.mul ((Binary64.ofInt 180).div .pi)

def radians (x : Binary64) : Binary64 :=
  x.mul (Binary64.pi.div (.ofInt 180))

def mantissaExponent (x : Binary64) : Except Fault Value :=
  let (mantissa, exponent) := x.mantissaExponent
  .ok (.tuple [.float mantissa, .int exponent])

def parts (x : Binary64) : Except Fault Value :=
  let (fraction, whole) := x.parts
  .ok (.tuple [.float fraction, .float whole])

def realFunctions : List Primitive :=
  [function false "acos" (Binary64.machine Float.acos),
    function false "acosh" (Binary64.machine Float.acosh),
    function false "asin" (Binary64.machine Float.asin),
    function false "asinh" (Binary64.machine Float.asinh),
    function false "atan" (Binary64.machine Float.atan),
    function false "atanh" (Binary64.machine Float.atanh),
    function false "cbrt" (Binary64.machine Float.cbrt),
    function false "cos" (Binary64.machine Float.cos),
    function true "cosh" (Binary64.machine Float.cosh),
    total "degrees" degrees,
    total "erf" Binary64.erf,
    total "erfc" Binary64.erfc,
    function true "exp" Binary64.exp,
    function true "exp2" (Binary64.machine Float.exp2),
    function true "expm1" Binary64.expm1,
    total "fabs" Binary64.abs,
    ofReal "frexp" mantissaExponent,
    ofReal "gamma" fun x => settleGamma x.gamma,
    property "isfinite" Binary64.isFinite,
    property "isinf" Binary64.isInfinite,
    property "isnan" Binary64.isNaN,
    ofReal "lgamma" fun x => settleGamma x.logGamma,
    function false "log1p" Binary64.log1p,
    ofReal "modf" parts,
    total "radians" radians,
    function false "sin" (Binary64.machine Float.sin),
    function true "sinh" (Binary64.machine Float.sinh),
    function false "sqrt" Binary64.sqrt,
    function false "tan" (Binary64.machine Float.tan),
    function false "tanh" (Binary64.machine Float.tanh),
    total "ulp" Binary64.spacing]

/-! ### Two numbers -/

def ofReals (name : String) (f : Binary64 → Binary64 → Except Fault Binary64) : Primitive :=
  binary name fun first second => do
    let x ← real first
    let y ← real second
    (f x y).map .float

/-- The magnitude of the first number with the sign of the second. -/
def withSignOf (x y : Binary64) : Except Fault Binary64 :=
  .ok (x.withSign y.isNegative)

/-- A remainder, of which `f` gives the one of a finite dividend and a divisor that is not zero. -/
def remainderBy (f : Binary64 → Binary64 → Binary64) (x y : Binary64) : Except Fault Binary64 :=
  if x.isNaN || y.isNaN then .ok .nan
  else if x.isInfinite || y.isZero then outsideDomain
  else .ok (f x y)

def finitePower (x y : Binary64) : Except Fault Binary64 :=
  let value := x.finitePower y
  if value.isNaN then outsideDomain
  else if value.isInfinite then
    if x.isZero then outsideDomain else outsideRange
  else .ok value

def powerOf (x y : Binary64) : Except Fault Binary64 :=
  if x.isFinite && y.isFinite then finitePower x y
  else if x.isNaN then .ok (if y.isZero then .one else .nan)
  else if y.isNaN then .ok (if x.equals .one then .one else .nan)
  else if x.isInfinite then
    let negative := x.isNegative && y.isFinite && y.isInteger && y.truncate % 2 != 0
    if y.isZero then .ok .one
    else .ok (if y.isNegative then .finite negative 0 0 else .infinity negative)
  else if x.abs.equals .one then .ok .one
  else if y.isNegative == x.abs.less .one then .ok (.infinity false)
  else .ok .zero

def scaled (number power : Value) : Except Fault Value := do
  let x ← real number
  match power.integer? with
  | none => .error (.mismatch (.argument "Expected an int as second argument to ldexp."))
  | some n =>
    let value := x.scale n
    if value.isInfinite && x.isFinite then outsideRange else .ok (.float value)

/-- The share of the greater magnitude by which two numbers may differ and still be close. -/
def closeShare : Binary64 :=
  .ofScientific false 1 (-9)

def close : Primitive where
  name := "isclose"
  signature := some (.fixed 2)
  apply
    | [first, second] => do
      let x ← real first
      let y ← real second
      .ok (.bool (x.isNear y closeShare .zero))
    | [] => wrongCount "isclose() missing required argument 'a' (pos 1)"
    | [_] => wrongCount "isclose() missing required argument 'b' (pos 2)"
    | arguments =>
      let limit :=
        if arguments.length ≤ 4 then "exactly 2 positional arguments" else "at most 4 arguments"
      wrongCount ("isclose() takes " ++ limit ++ " (" ++ toString arguments.length ++ " given)")

def binaryFunctions : List Primitive :=
  [ofReals "atan2" fun y x => .ok (Binary64.machine₂ Float.atan2 y x),
    ofReals "copysign" withSignOf,
    ofReals "fmod" (remainderBy Binary64.remainder),
    close,
    binary "ldexp" scaled,
    ofReals "nextafter" fun x y => .ok (x.next y),
    ofReals "pow" powerOf,
    ofReals "remainder" (remainderBy Binary64.nearestRemainder)]

end Formula.Primitive
