import Formula.Expression.Tree

/-! The outline of a tree: a line for every node, the node before its subtrees, indented by two
blanks for every level. A line tells the kind of the node and its value, operator or name. -/
namespace Formula.Node

def label : Node → Except Fault String
  | .literal value => (withinDigits value.text?).map fun text => "Literal(" ++ text ++ ")"
  | .negation _ => .ok "Unary(-)"
  | .binary op _ _ => .ok ("Binary(" ++ op.symbol.toString ++ ")")
  | .var slot => .ok ("Variable(" ++ slot.name ++ ")")
  | .call slot arguments => .ok ("Function(" ++ signatureText slot.name arguments.length ++ ")")
  | .foreign value => do
    let quoted ← withinDigits value.quoted?
    .error (.mismatch (.notANode quoted))

def line (depth : Nat) (label : String) : String :=
  String.ofList (List.replicate (2 * depth) ' ') ++ label ++ "\n"

mutual

/-- The lines of a node at some depth and of all nodes below it. -/
def outlineLines (depth : Nat) : Node → Except Fault (List String)
  | .literal value => do
    let label ← label (.literal value)
    .ok [line depth label]
  | .negation operand => do
    let label ← label (.negation operand)
    let below ← outlineLines (depth + 1) operand
    .ok (line depth label :: below)
  | .binary op left right => do
    let label ← label (.binary op left right)
    let first ← outlineLines (depth + 1) left
    let second ← outlineLines (depth + 1) right
    .ok (line depth label :: (first ++ second))
  | .var slot => do
    let label ← label (.var slot)
    .ok [line depth label]
  | .call slot arguments => do
    let label ← label (.call slot arguments)
    let below ← outlineLinesAll (depth + 1) arguments
    .ok (line depth label :: below)
  | .foreign value => do
    let label ← label (.foreign value)
    .ok [line depth label]

/-- The lines of several nodes at one depth and of all nodes below them. -/
def outlineLinesAll (depth : Nat) : List Node → Except Fault (List String)
  | [] => .ok []
  | node :: nodes => do
    let first ← outlineLines depth node
    let others ← outlineLinesAll depth nodes
    .ok (first ++ others)

end

def outline (node : Node) : Except Fault String :=
  (outlineLines 0 node).map String.join

end Formula.Node
