import Formula.Proofs.Grammar.Exactness
import Formula.Proofs.Session.Exactness
import Formula.Proofs.Value.Printing
import Formula.Proofs.Value.Typing
import Mathlib.Algebra.Order.BigOperators.Group.List

/-! Outlines as encodings of trees. An outline has one line for every node, in pre-order. A label
tells everything of a node but its children, and with that their number; so the lines of a node end
where the lines of its last child do, and an outline is that of one tree only. -/
namespace Formula

namespace Tree

mutual

/-- A tree and its subtrees in pre-order, each with its depth. -/
def preorder (depth : Nat) : Tree ν φ → List (Nat × Tree ν φ)
  | negation operand => (depth, negation operand) :: preorder (depth + 1) operand
  | binary op left right =>
    (depth, binary op left right) :: (preorder (depth + 1) left ++ preorder (depth + 1) right)
  | call symbol arguments => (depth, call symbol arguments) :: preorderAll (depth + 1) arguments
  | literal value => [(depth, literal value)]
  | var symbol => [(depth, var symbol)]
  | foreign value => [(depth, foreign value)]

def preorderAll (depth : Nat) : List (Tree ν φ) → List (Nat × Tree ν φ)
  | [] => []
  | tree :: trees => preorder depth tree ++ preorderAll depth trees

end

theorem preorderAll_eq_flatMap (depth : Nat) (trees : List (Tree ν φ)) :
    preorderAll depth trees = trees.flatMap (preorder depth) := by
  induction trees with
  | nil => rfl
  | cons tree trees ih => rw [preorderAll, ih, List.flatMap_cons]

theorem preorder_eq (depth : Nat) (tree : Tree ν φ) :
    tree.preorder depth = (depth, tree) :: preorderAll (depth + 1) tree.children := by
  cases tree <;> simp only [preorder, children, preorderAll, List.append_nil]

theorem sizeAll_eq_sum (trees : List (Tree ν φ)) : sizeAll trees = (trees.map size).sum := by
  induction trees with
  | nil => rfl
  | cons tree trees ih => rw [sizeAll, ih, List.map_cons, List.sum_cons]

theorem size_eq (tree : Tree ν φ) : tree.size = sizeAll tree.children + 1 := by
  cases tree <;> simp only [size, children, sizeAll, Nat.add_zero, Nat.zero_add]

/-- What holds of a tree if it holds of its children holds of all trees. -/
theorem children_induction {P : Tree ν φ → Prop}
    (step : ∀ tree : Tree ν φ, (∀ child ∈ tree.children, P child) → P tree) (tree : Tree ν φ) :
    P tree :=
  step tree fun child member =>
    have smaller : child.size < tree.size := by
      rw [size_eq tree, sizeAll_eq_sum]
      exact Nat.lt_succ_of_le (List.le_sum_of_mem (List.mem_map_of_mem member))
    children_induction step child
termination_by tree.size

/-- There are as many places in pre-order as nodes. -/
theorem length_preorder (depth : Nat) (tree : Tree ν φ) :
    (tree.preorder depth).length = tree.size := by
  induction tree using children_induction generalizing depth with
  | step tree ih =>
    have below : tree.children.map (fun child => (preorder (depth + 1) child).length) =
        tree.children.map size :=
      List.map_congr_left fun child member => ih child member (depth + 1)
    rw [preorder_eq, size_eq, List.length_cons, preorderAll_eq_flatMap, List.length_flatMap, below,
      sizeAll_eq_sum]

end Tree

/-- What a tree that is read can have at its top: a number of the kind in use, or a name of letters
and digits. -/
def Term.Legible (kind : NumberKind) : Term → Prop
  | .literal value => value.kind? = some kind
  | .var name | .call name _ => ∀ c ∈ name.toList, c.isAlphanum = true
  | .negation _ | .binary .. => True
  | .foreign _ => False

/-- All nodes of a term are such as are read. -/
inductive Term.Written (kind : NumberKind) : Term → Prop
  | intro : term.Legible kind → (∀ child ∈ term.children, Written kind child) → Written kind term

namespace Grammar

theorem Name.isAlphanum_text (name : Name) : ∀ c ∈ name.text, c.isAlphanum = true := by
  intro c member
  rcases List.mem_cons.mp member with rfl | later
  · exact Bool.or_eq_true_iff.mpr (.inl name.letter)
  · exact name.alphanumeric c later

theorem respects_written (kind : NumberKind) :
    (terms kind.read?).Respects numerals fun term? _ =>
      ∀ term, term? = some term → Term.Written kind term where
  number n term denotes := by
    obtain ⟨v, converted, rfl⟩ := Option.map_eq_some_iff.mp denotes
    exact .intro (NumberKind.kind?_of_read? converted) nofun
  var name term denotes := by
    cases denotes
    refine .intro (fun c member => name.isAlphanum_text c ?_) nofun
    rwa [String.toList_ofList] at member
  negation := by
    intro operand? _ ih term denotes
    obtain ⟨operand, converted, rfl⟩ := Option.map_eq_some_iff.mp denotes
    exact .intro trivial (List.forall_mem_singleton.mpr (ih operand converted))
  binary := by
    intro left? _ right? _ op ihLeft ihRight term denotes
    obtain ⟨left, converted, denotes⟩ := Option.bind_eq_some_iff.mp denotes
    obtain ⟨right, convertedRight, rfl⟩ := Option.map_eq_some_iff.mp denotes
    exact .intro trivial (List.forall_mem_cons.mpr ⟨ihLeft left converted,
      List.forall_mem_singleton.mpr (ihRight right convertedRight)⟩)
  call := by
    intro terms? numbers name related term denotes
    obtain ⟨arguments, converted, rfl⟩ := Option.map_eq_some_iff.mp denotes
    rw [mapM_id_eq_some] at converted
    refine .intro (fun c member => name.isAlphanum_text c ?_) fun child member => ?_
    · rwa [String.toList_ofList] at member
    · have among : some child ∈ terms? := converted ▸ List.mem_map_of_mem member
      obtain ⟨index, bound, same⟩ := List.getElem_of_mem among
      have related := List.forall₂_iff_get.mp related
      exact related.2 index bound (related.1 ▸ bound) child same

end Grammar

open Grammar

theorem written_of_compile (success : Compiled.compile kind source name = .ok compiled) :
    compiled.root.term.Written kind := by
  obtain ⟨d, text, denotes⟩ := exists_derivation (root_term success)
  exact (respects_written kind).fold d.sum _ denotes

theorem Node.children_term (node : Node) : node.term.children = node.children.map Node.term := by
  have all (nodes : List Node) : Tree.renameAll (·.name) (·.name) nodes = nodes.map Node.term := by
    induction nodes with
    | nil => rfl
    | cons node nodes ih => exact congrArg (node.term :: ·) ih
  cases node with
  | call slot arguments => exact all arguments
  | _ => rfl

/-! ### Lines -/

theorem bind_eq_ok {first : Except ε α} {next : α → Except ε β} :
    first >>= next = .ok b ↔ ∃ a, first = .ok a ∧ next a = .ok b := by
  cases first with
  | error fault => exact ⟨nofun, fun ⟨_, absent, _⟩ => nomatch absent⟩
  | ok a =>
    refine ⟨fun success => ⟨a, rfl, success⟩, ?_⟩
    rintro ⟨_, ⟨⟩, success⟩
    exact success

theorem bind_eq_error {first : Except ε α} {next : α → Except ε β} :
    first >>= next = .error cause ↔
      first = .error cause ∨ ∃ a, first = .ok a ∧ next a = .error cause := by
  cases first with
  | error fault => simp [bind, Except.bind]
  | ok a => simp [bind, Except.bind]

theorem mapError_eq_ok {outcome : Except ε α} {f : ε → δ} :
    outcome.mapError f = .ok a ↔ outcome = .ok a := by
  cases outcome <;> simp [Except.mapError]

theorem mapError_eq_error {outcome : Except ε α} {f : ε → δ} :
    outcome.mapError f = .error cause ↔ ∃ error, outcome = .error error ∧ f error = cause := by
  cases outcome <;> simp [Except.mapError]

theorem mapM_eq_ok {f : α → Except ε β} {as : List α} {bs : List β} :
    as.mapM f = .ok bs ↔ List.Forall₂ (fun a b => f a = .ok b) as bs := by
  induction as generalizing bs with
  | nil =>
    rw [List.mapM_nil, List.forall₂_nil_left_iff]
    exact ⟨fun same => (Except.ok.inj same).symm, congrArg Except.ok ∘ Eq.symm⟩
  | cons a as ih =>
    rw [List.mapM_cons, List.forall₂_cons_left_iff, bind_eq_ok]
    simp only [bind_eq_ok, ih]
    constructor
    · rintro ⟨b, first, rest, others, same⟩
      exact ⟨b, rest, first, others, (Except.ok.inj same).symm⟩
    · rintro ⟨b, rest, first, others, rfl⟩
      exact ⟨b, first, rest, others, rfl⟩

namespace Node

/-- The line of a node at a depth. -/
def lineAt (place : Nat × Node) : Except Fault String :=
  place.2.label.map (line place.1)

/-- The lines of a node are its own, before those of its children. -/
theorem outlineLines_eq (depth : Nat) (node : Node) :
    outlineLines depth node = (do
      let label ← node.label
      let below ← outlineLinesAll (depth + 1) node.children
      pure (line depth label :: below)) := by
  have ok_bind {α β : Type} (a : α) (next : α → Except Fault β) :
      (Except.ok a : Except Fault α) >>= next = next a := rfl
  cases node <;>
    simp only [outlineLines, Tree.children, outlineLinesAll, bind_assoc, ok_bind,
      List.append_nil] <;>
    rfl

theorem outlineLinesAll_eq {depth : Nat} {nodes : List Node}
    (each : ∀ node ∈ nodes, outlineLines depth node = (node.preorder depth).mapM lineAt) :
    outlineLinesAll depth nodes = (Tree.preorderAll depth nodes).mapM lineAt := by
  induction nodes with
  | nil => rfl
  | cons node nodes ih =>
    obtain ⟨first, others⟩ := List.forall_mem_cons.mp each
    rw [outlineLinesAll, Tree.preorderAll, List.mapM_append, first, ih others]
    rfl

/-- An outline has the lines of all nodes in pre-order, or fails as the first line that cannot be
written does. -/
theorem outlineLines_eq_mapM (depth : Nat) (node : Node) :
    outlineLines depth node = (node.preorder depth).mapM lineAt := by
  induction node using Tree.children_induction generalizing depth with
  | step node ih =>
    rw [outlineLines_eq, outlineLinesAll_eq fun child member => ih child member (depth + 1),
      Tree.preorder_eq, List.mapM_cons, lineAt]
    cases label node <;> rfl

end Node

/-! ### Labels -/

namespace Node

theorem label_literal_eq_ok {value : Value} {written : String} :
    label (.literal value) = .ok written ↔
      ∃ shown, value.text? = some shown ∧ written = "Literal(" ++ shown ++ ")" := by
  rw [label]
  cases value.text? with
  | none =>
    constructor
    · intro failed
      cases failed
    · rintro ⟨_, absent, _⟩
      cases absent
  | some shown =>
    refine ⟨fun same => ⟨shown, rfl, (Except.ok.inj same).symm⟩, ?_⟩
    rintro ⟨_, ⟨⟩, rfl⟩
    rfl

theorem slash_notMem_name {name : String} (named : ∀ c ∈ name.toList, c.isAlphanum = true) :
    ∀ c ∈ name.toList, (c != '/') = true := by
  intro c member
  rw [bne_iff_ne]
  rintro rfl
  exact absurd (named '/' member) (by decide)

theorem toList_signatureText (name : String) (arity : Int) :
    (signatureText name arity).toList = name.toList ++ '/' :: (toString arity).toList := by
  rw [signatureText, String.toList_append, String.toList_append, List.append_assoc]
  rfl

theorem signatureText_inj {name other : String} {arity arity' : Int}
    (named : ∀ c ∈ name.toList, c.isAlphanum = true)
    (named' : ∀ c ∈ other.toList, c.isAlphanum = true)
    (same : signatureText name arity = signatureText other arity') :
    name = other ∧ arity = arity' := by
  have slash (rest : List Char) : ∀ c, ('/' :: rest).head? = some c → (c != '/') = false := by
    rintro _ ⟨⟩
    rfl
  have lists := congrArg String.toList same
  rw [toList_signatureText, toList_signatureText] at lists
  obtain ⟨names, arities⟩ := append_inj_of_head (slash_notMem_name named)
    (slash_notMem_name named') (slash _) (slash _) lists
  exact ⟨String.toList_inj.mp names, toString_int_inj (List.cons.inj arities).2⟩

/-- A label has no white space. -/
theorem isBlank_label {node : Node} (legible : node.term.Legible kind) {written : String}
    (labeled : label node = .ok written) : ∀ c ∈ written.toList, Text.isBlank c = false := by
  have name {name : String} (named : ∀ c ∈ name.toList, c.isAlphanum = true) :
      ∀ c ∈ name.toList, Text.isBlank c = false :=
    fun c member => isBlank_of_isAlphanum (named c member)
  have enclosed {form inside : String} (solid : ∀ c ∈ form.toList, Text.isBlank c = false)
      (within : ∀ c ∈ inside.toList, Text.isBlank c = false) :
      ∀ c ∈ (form ++ inside ++ ")").toList, Text.isBlank c = false := by
    rw [String.toList_append, String.toList_append, List.forall_mem_append, List.forall_mem_append]
    exact ⟨⟨solid, within⟩, List.forall_mem_singleton.mpr rfl⟩
  cases node with
  | literal value =>
    obtain ⟨shown, text, rfl⟩ := label_literal_eq_ok.mp labeled
    exact enclosed (isBlank_of_any rfl) (value.isBlank_text legible text)
  | negation => cases labeled; exact isBlank_of_any rfl
  | binary op => cases labeled; cases op <;> exact isBlank_of_any rfl
  | var slot => cases labeled; exact enclosed (isBlank_of_any rfl) (name legible)
  | call slot arguments =>
    cases labeled
    refine enclosed (isBlank_of_any rfl) ?_
    rw [toList_signatureText, List.forall_mem_append, List.forall_mem_cons]
    exact ⟨name legible, rfl, fun c member =>
      isBlank_of_isNumeral (isNumeral_toString_int _ c member)⟩
  | foreign => contradiction

/-- The first letter of labels of a form. -/
def initial : Node → Char
  | .literal _ => 'L'
  | .negation _ => 'U'
  | .binary .. => 'B'
  | .var _ => 'V'
  | .call .. => 'F'
  | .foreign _ => '?'

theorem head_label {node : Node} {written : String} (labeled : label node = .ok written) :
    written.toList.head? = some node.initial := by
  cases node with
  | literal value =>
    obtain ⟨shown, _, rfl⟩ := label_literal_eq_ok.mp labeled
    simp [initial]
  | negation | binary | var | call => cases labeled; simp [initial]
  | foreign value =>
    obtain ⟨_, _, absent⟩ := bind_eq_ok.mp labeled
    contradiction

/-- A label tells of a node everything but its children. -/
theorem label_inj {node other : Node} (legible : node.term.Legible kind)
    (legible' : other.term.Legible kind) (noFloat : kind ≠ .float) {written : String}
    (labeled : label node = .ok written) (labeled' : label other = .ok written) :
    node.children.length = other.children.length ∧
      (node.term.children = other.term.children → node.term = other.term) := by
  have initials : node.initial = other.initial :=
    Option.some.inj ((head_label labeled).symm.trans (head_label labeled'))
  cases node with
  | literal value =>
    cases other with
    | literal value' =>
      obtain ⟨shown, text, rfl⟩ := label_literal_eq_ok.mp labeled
      obtain ⟨shown', text', same⟩ := label_literal_eq_ok.mp labeled'
      obtain rfl : shown = shown' := by simpa [← String.toList_inj] using same
      exact ⟨rfl, fun _ =>
        congrArg Tree.literal (Value.text?_inj legible legible' noFloat text text')⟩
    | _ => simp [initial] at initials
  | negation operand =>
    cases other with
    | negation operand' => exact ⟨rfl, fun same => congrArg Tree.negation (List.cons.inj same).1⟩
    | _ => simp [initial] at initials
  | binary op left right =>
    cases other with
    | binary op' left' right' =>
      obtain rfl : op = op' := by
        have same : ("Binary(" ++ op.symbol.toString ++ ")").toList =
            ("Binary(" ++ op'.symbol.toString ++ ")").toList :=
          congrArg String.toList (Except.ok.inj (labeled.trans labeled'.symm))
        cases op <;> cases op' <;> first | rfl | exact absurd same (by decide)
      refine ⟨rfl, fun same => ?_⟩
      obtain ⟨lefts, rights⟩ := List.cons.inj same
      exact (congrArg (Tree.binary op · _) lefts).trans
        (congrArg (Tree.binary op _) (List.cons.inj rights).1)
    | _ => simp [initial] at initials
  | var slot =>
    cases other with
    | var slot' =>
      have same := Except.ok.inj (labeled.trans labeled'.symm)
      have names : slot.name = slot'.name := by simpa [← String.toList_inj] using same
      exact ⟨rfl, fun _ => congrArg Tree.var names⟩
    | _ => simp [initial] at initials
  | call slot arguments =>
    cases other with
    | call slot' arguments' =>
      have same := Except.ok.inj (labeled.trans labeled'.symm)
      obtain ⟨names, counts⟩ := signatureText_inj legible legible'
        (by simpa [← String.toList_inj] using same)
      refine ⟨Int.ofNat_inj.mp counts, fun same => ?_⟩
      exact (congrArg (Tree.call · _) names).trans (congrArg (Tree.call _) same)
    | _ => simp [initial] at initials
  | foreign => contradiction

end Node

/-! ### Texts and their lines -/

/-- A text with a line break at its end and nowhere else. -/
def IsLine (text : String) : Prop :=
  ∃ body : List Char, '\n' ∉ body ∧ text.toList = body ++ ['\n']

theorem join_inj {lines others : List String} (each : ∀ text ∈ lines, IsLine text)
    (each' : ∀ text ∈ others, IsLine text) (same : String.join lines = String.join others) :
    lines = others := by
  have before {body : List Char} (solid : '\n' ∉ body) : ∀ c ∈ body, (c != '\n') = true := by
    intro c member
    rw [bne_iff_ne]
    rintro rfl
    exact solid member
  have breaks (rest : List Char) : ∀ c, ('\n' :: rest).head? = some c → (c != '\n') = false := by
    rintro _ ⟨⟩
    rfl
  have empty {text : String} {rest : List String} (first : IsLine text) :
      String.join (text :: rest) ≠ "" := by
    obtain ⟨body, _, characters⟩ := first
    intro none
    have nothing := congrArg String.toList none
    rw [String.join_cons, String.toList_append, characters] at nothing
    simp at nothing
  induction lines generalizing others with
  | nil =>
    cases others with
    | nil => rfl
    | cons text rest => exact absurd same.symm (empty (each' text List.mem_cons_self))
  | cons text lines ih =>
    cases others with
    | nil => exact absurd same (empty (each text List.mem_cons_self))
    | cons text' others =>
      obtain ⟨first, rest⟩ := List.forall_mem_cons.mp each
      obtain ⟨first', rest'⟩ := List.forall_mem_cons.mp each'
      obtain ⟨body, solid, characters⟩ := first
      obtain ⟨body', solid', characters'⟩ := first'
      have lists := congrArg String.toList same
      rw [String.join_cons, String.join_cons, String.toList_append, String.toList_append,
        characters, characters', List.append_assoc, List.append_assoc] at lists
      obtain ⟨rfl, others⟩ :=
        append_inj_of_head (before solid) (before solid') (breaks _) (breaks _) lists
      have texts : text = text' := String.toList_inj.mp (characters.trans characters'.symm)
      rw [texts, ih rest rest' (String.toList_inj.mp (List.cons.inj others).2)]

theorem count_join {lines : List String} (each : ∀ text ∈ lines, IsLine text) :
    (String.join lines).toList.count '\n' = lines.length := by
  induction lines with
  | nil => rfl
  | cons text lines ih =>
    obtain ⟨⟨body, solid, characters⟩, rest⟩ := List.forall_mem_cons.mp each
    rw [String.join_cons, String.toList_append, List.count_append, ih rest, characters,
      List.count_append, List.count_eq_zero_of_not_mem solid, List.count_singleton_self,
      List.length_cons]
    omega

namespace Node

/-- A line shows a node at a depth: two blanks for every level, and the label of the node, which has
no white space. -/
def Shows (place : Nat × Node) (text : String) : Prop :=
  ∃ written, label place.2 = .ok written ∧ (∀ c ∈ written.toList, Text.isBlank c = false) ∧
    text = String.ofList (List.replicate (2 * place.1) ' ') ++ written ++ "\n"

theorem lineAt_eq_ok {place : Nat × Node} {text : String} : lineAt place = .ok text ↔
    ∃ written, label place.2 = .ok written ∧ text = line place.1 written := by
  rw [lineAt]
  cases label place.2 with
  | error fault => exact ⟨nofun, fun ⟨_, absent, _⟩ => nomatch absent⟩
  | ok written =>
    refine ⟨fun same => ⟨written, rfl, (Except.ok.inj same).symm⟩, ?_⟩
    rintro ⟨_, ⟨⟩, rfl⟩
    rfl

theorem line_inj {depth : Nat} {written written' : String}
    (same : line depth written = line depth written') : written = written' := by
  simpa [line, ← String.toList_inj] using same

theorem Shows.isLine (shows : Shows place text) : IsLine text := by
  obtain ⟨written, _, solid, rfl⟩ := shows
  refine ⟨List.replicate (2 * place.1) ' ' ++ written.toList, ?_, by simp⟩
  rw [List.mem_append, not_or]
  exact ⟨fun member => absurd (List.eq_of_mem_replicate member) (by decide),
    fun member => absurd (solid '\n' member) (by decide)⟩

theorem isLine_of_shows (shows : List.Forall₂ Shows places lines) :
    ∀ text ∈ lines, IsLine text := by
  induction shows with
  | nil => exact nofun
  | cons first _ rest => exact List.forall_mem_cons.mpr ⟨first.isLine, rest⟩

theorem children_written {node : Node} (written : node.term.Written kind) :
    ∀ child ∈ node.children, Term.Written kind (term child) := by
  intro child member
  obtain ⟨_, below⟩ := written
  refine below _ ?_
  rw [node.children_term]
  exact List.mem_map_of_mem member

theorem legible_of_mem_preorder {node : Node} (written : node.term.Written kind) (depth : Nat) :
    ∀ place ∈ node.preorder depth, Term.Legible kind (term place.2) := by
  induction node using Tree.children_induction generalizing depth with
  | step node ih =>
    intro place member
    rw [Tree.preorder_eq, Tree.preorderAll_eq_flatMap, List.mem_cons, List.mem_flatMap] at member
    rcases member with rfl | ⟨child, among, member⟩
    · obtain ⟨legible, _⟩ := written
      exact legible
    · exact ih child among (children_written written child among) (depth + 1) place member

/-- The lines that a written tree has show its nodes in pre-order. -/
theorem forall₂_shows {node : Node} (written : node.term.Written kind)
    (described : outlineLines depth node = .ok lines) :
    List.Forall₂ Shows (node.preorder depth) lines := by
  have legible := legible_of_mem_preorder written depth
  rw [outlineLines_eq_mapM, mapM_eq_ok] at described
  refine List.forall₂_iff_zip.mpr ⟨described.length_eq, fun {place text} member => ?_⟩
  obtain ⟨shown, labeled, rfl⟩ := lineAt_eq_ok.mp ((List.forall₂_iff_zip.mp described).2 member)
  exact ⟨shown, labeled, isBlank_label (legible place (List.of_mem_zip member).1) labeled,
    rfl⟩

theorem exists_of_forall₂_append {R : α → β → Prop} {front back : List α} {all : List β}
    (related : List.Forall₂ R (front ++ back) all) :
    ∃ first second, List.Forall₂ R front first ∧ List.Forall₂ R back second ∧
      all = first ++ second := by
  induction front generalizing all with
  | nil => exact ⟨[], all, .nil, related, rfl⟩
  | cons a front ih =>
    obtain ⟨b, rest, here, later, rfl⟩ := List.forall₂_cons_left_iff.mp related
    obtain ⟨first, second, before, after, rfl⟩ := ih later
    exact ⟨b :: first, second, .cons here before, after, rfl⟩

/-- Where the lines of a node stand in front of others, they tell the node and where they end. -/
def Told (kind : NumberKind) (node : Node) : Prop :=
  ∀ (other : Node) (depth : Nat) (lines lines' rest rest' : List String),
    node.term.Written kind → other.term.Written kind →
    List.Forall₂ Shows (node.preorder depth) lines →
    List.Forall₂ Shows (other.preorder depth) lines' → lines ++ rest = lines' ++ rest' →
    node.term = other.term ∧ rest = rest'

theorem told_all {nodes others : List Node} (told : ∀ node ∈ nodes, Told kind node)
    (count : nodes.length = others.length) (written : ∀ node ∈ nodes, node.term.Written kind)
    (written' : ∀ node ∈ others, node.term.Written kind)
    (shown : List.Forall₂ Shows (Tree.preorderAll depth nodes) lines)
    (shown' : List.Forall₂ Shows (Tree.preorderAll depth others) lines')
    (same : lines ++ rest = lines' ++ rest') :
    nodes.map Node.term = others.map Node.term ∧ rest = rest' := by
  induction nodes generalizing others lines lines' with
  | nil =>
    obtain rfl := List.length_eq_zero_iff.mp count.symm
    cases shown
    cases shown'
    exact ⟨rfl, same⟩
  | cons node nodes ih =>
    obtain _ | ⟨other, others⟩ := others
    · contradiction
    obtain ⟨toldFirst, toldRest⟩ := List.forall_mem_cons.mp told
    obtain ⟨here, later⟩ := List.forall_mem_cons.mp written
    obtain ⟨here', later'⟩ := List.forall_mem_cons.mp written'
    obtain ⟨first, second, shows, following, rfl⟩ := exists_of_forall₂_append shown
    obtain ⟨first', second', shows', following', rfl⟩ := exists_of_forall₂_append shown'
    rw [List.append_assoc, List.append_assoc] at same
    obtain ⟨terms, same⟩ := toldFirst other depth first first' _ _ here here' shows shows' same
    obtain ⟨others, ends⟩ :=
      ih toldRest (Nat.succ.inj count) later later' following following' same
    rw [List.map_cons, List.map_cons, terms, others]
    exact ⟨rfl, ends⟩

theorem told (noFloat : kind ≠ .float) (node : Node) : Told kind node := by
  induction node using Tree.children_induction with
  | step node ih =>
    intro other depth lines lines' rest rest' written written' shown shown' same
    obtain ⟨legible, _⟩ := id written
    obtain ⟨legible', _⟩ := id written'
    rw [Tree.preorder_eq, List.forall₂_cons_left_iff] at shown shown'
    obtain ⟨text, below, ⟨label, labeled, _, rfl⟩, shownBelow, rfl⟩ := shown
    obtain ⟨text', below', ⟨label', labeled', _, rfl⟩, shownBelow', rfl⟩ := shown'
    obtain ⟨first, others⟩ := List.cons.inj same
    obtain rfl := line_inj first
    obtain ⟨count, whole⟩ := label_inj legible legible' noFloat labeled labeled'
    obtain ⟨children, ends⟩ := told_all ih count (children_written written)
      (children_written written') shownBelow shownBelow' others
    rw [← children_term, ← children_term] at children
    exact ⟨whole children, ends⟩

end Node

theorem root_eq_of_term (success : Compiled.compile kind source name = .ok compiled)
    (success' : Compiled.compile kind source' name' = .ok compiled')
    (same : compiled.root.term = compiled'.root.term) : compiled.root = compiled'.root := by
  obtain ⟨term, _, rfl⟩ := compile_eq_ok_iff.mp success
  obtain ⟨term', _, rfl⟩ := compile_eq_ok_iff.mp success'
  have terms := (Context.resolve_adds .empty term).1.symm.trans
    (same.trans (Context.resolve_adds .empty term').1)
  rw [terms]

theorem outline_eq_ok {node : Node} : node.outline = .ok text ↔
    ∃ lines, node.outlineLines 0 = .ok lines ∧ text = String.join lines := by
  rw [Node.outline]
  cases Node.outlineLines 0 node with
  | error fault => exact ⟨nofun, fun ⟨_, absent, _⟩ => nomatch absent⟩
  | ok lines =>
    refine ⟨fun same => ⟨lines, rfl, (Except.ok.inj same).symm⟩, ?_⟩
    rintro ⟨_, ⟨⟩, rfl⟩
    rfl

/-- An outline that can be written has one line for every node, in pre-order, with two blanks for
every level before the label of the node. Under a kind of numbers other than binary64 numbers,
another expression has the same outline if and only if it has the same tree. -/
theorem describe_faithful {s : Session κ σ}
    (success : Compiled.compile kind source name = .ok s.compiled)
    (described : s.describe = .ok text) :
    (∃ lines, text = String.join lines ∧ lines.length = s.root.size ∧
      text.toList.count '\n' = s.root.size ∧
      List.Forall₂ Node.Shows (s.root.preorder 0) lines) ∧
    (kind ≠ .float → ∀ (κ' σ' : Type) (t : Session κ' σ') (source' name' : String),
      Compiled.compile kind source' name' = .ok t.compiled →
      (t.describe = .ok text ↔ t.root.term = s.root.term)) := by
  obtain ⟨lines, outlined, rfl⟩ := outline_eq_ok.mp described
  have written : s.root.term.Written kind := written_of_compile success
  have shows := Node.forall₂_shows written outlined
  have each := Node.isLine_of_shows shows
  have length : lines.length = s.root.size := by
    rw [← shows.length_eq, Tree.length_preorder]
  refine ⟨⟨lines, rfl, length, (count_join each).trans length, shows⟩, ?_⟩
  intro noFloat κ' σ' t source' name' success'
  constructor
  · intro described'
    obtain ⟨lines', outlined', same⟩ := outline_eq_ok.mp described'
    have written' : t.root.term.Written kind := written_of_compile success'
    have shows' := Node.forall₂_shows written' outlined'
    have lists : lines' ++ [] = lines ++ [] :=
      congrArg (· ++ []) (join_inj (Node.isLine_of_shows shows') each same.symm)
    exact (Node.told noFloat t.root s.root 0 _ _ _ _ written' written shows' shows lists).1
  · intro same
    have roots : t.root = s.root := root_eq_of_term success' success same
    rw [Session.describe, roots]
    exact described

/-- Multiplying `x` by `2` and dividing it by `2` have different outlines. -/
theorem describe_faithful_of_scaling :
    let product : Compiled := ⟨"x*2", .binary .mul (.var ⟨0, "x"⟩) (.literal (.int 2)),
      ⟨[⟨0, "x"⟩], []⟩⟩
    let quotient : Compiled := ⟨"x/2", .binary .div (.var ⟨0, "x"⟩) (.literal (.int 2)),
      ⟨[⟨0, "x"⟩], []⟩⟩
    let s : Callback.Session := .start product .checked .empty
    let t : Callback.Session := .start quotient .checked .empty
    let text := "Binary(*)\n  Variable(x)\n  Literal(2)\n"
    Compiled.compile .int "x*2" "<expr>" = .ok s.compiled ∧ s.describe = .ok text ∧
      text.toList.count '\n' = s.root.size ∧
      Compiled.compile .int "x/2" "<expr>" = .ok t.compiled ∧ t.describe ≠ .ok text := by
  intro product quotient s t text
  let two : Number := ⟨⟨['2'], List.cons_ne_nil _ _, List.forall_mem_singleton.mpr rfl⟩, none, none,
    fun _ absent => nomatch absent⟩
  have read : readInt? (String.ofList two.text) = some 2 :=
    two.readInt?_eq_some.mpr ⟨⟨rfl, rfl⟩, by decide, rfl⟩
  have converted : NumberKind.int.read? (String.ofList two.text) = some (.int 2) :=
    Option.map_eq_some_iff.mpr ⟨2, read, rfl⟩
  have multiplied : (Derivation.scaling .mul (.inl rfl) two).text = "x*2".toList := rfl
  have divided : (Derivation.scaling .div (.inr rfl) two).text = "x/2".toList := rfl
  have success : Compiled.compile .int "x*2" "<expr>" = .ok s.compiled :=
    compile_scaling converted multiplied "<expr>"
  have success' : Compiled.compile .int "x/2" "<expr>" = .ok t.compiled :=
    compile_scaling converted divided "<expr>"
  have described : s.describe = .ok text := by rfl
  obtain ⟨⟨_, _, _, count, _⟩, tells⟩ := describe_faithful success described
  refine ⟨success, described, count, success', fun same => ?_⟩
  have terms := (tells (by decide) _ _ t _ _ success').mp same
  cases terms

end Formula
