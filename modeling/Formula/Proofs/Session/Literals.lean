import Formula.Proofs.Session.Outline

/-! Trees that cannot be outlined. An outline fails only for a literal without a text, and literals
without a text are fractions: numerals of the other kinds with more digits than the limit either
are refused or have a shorter text. -/
namespace Formula
open Grammar

/-- All literals of a node have the property. -/
def Node.Literals (P : Value → Prop) (node : Node) : Prop :=
  ∀ depth, ∀ place ∈ node.preorder depth, ∀ v, place.2 = .literal v → P v

theorem Node.literals_of_children {P : Value → Prop} {node : Node}
    (own : ∀ v, node = .literal v → P v)
    (below : ∀ child ∈ node.children, Node.Literals P child) : node.Literals P := by
  intro depth place member v same
  rw [Tree.preorder_eq, Tree.preorderAll_eq_flatMap, List.mem_cons, List.mem_flatMap] at member
  rcases member with rfl | ⟨child, among, member⟩
  · exact own v same
  · exact below child among (depth + 1) place member v same

/-- What holds of all numerals that are read holds of all literals. -/
theorem respects_literals {P : Value → Prop}
    (converted : ∀ (n : Number) v, number? (String.ofList n.text) = some v → P v) :
    (terms number?).Respects numerals fun term? _ =>
      ∀ node : Node, term? = some node.term → node.Literals P where
  number n node denotes := by
    obtain ⟨v, read, same⟩ := Option.map_eq_some_iff.mp denotes
    rw [Node.term_eq_literal same.symm]
    refine Node.literals_of_children ?_ nofun
    rintro _ ⟨⟩
    exact converted n v read
  var name node denotes := by
    obtain ⟨slot, rfl, _⟩ := Node.term_eq_var (Option.some.inj denotes).symm
    exact Node.literals_of_children nofun nofun
  negation := by
    intro operand? _ ih node denotes
    obtain ⟨term, rfl, same⟩ := Option.map_eq_some_iff.mp denotes
    obtain ⟨operand, rfl, rfl⟩ := Node.term_eq_negation same.symm
    exact Node.literals_of_children nofun (List.forall_mem_singleton.mpr (ih operand rfl))
  binary := by
    intro left? _ right? _ op ihLeft ihRight node denotes
    obtain ⟨first, rfl, denotes⟩ := Option.bind_eq_some_iff.mp denotes
    obtain ⟨second, rfl, same⟩ := Option.map_eq_some_iff.mp denotes
    obtain ⟨left, right, rfl, rfl, rfl⟩ := Node.term_eq_binary same.symm
    refine Node.literals_of_children nofun (List.forall_mem_cons.mpr ⟨ihLeft left rfl, ?_⟩)
    exact List.forall_mem_singleton.mpr (ihRight right rfl)
  call := by
    intro terms? _ name related node denotes
    obtain ⟨inner, read, same⟩ := Option.map_eq_some_iff.mp denotes
    rw [mapM_id_eq_some] at read
    obtain ⟨slot, arguments, rfl⟩ := Node.term_eq_call same.symm
    refine Node.literals_of_children nofun fun child member => ?_
    have below : inner = arguments.map Node.term :=
      (congrArg Tree.children same).trans (Node.children_term (.call slot arguments))
    have among : some (Node.term child) ∈ terms? := by
      rw [read, below]
      exact List.mem_map_of_mem (List.mem_map_of_mem member)
    obtain ⟨index, bound, found⟩ := List.getElem_of_mem among
    have related := List.forall₂_iff_get.mp related
    exact related.2 index bound (related.1 ▸ bound) child found

/-- Numerals of other kinds than fractions have a text. -/
theorem kind_of_textless {kind : NumberKind} {n : Number} (textless : v.text? = none)
    (converted : kind.read? (String.ofList n.text) = some v) : kind = .fraction := by
  have own := NumberKind.kind?_of_read? converted
  cases v with
  | fraction q => exact (Option.some.inj own).symm
  | float | decimal => simp [Value.text?, Value.quoted?] at textless
  | int k =>
    obtain rfl : NumberKind.int = kind := Option.some.inj own
    obtain ⟨_, read, ⟨⟩⟩ := Option.map_eq_some_iff.mp converted
    obtain ⟨_, limited, rfl⟩ := n.readInt?_eq_some.mp read
    have short := digitCount_natOfDigits_le n.whole.nonempty n.whole.digit
    change Value.intText? _ = none at textless
    rw [Value.intText?, Int.natAbs_natCast,
      if_neg (Nat.not_lt.mpr (short.trans limited))] at textless
    contradiction
  | _ => contradiction

theorem literals_of_compile (success : Compiled.compile kind source name = .ok compiled) :
    compiled.root.Literals fun v => v.text? = none → kind = .fraction := by
  obtain ⟨d, _, denotes⟩ := exists_derivation (root_term success)
  exact (respects_literals fun n v converted textless => kind_of_textless textless converted).fold
    d.sum compiled.root denotes

/-- A tree that is read has no outline if and only if one of its literals has no text. -/
theorem outline_eq_error_iff {node : Node} (written : node.term.Written kind) :
    node.outline = .error fault ↔ fault = .value .tooManyDigits ∧
      ∃ depth v, (depth, .literal v) ∈ node.preorder 0 ∧ v.text? = none := by
  have legible := Node.legible_of_mem_preorder written 0
  have fails : Fails (fun fault => fault = .value .tooManyDigits ∧
      ∃ depth v, (depth, .literal v) ∈ node.preorder 0 ∧ v.text? = none) node.outline := by
    rw [Node.outline, Node.outlineLines_eq_mapM]
    refine (fails_mapM fun place member => ?_).map _
    obtain ⟨depth, inner⟩ := place
    have own := legible _ member
    apply Fails.map
    cases inner with
    | literal v =>
      cases shown : v.text? with
      | none =>
        rw [Node.label, shown]
        exact fails_error ⟨rfl, depth, v, member, shown⟩
      | some text =>
        rw [Node.label, shown]
        exact fails_ok _
    | foreign => exact own.elim
    | _ => exact fails_ok _
  constructor
  · exact fails fault
  · rintro ⟨rfl, depth, v, member, textless⟩
    cases outlined : node.outline with
    | error fault => rw [(fails fault outlined).1]
    | ok text =>
      obtain ⟨lines, described, _⟩ := outline_eq_ok.mp outlined
      rw [Node.outlineLines_eq_mapM, mapM_eq_ok] at described
      have each := List.forall₂_iff_get.mp described
      obtain ⟨index, bound, found⟩ := List.getElem_of_mem member
      have line := each.2 index bound (each.1 ▸ bound)
      rw [List.get_eq_getElem, found] at line
      obtain ⟨label, labeled, _⟩ := Node.lineAt_eq_ok.mp line
      obtain ⟨shown, told, _⟩ := Node.label_literal_eq_ok.mp labeled
      rw [textless] at told
      contradiction

end Formula
