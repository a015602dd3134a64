import Formula.Proofs.Grammar.Soundness
import Formula.Proofs.Grammar.Unambiguity
import Formula.Proofs.Symbols

/-! Compiling is exact: it succeeds on what the grammar derives from numbers of the kind in use, and
on nothing else, and gives the tree that the one derivation of the source denotes. -/
namespace Formula.Grammar

theorem isSome_mapM_id {options : List (Option α)} {parts : List (List β)} {P : β → Prop}
    (related : List.Forall₂ (fun option part => option.isSome = true ↔ ∀ b ∈ part, P b)
      options parts) :
    (options.mapM id).isSome = true ↔ ∀ b ∈ parts.flatten, P b := by
  induction related with
  | nil => simp
  | @cons option part options parts first _ ih =>
    rw [List.flatten_cons, List.forall_mem_append, ← first, ← ih, List.mapM_cons]
    cases option <;> cases options.mapM id <;> simp

/-- There is a term if and only if all numbers are convertible. -/
theorem respects_convertible (number? : String → Option Value) :
    (terms number?).Respects numerals fun term? numbers => term?.isSome = true ↔
      ∀ n ∈ numbers, (number? (String.ofList n.text)).isSome = true where
  number n := by simp [terms, numerals]
  var name := by simp [terms, numerals]
  negation related := by simpa [terms, numerals] using related
  binary := by
    intro left numbers right more op first second
    simp only [numerals, List.forall_mem_append, ← first, ← second]
    cases left <;> cases right <;> simp [terms]
  call name arguments := by
    rw [numerals, ← isSome_mapM_id arguments]
    exact Bool.eq_iff_iff.mp Option.isSome_map

namespace Derivation

theorem isSome_term? (d : Derivation) (number? : String → Option Value) :
    (d.term? number?).isSome = true ↔
      ∀ n ∈ d.numbers, (number? (String.ofList n.text)).isSome = true :=
  (respects_convertible number?).fold d.sum

end Derivation

end Formula.Grammar

namespace Formula
open Grammar

theorem root_term (success : Compiled.compile kind source name = .ok compiled) :
    Term.read kind.read? source = .ok compiled.root.term := by
  obtain ⟨term, accepted, rfl⟩ := compile_eq_ok_iff.mp success
  rw [(Context.resolve_adds .empty term).1]
  exact accepted

/-- What a derivation denotes is what its text is compiled to. -/
theorem compile_of_term? {d : Derivation} (denotes : d.term? kind.read? = some term)
    (text : d.text = source.toList) (name : String) : Compiled.compile kind source name =
      .ok ⟨source, (Context.empty.resolve term).1, (Context.empty.resolve term).2⟩ := by
  have success := d.read_text kind.read? denotes
  rw [text, String.ofList_toList] at success
  exact compile_eq_ok_iff.mpr ⟨term, success, rfl⟩

/-- The term of what a source is compiled to is the one that its derivation denotes. -/
theorem term?_of_compile {d : Derivation}
    (success : Compiled.compile kind source name = .ok compiled)
    (text : d.text = source.toList) : d.term? kind.read? = some compiled.root.term := by
  obtain ⟨e, sameText, denotes⟩ := exists_derivation (root_term success)
  rw [Derivation.unique (text.trans sameText.symm), denotes]

theorem compiles_iff :
    (∃ compiled, Compiled.compile kind source name = .ok compiled) ↔
      ∃ d : Derivation, d.text = source.toList ∧
        ∀ n ∈ d.numbers, (kind.read? (String.ofList n.text)).isSome = true := by
  constructor
  · rintro ⟨compiled, success⟩
    obtain ⟨d, text, denotes⟩ := exists_derivation (root_term success)
    exact ⟨d, text, (d.isSome_term? _).mp (by rw [denotes]; rfl)⟩
  · rintro ⟨d, text, convertible⟩
    obtain ⟨term, denotes⟩ := Option.isSome_iff_exists.mp ((d.isSome_term? _).mpr convertible)
    exact ⟨_, compile_of_term? denotes text name⟩

/-- Compiling succeeds if and only if the source has a derivation all of whose numbers are
convertible; the derivation of a source is unique, and the tree is the one that it denotes. -/
theorem compile_exact (kind : NumberKind) (source name : String) :
    ((∃ compiled, Compiled.compile kind source name = .ok compiled) ↔
      ∃ d : Derivation, d.text = source.toList ∧
        ∀ n ∈ d.numbers, (kind.read? (String.ofList n.text)).isSome = true) ∧
    (∀ (compiled : Compiled) (d : Derivation), Compiled.compile kind source name = .ok compiled →
      d.text = source.toList → d.term? kind.read? = some compiled.root.term) ∧
    ∀ d e : Derivation, d.text = source.toList → e.text = source.toList → d = e := by
  refine ⟨compiles_iff, ?_, ?_⟩
  · exact fun compiled d success text => term?_of_compile success text
  · exact fun d e left right => Derivation.unique (left.trans right.symm)

end Formula
