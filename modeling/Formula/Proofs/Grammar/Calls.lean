import Formula.Proofs.Grammar.Occurrences
import Formula.Proofs.Grammar.Refusal

/-! Where calls stand in a text. A call begins with the name of its function and ends with a closing
parenthesis. Two calls of a text stand apart or one stands inside the other; listed in post-order,
as they are in the tree, calls come in the order of their ends. -/
namespace Formula.Grammar

/-- A call in a text: the name of the function, the number of arguments, and the positions of the
first character of the name and of the closing parenthesis. -/
structure Call where
  name : String
  arity : Nat
  begins : Nat
  ends : Nat
  deriving DecidableEq

/-- What is called: a function with a number of arguments. -/
def Call.key (call : Call) : String × Nat :=
  (call.name, call.arity)

/-- The number of characters that lexemes take with the white space before them. -/
def width (spaced : List Spaced) : Nat :=
  (spaced.flatMap Spaced.text).length

@[simp]
theorem width_nil : width [] = 0 :=
  rfl

@[simp]
theorem width_cons (s : Spaced) (more : List Spaced) :
    width (s :: more) = s.blanks.text.length + s.lexeme.text.length + width more := by
  rw [width, List.flatMap_cons, List.length_append, Spaced.text, List.length_append]
  rfl

@[simp]
theorem width_append (first more : List Spaced) :
    width (first ++ more) = width first + width more := by
  rw [width, List.flatMap_append, List.length_append]
  rfl

/-- The number of arguments. -/
def Phrase.count : Phrase c → Nat
  | .someArguments _ rest | .further _ _ rest => rest.count + 1
  | _ => 0

/-- The calls of a phrase that starts at a position, in post-order. -/
def Phrase.calls : Phrase c → Nat → List Call
  | .sum first rest, position =>
    first.calls position ++ rest.calls (position + width first.lexemes)
  | .addend blanks _ _ right rest, position =>
    let operand := position + blanks.text.length + 1
    right.calls operand ++ rest.calls (operand + width right.lexemes)
  | .product first rest, position =>
    first.calls position ++ rest.calls (position + width first.lexemes)
  | .factor blanks _ _ right rest, position =>
    let operand := position + blanks.text.length + 1
    right.calls operand ++ rest.calls (operand + width right.lexemes)
  | .call blanks name opening arguments closing, position =>
    let begins := position + blanks.text.length
    let inside := begins + name.text.length + opening.text.length + 1
    arguments.calls inside ++ [⟨String.ofList name.text, arguments.count, begins,
      inside + width arguments.lexemes + closing.text.length⟩]
  | .negation blanks operand, position => operand.calls (position + blanks.text.length + 1)
  | .group blanks inner _, position => inner.calls (position + blanks.text.length + 1)
  | .someArguments first rest, position =>
    first.calls position ++ rest.calls (position + width first.lexemes)
  | .further blanks argument rest, position =>
    let first := position + blanks.text.length + 1
    argument.calls first ++ rest.calls (first + width argument.lexemes)
  | .noAddend, _ | .noFactor, _ | .number .., _ | .var .., _ | .noArgument, _ | .noFurther, _ => []

/-- The calls of the text that is derived. -/
def Derivation.calls (d : Derivation) : List Call :=
  d.sum.calls 1

/-! ### Positions -/

/-- The first call ends before the second ends: it stands before the second, or inside it. -/
def Call.Precedes (a b : Call) : Prop :=
  a.ends < b.ends ∧ (a.ends < b.begins ∨ b.begins < a.begins)

/-- The calls lie at their places among the lexemes, in post-order. -/
structure Placed (position : Nat) (spaced : List Spaced) (calls : List Call) : Prop where
  bounds : ∀ call ∈ calls, position ≤ call.begins ∧ call.begins < call.ends ∧
    call.ends < position + width spaced
  ordered : calls.Pairwise Call.Precedes
  located : ∀ call ∈ calls,
    ⟨.name call.name.toList, call.begins⟩ ∈ locate position spaced ∧
    ⟨.mark ')', call.ends⟩ ∈ locate position spaced

theorem placed_nil (position : Nat) (spaced : List Spaced) : Placed position spaced [] :=
  ⟨nofun, .nil, nofun⟩

theorem Placed.append (placed : Placed position first calls)
    (others : Placed (position + width first) more later) :
    Placed position (first ++ more) (calls ++ later) := by
  have locates : locate position (first ++ more) =
      locate position first ++ locate (position + width first) more :=
    locate_append position first more
  constructor
  · rw [width_append, List.forall_mem_append]
    constructor
    · intro call member
      have bounds := placed.bounds call member
      omega
    · intro call member
      have bounds := others.bounds call member
      omega
  · refine List.pairwise_append.mpr ⟨placed.ordered, others.ordered, fun a left b right => ?_⟩
    have before := placed.bounds a left
    have behind := others.bounds b right
    exact ⟨by omega, .inl (by omega)⟩
  · rw [locates, List.forall_mem_append]
    constructor
    · intro call member
      obtain ⟨name, close⟩ := placed.located call member
      exact ⟨List.mem_append_left _ name, List.mem_append_left _ close⟩
    · intro call member
      obtain ⟨name, close⟩ := others.located call member
      exact ⟨List.mem_append_right _ name, List.mem_append_right _ close⟩

/-- A mark moves the calls after it along. -/
theorem Placed.mark (blanks : Blanks) (c : Char)
    (placed : Placed (position + blanks.text.length + 1) spaced calls) :
    Placed position (⟨blanks, .mark c⟩ :: spaced) calls := by
  have single : width [⟨blanks, .mark c⟩] = blanks.text.length + 1 := by simp [Lexeme.text]
  exact (placed_nil position [⟨blanks, .mark c⟩]).append (by rwa [single, ← Nat.add_assoc])

/-- A call has the calls in its arguments inside it. -/
theorem Placed.call (blanks : Blanks) (name : Name) (opening closing : Blanks) (arity : Nat)
    (placed : Placed (position + blanks.text.length + name.text.length + opening.text.length + 1)
      spaced calls) :
    Placed position (⟨blanks, .name name.text⟩ :: ⟨opening, .mark '('⟩ ::
        (spaced ++ [⟨closing, .mark ')'⟩]))
      (calls ++ [⟨String.ofList name.text, arity, position + blanks.text.length,
        position + blanks.text.length + name.text.length + opening.text.length + 1 +
          width spaced + closing.text.length⟩]) := by
  have opened : width [⟨blanks, .name name.text⟩, ⟨opening, .mark '('⟩] =
      blanks.text.length + name.text.length + opening.text.length + 1 := by
    simp [Lexeme.text, Nat.add_assoc]
  have closed : width [⟨closing, .mark ')'⟩] = closing.text.length + 1 := by simp [Lexeme.text]
  have inside : position + blanks.text.length + name.text.length + opening.text.length + 1 =
      position + width [⟨blanks, .name name.text⟩, ⟨opening, .mark '('⟩] := by omega
  have lettered : 0 < name.text.length := by simp [Name.text]
  rw [inside] at placed ⊢
  have others := (placed_nil position [⟨blanks, .name name.text⟩, ⟨opening, .mark '('⟩]).append
    (placed.append (placed_nil _ [⟨closing, .mark ')'⟩]))
  rw [List.append_nil, List.nil_append, List.cons_append, List.cons_append,
    List.nil_append] at others
  have whole : width (⟨blanks, .name name.text⟩ :: ⟨opening, .mark '('⟩ ::
      (spaced ++ [⟨closing, .mark ')'⟩])) =
      width [⟨blanks, .name name.text⟩, ⟨opening, .mark '('⟩] + width spaced +
        (closing.text.length + 1) := by
    rw [width_cons, width_cons, width_append, closed, opened]
    simp only [Lexeme.text, List.length_singleton]
    omega
  constructor
  · rw [List.forall_mem_append, List.forall_mem_singleton]
    exact ⟨others.bounds, by dsimp only; omega⟩
  · refine List.pairwise_append.mpr ⟨others.ordered, List.pairwise_singleton _ _, ?_⟩
    intro a member b last
    rw [List.mem_singleton.mp last]
    have bounds := placed.bounds a member
    exact ⟨by dsimp only; omega, .inr (by dsimp only; omega)⟩
  · rw [List.forall_mem_append, List.forall_mem_singleton]
    refine ⟨others.located, ?_, ?_⟩
    · rw [String.toList_ofList]
      exact List.mem_cons_self
    · change _ ∈ locate position ([⟨blanks, .name name.text⟩, ⟨opening, .mark '('⟩] ++
        (spaced ++ [⟨closing, .mark ')'⟩]))
      rw [locate_append, locate_append]
      exact List.mem_append_right _ (List.mem_append_right _ List.mem_cons_self)

theorem Phrase.placed (p : Phrase c) (position : Nat) :
    Placed position p.lexemes (p.calls position) := by
  induction p generalizing position with
  | sum first rest ihFirst ihRest | product first rest ihFirst ihRest
  | someArguments first rest ihFirst ihRest =>
    exact (ihFirst position).append (ihRest _)
  | addend blanks op _ right rest ihRight ihRest | factor blanks op _ right rest ihRight ihRest =>
    exact ((ihRight _).append (ihRest _)).mark blanks op.symbol
  | further blanks argument rest ihArgument ihRest =>
    exact ((ihArgument _).append (ihRest _)).mark blanks ','
  | negation blanks operand ih => exact (ih _).mark blanks '-'
  | group blanks inner closing ih =>
    have closed := (ih (position + blanks.text.length + 1)).append
      (placed_nil _ [⟨closing, .mark ')'⟩])
    rw [List.append_nil] at closed
    exact closed.mark blanks '('
  | call blanks name opening arguments closing ih => exact (ih _).call blanks name opening closing _
  | noAddend | noFactor | number | var | noArgument | noFurther => exact placed_nil _ _

theorem count_further_le : (p : Phrase .further) → p.count ≤ width p.lexemes
  | .noFurther => Nat.zero_le _
  | .further blanks argument rest => by
    have others := count_further_le rest
    simp only [Phrase.count, Phrase.lexemes, width_cons, width_append, Lexeme.text,
      List.length_singleton]
    omega

theorem count_arguments_le : (p : Phrase .arguments) → p.count ≤ width p.lexemes + 1
  | .noArgument => Nat.zero_le _
  | .someArguments first rest => by
    have others := count_further_le rest
    simp only [Phrase.count, Phrase.lexemes, width_append]
    omega

/-- A call has no more arguments than its text has characters. -/
theorem Phrase.arity_le (p : Phrase c) (position : Nat) :
    ∀ call ∈ p.calls position, call.arity ≤ width p.lexemes := by
  induction p generalizing position with
  | noAddend | noFactor | number | var | noArgument | noFurther => exact nofun
  | negation blanks operand ih | group blanks operand closing ih =>
    intro call member
    have bound := ih _ call member
    simp only [Phrase.lexemes, width_cons, width_append]
    omega
  | call blanks name opening arguments closing ih =>
    have count := count_arguments_le arguments
    simp only [Phrase.calls, Phrase.lexemes, width_cons, width_append, Lexeme.text,
      List.length_singleton, List.forall_mem_append, List.forall_mem_singleton]
    constructor
    · intro call member
      have bound := ih _ call member
      omega
    · omega
  | _ =>
    rename_i ihFirst ihRest
    simp only [Phrase.calls, Phrase.lexemes, width_cons, width_append, List.forall_mem_append]
    constructor
    · intro call member
      have bound := ihFirst _ call member
      omega
    · intro call member
      have bound := ihRest _ call member
      omega

/-! ### Calls of terms -/

/-- If what is meant is a term, it has calls of these functions; addends and factors have them after
those of what they extend. -/
def Sites : (c : Category) → Meaning (Option Term) c → List (String × Nat) → Prop
  | .sum, term?, keys | .product, term?, keys | .atom, term?, keys =>
    ∀ term, term? = some term → term.callSites = keys
  | .addends, f, keys | .factors, f, keys => ∀ left? term, f left? = some term →
    ∃ left, left? = some left ∧ term.callSites = left.callSites ++ keys
  | .arguments, terms?, keys | .further, terms?, keys =>
    ∀ arguments, terms? = arguments.map some → Tree.callSitesAll arguments = keys

theorem length_further (A : Algebra α) : (p : Phrase .further) → (p.fold A).length = p.count
  | .noFurther => rfl
  | .further _ _ rest => congrArg (· + 1) (length_further A rest)

theorem length_arguments (A : Algebra α) : (p : Phrase .arguments) → (p.fold A).length = p.count
  | .noArgument => rfl
  | .someArguments _ rest => congrArg (· + 1) (length_further A rest)

/-- A phrase means terms with the calls that its text has. -/
theorem Phrase.sites (p : Phrase c) (position : Nat) :
    Sites c (p.fold (terms number?)) ((p.calls position).map Call.key) := by
  induction p generalizing position with
  | sum first rest ihFirst ihRest | product first rest ihFirst ihRest =>
    intro term denotes
    obtain ⟨left, denotes, listed⟩ := ihRest _ _ term denotes
    rw [listed, ihFirst _ left denotes, Phrase.calls, List.map_append]
  | noAddend | noFactor => exact fun left? term denotes => ⟨term, denotes, (List.append_nil _).symm⟩
  | addend _ op _ right rest ihRight ihRest | factor _ op _ right rest ihRight ihRest =>
    rw [Sites, Phrase.calls, List.map_append]
    exact symbols_extend (fun _ _ => rfl) (ihRight _) (ihRest _)
  | number _ n =>
    intro term denotes
    obtain ⟨value, _, rfl⟩ := Option.map_eq_some_iff.mp denotes
    rfl
  | var _ name =>
    rintro _ ⟨⟩
    rfl
  | call _ name _ inner closing ih =>
    intro term denotes
    obtain ⟨arguments, converted, rfl⟩ := Option.map_eq_some_iff.mp denotes
    have every := mapM_id_eq_some.mp converted
    have count : arguments.length = inner.count := by
      rw [← length_arguments (terms number?), every, List.length_map]
    rw [Tree.callSites, ih _ arguments every, count, Phrase.calls, List.map_append]
    rfl
  | negation _ operand ih =>
    intro term denotes
    obtain ⟨inner, converted, rfl⟩ := Option.map_eq_some_iff.mp denotes
    exact ih _ inner converted
  | group _ inner closing ih => exact fun term denotes => ih _ term denotes
  | noArgument | noFurther =>
    intro arguments none
    rw [List.map_eq_nil_iff.mp none.symm]
    rfl
  | someArguments first rest ihFirst ihRest =>
    rw [Sites, Phrase.calls, List.map_append]
    exact symbols_cons (fun _ _ => rfl) (ihFirst _) (ihRest _)
  | further _ argument rest ihArgument ihRest =>
    rw [Sites, Phrase.calls, List.map_append]
    exact symbols_cons (fun _ _ => rfl) (ihArgument _) (ihRest _)

/-- The calls of the term that a derivation denotes are those of its text. -/
theorem Derivation.callSites_eq {d : Derivation} (denotes : d.term? number? = some term) :
    term.callSites = d.calls.map Call.key :=
  d.sum.sites 1 term denotes

theorem Derivation.placed (d : Derivation) : Placed 1 d.sum.lexemes d.calls :=
  d.sum.placed 1

end Formula.Grammar
