import Formula.Proofs.Session.Visits

/-! Evaluation without validation. The first symbol in pre-order that is not bound ends the
evaluation, unless a node fails before. What has been called by then are the calls from which the
evaluation has come up: those before the unbound node in pre-order that are not above it. -/
namespace Formula

/-! ### Places -/

/-- The node at place `p` precedes the one at `q` in pre-order and is not above it. -/
def LeftOf (p q : List Nat) : Prop :=
  p < q ∧ ¬p <+: q

instance : DecidableRel LeftOf :=
  fun p q => inferInstanceAs (Decidable (p < q ∧ ¬p <+: q))

theorem leftOf_of_children {place : List Nat} (less : i < j) (first : place ++ [i] <+: p)
    (second : place ++ [j] <+: q) : LeftOf p q := by
  obtain ⟨below, rfl⟩ := first
  obtain ⟨beyond, rfl⟩ := second
  rw [List.append_assoc, List.append_assoc]
  refine ⟨List.append_left_lt (List.cons_lt_cons_iff.mpr (.inl less)), fun above => ?_⟩
  have same := (List.cons_prefix_cons.mp ((List.prefix_append_right_inj place).mp above)).1
  omega

theorem LeftOf.not_symm (left : LeftOf p q) : ¬LeftOf q p :=
  fun right => List.lt_asymm left.1 right.1

/-- A place precedes those below it. -/
theorem lt_of_child {place : List Nat} (child : place ++ [i] <+: p) : place < p := by
  obtain ⟨below, rfl⟩ := child
  rw [List.append_assoc]
  conv_lhs => rw [← List.append_nil place]
  exact List.append_left_lt (List.nil_lt_cons _ _)

/-- How the places of two visits are related if the first is made before the second. -/
def Visit.Before : Visit ν φ → Visit ν φ → Prop
  | down p _, down q _ => p < q
  | up p _, down q _ => LeftOf p q
  | down q _, up p _ => ¬LeftOf p q
  | up _ _, up _ _ => True

theorem Visit.before_of_leftOf {first second : Visit ν φ}
    (left : LeftOf first.place second.place) : first.Before second := by
  cases first <;> cases second
  · exact left.1
  · exact left.not_symm
  · exact left
  · trivial

theorem Visit.down_before {place : List Nat} {node : Tree ν φ} {visit : Visit ν φ}
    (below : place < visit.place) :
    (down place node).Before visit := by
  cases visit with
  | down _ _ => exact below
  | up _ _ => exact fun left => List.lt_asymm below left.1

theorem Visit.before_up {place : List Nat} {node : Tree ν φ} {visit : Visit ν φ}
    (below : place <+: visit.place) :
    visit.Before (up place node) := by
  cases visit with
  | down _ _ => exact fun left => left.2 below
  | up _ _ => trivial

namespace Tree

/-- The visits are made in order, to places that are below the children of a place from `first`
on. -/
structure ForestOrder (place : List Nat) (first : Nat) (visits : List (Visit ν φ)) : Prop where
  pairwise : visits.Pairwise Visit.Before
  child : ∀ visit ∈ visits, ∃ i, first ≤ i ∧ place ++ [i] <+: visit.place

/-- The visits are made in order, to a place and those below it. -/
structure TreeOrder (place : List Nat) (visits : List (Visit ν φ)) : Prop where
  pairwise : visits.Pairwise Visit.Before
  below : ∀ visit ∈ visits, place <+: visit.place

theorem forestOrder_nil (place : List Nat) (first : Nat) :
    ForestOrder place first ([] : List (Visit ν φ)) :=
  ⟨.nil, nofun⟩

theorem ForestOrder.cons {visits others : List (Visit ν φ)}
    (tree : TreeOrder (place ++ [first]) visits) (forest : ForestOrder place (first + 1) others) :
    ForestOrder place first (visits ++ others) := by
  refine ⟨List.pairwise_append.mpr ⟨tree.pairwise, forest.pairwise, ?_⟩, ?_⟩
  · intro visit here other later
    obtain ⟨i, beyond, child⟩ := forest.child other later
    exact Visit.before_of_leftOf (leftOf_of_children beyond (tree.below visit here) child)
  · intro visit member
    rcases List.mem_append.mp member with here | later
    · exact ⟨first, Nat.le_refl _, tree.below visit here⟩
    · obtain ⟨i, beyond, child⟩ := forest.child visit later
      exact ⟨i, by omega, child⟩

theorem treeOrder_of_children {tree : Tree ν φ}
    (forest : ForestOrder place 0 (visitsAll place 0 tree.children)) :
    TreeOrder place (tree.visits place) := by
  rw [visits_eq]
  constructor
  · refine List.pairwise_cons.mpr ⟨?_, List.pairwise_append.mpr
      ⟨forest.pairwise, List.pairwise_singleton _ _, ?_⟩⟩
    · intro visit later
      rcases List.mem_append.mp later with inner | last
      · obtain ⟨_, _, child⟩ := forest.child visit inner
        exact Visit.down_before (lt_of_child child)
      · cases List.mem_singleton.mp last
        exact fun left => List.lt_irrefl _ left.1
    · intro visit inner other last
      cases List.mem_singleton.mp last
      obtain ⟨_, _, child⟩ := forest.child visit inner
      exact Visit.before_up ((List.prefix_append _ _).trans child)
  · intro visit member
    rcases List.mem_cons.mp member with rfl | later
    · exact List.prefix_refl _
    · rcases List.mem_append.mp later with inner | last
      · obtain ⟨_, _, child⟩ := forest.child visit inner
        exact (List.prefix_append _ _).trans child
      · cases List.mem_singleton.mp last
        exact List.prefix_refl _

mutual

theorem treeOrder_visits (place : List Nat) : (tree : Tree ν φ) →
    TreeOrder place (tree.visits place)
  | literal _ | var _ | foreign _ => treeOrder_of_children (forestOrder_nil place 0)
  | negation operand =>
    treeOrder_of_children (.cons (treeOrder_visits _ operand) (forestOrder_nil place 1))
  | binary _ left right =>
    treeOrder_of_children (.cons (treeOrder_visits _ left)
      (.cons (treeOrder_visits _ right) (forestOrder_nil place 2)))
  | call _ arguments => treeOrder_of_children (forestOrder_visitsAll place 0 arguments)

theorem forestOrder_visitsAll (place : List Nat) (first : Nat) : (trees : List (Tree ν φ)) →
    ForestOrder place first (visitsAll place first trees)
  | [] => forestOrder_nil place first
  | tree :: trees =>
    .cons (treeOrder_visits _ tree) (forestOrder_visitsAll place (first + 1) trees)

end

/-- Pre-order is the lexicographic order of places. -/
theorem pairwise_inPreorder (tree : Tree ν φ) :
    tree.inPreorder.Pairwise fun first second => first.1 < second.1 := by
  refine List.pairwise_filterMap.mpr ((treeOrder_visits [] tree).pairwise.imp ?_)
  intro visit other before first found second next
  rw [Visit.down?_eq_some] at found next
  subst found next
  exact before

/-- The nodes from which one has come up when one first comes to a place. -/
theorem filter_leftOf_inPostorder {tree : Tree ν φ}
    (visits : tree.visits [] = before ++ .down place node :: after) :
    tree.inPostorder.filter (LeftOf ·.1 place) = before.filterMap Visit.up? := by
  have order := (treeOrder_visits [] tree).pairwise
  rw [visits] at order
  obtain ⟨_, later, earlier⟩ := List.pairwise_append.mp order
  have left : ∀ entry ∈ before.filterMap Visit.up?, LeftOf entry.1 place := by
    intro entry member
    obtain ⟨visit, made, found⟩ := List.mem_filterMap.mp member
    rw [Visit.up?_eq_some] at found
    subst found
    exact earlier _ made _ (List.mem_cons_self ..)
  have right : ∀ entry ∈ after.filterMap Visit.up?, ¬LeftOf entry.1 place := by
    intro entry member
    obtain ⟨visit, made, found⟩ := List.mem_filterMap.mp member
    rw [Visit.up?_eq_some] at found
    subst found
    exact (List.pairwise_cons.mp later).1 _ made
  rw [inPostorder, visits, List.filterMap_append, List.filterMap_cons_none rfl, List.filter_append,
    List.filter_eq_self.mpr (by simpa using left),
    List.filter_eq_nil_iff.mpr (by simpa using right), List.append_nil]

/-- The visits are to nodes of all the given symbols. -/
structure Covers (names : List ν) (keys : List φ) (visits : List (Visit ν φ)) : Prop where
  var : ∀ symbol ∈ names, ∃ place, .down place (var symbol) ∈ visits
  call : ∀ symbol ∈ keys, ∃ place arguments, .down place (call symbol arguments) ∈ visits

theorem Covers.subset {visits more : List (Visit ν φ)} (covers : Covers names keys visits)
    (within : visits ⊆ more) : Covers names keys more where
  var symbol member := (covers.var symbol member).imp fun _ made => within made
  call symbol member := by
    obtain ⟨place, arguments, made⟩ := covers.call symbol member
    exact ⟨place, arguments, within made⟩

theorem Covers.append {made later : List (Visit ν φ)} (first : Covers names keys made)
    (second : Covers others more later) :
    Covers (names ++ others) (keys ++ more) (made ++ later) where
  var symbol member := by
    rcases List.mem_append.mp member with here | there
    · exact (first.subset (List.subset_append_left _ _)).var symbol here
    · exact (second.subset (List.subset_append_right _ _)).var symbol there
  call symbol member := by
    rcases List.mem_append.mp member with here | there
    · exact (first.subset (List.subset_append_left _ _)).call symbol here
    · exact (second.subset (List.subset_append_right _ _)).call symbol there

mutual

theorem covers_visits (place : List Nat) : (tree : Tree ν φ) →
    Covers tree.variableSymbols tree.functionSymbols (tree.visits place)
  | literal _ | foreign _ => ⟨nofun, nofun⟩
  | negation operand =>
    (covers_visits _ operand).subset fun _ made =>
      List.mem_cons_of_mem _ (List.mem_append_left _ made)
  | binary _ left right => by
    have first := covers_visits (place ++ [0]) left
    refine (first.append (covers_visits (place ++ [1]) right)).subset ?_
    rw [visits, ← List.append_assoc]
    exact fun _ made => List.mem_cons_of_mem _ (List.mem_append_left _ made)
  | var symbol =>
    ⟨fun _ same => ⟨place, List.mem_singleton.mp same ▸ List.mem_cons_self ..⟩, nofun⟩
  | call symbol arguments => by
    have within : visitsAll place 0 arguments ⊆ (call symbol arguments).visits place :=
      fun _ made => List.mem_cons_of_mem _ (List.mem_append_left _ made)
    have inner := (covers_visitsAll place 0 arguments).subset within
    refine ⟨inner.var, fun callee member => ?_⟩
    rcases List.mem_append.mp member with here | same
    · exact inner.call callee here
    · exact ⟨place, arguments, List.mem_singleton.mp same ▸ List.mem_cons_self ..⟩

theorem covers_visitsAll (place : List Nat) (first : Nat) : (trees : List (Tree ν φ)) →
    Covers (variableSymbolsAll trees) (functionSymbolsAll trees) (visitsAll place first trees)
  | [] => ⟨nofun, nofun⟩
  | tree :: trees => (covers_visits _ tree).append (covers_visitsAll place (first + 1) trees)

end

end Tree

section
variable {host : Host κ σ} {policy : DivisionPolicy} {s : Session κ σ}

/-! ### The first symbol that is not bound -/

/-- The function of a call. -/
def Tree.callee? : Tree ν φ → Option φ
  | .call symbol _ => some symbol
  | .literal _ | .negation _ | .binary _ _ _ | .var _ | .foreign _ => none

/-- What is bound to the functions of the calls among some nodes. -/
def Session.callees (s : Session κ σ) (entries : List (List Nat × Node)) : List (Option κ) :=
  (entries.filterMap (·.2.callee?)).map fun slot => s.callbacks slot.id

theorem Session.callees_append (s : Session κ σ) (entries others : List (List Nat × Node)) :
    s.callees (entries ++ others) = s.callees entries ++ s.callees others := by
  rw [callees, List.filterMap_append, List.map_append]
  rfl

theorem Visited.lack (visited : Visited host policy s (.down place node) events fault?) :
    fault? = s.lack? node := by
  cases visited
  rfl

theorem Visited.callees (visited : Visited host policy s visit events fault?) :
    events.map (some ·.callback) = s.callees visit.up?.toList := by
  cases visited with
  | call bound => exact congrArg (fun callback => [callback]) bound.symm
  | _ => rfl

/-- The visit is to a node whose symbol is not bound, on the way down. -/
def Session.lacks (s : Session κ σ) : Visit VariableSlot FunctionSlot → Bool
  | .down _ node => (s.lack? node).isSome
  | .up _ _ => false

/-- How an evaluation ends if there is a fault `missing` to the right of some nodes: with this
fault, after all of the calls among the nodes, or at one of the nodes, after the calls up to it. -/
inductive Session.EndsBy (host : Host κ σ) (policy : DivisionPolicy) (s : Session κ σ)
    (left : List (List Nat × Node)) (missing : Fault) : Fault → List (CallEvent κ) → Prop where
  | unbound : events.map (some ·.callback) = s.callees left →
    EndsBy host policy s left missing missing events
  | broken : left = done ++ (place, node) :: rest →
    Visited host policy s (.up place node) last (some fault) →
    (earlier ++ last).map (some ·.callback) = s.callees (done ++ [(place, node)]) →
    EndsBy host policy s left missing fault (earlier ++ last)

theorem Session.EndsBy.at_once
    (visited : Visited host policy s (.up place node) events (some fault))
    (rest : List (List Nat × Node)) :
    s.EndsBy host policy ((place, node) :: rest) missing fault events := by
  rw [← List.nil_append events, ← List.nil_append ((place, node) :: rest)]
  exact .broken rfl visited visited.callees

theorem Session.EndsBy.after (ends : s.EndsBy host policy left missing fault later)
    (called : events.map (some ·.callback) = s.callees before) :
    s.EndsBy host policy (before ++ left) missing fault (events ++ later) := by
  cases ends with
  | unbound others =>
    exact .unbound (by rw [List.map_append, called, others, Session.callees_append])
  | @broken done place node rest last fault earlier split visited others =>
    rw [← List.append_assoc]
    refine .broken (by rw [split, ← List.append_assoc]) visited ?_
    rw [List.append_assoc, List.append_assoc, List.map_append, called, others,
      ← Session.callees_append]

/-- Visits do not get past a node whose symbol is not bound. -/
theorem Visiting.endsBy (unbound : s.lack? node = some missing) :
    (before : List (Visit VariableSlot FunctionSlot)) →
    (∀ place node, .down place node ∈ before → s.lack? node = none) →
    Visiting host policy s (before ++ .down place node :: after) events fault? →
    ∃ fault, fault? = some fault ∧
      s.EndsBy host policy (before.filterMap Visit.up?) missing fault events
  | [], _, .stop visited => by
    obtain rfl : _ = missing := Option.some.inj (visited.lack.trans unbound)
    exact ⟨_, rfl, .unbound visited.callees⟩
  | [], _, .next visited _ => by
    cases visited.lack.trans unbound
  | .down _ _ :: before, bound, .stop visited => by
    cases visited.lack.trans (bound _ _ (List.mem_cons_self ..))
  | .up place node :: before, _, .stop visited =>
    ⟨_, rfl, .at_once visited _⟩
  | visit :: before, bound, .next visited onward => by
    obtain ⟨fault, failed, ends⟩ := onward.endsBy unbound before
      fun place node member => bound place node (List.mem_cons_of_mem _ member)
    refine ⟨fault, failed, ?_⟩
    have onward := ends.after visited.callees
    cases visit <;> exact onward

/-- The first visit to a node whose symbol is not bound. -/
structure Session.FirstLacking (s : Session κ σ) (node : Node)
    (before : List (Visit VariableSlot FunctionSlot)) (place : List Nat) (lacking : Node)
    (missing : Fault) (after : List (Visit VariableSlot FunctionSlot)) : Prop where
  visits : node.visits [] = before ++ .down place lacking :: after
  unbound : s.lack? lacking = some missing
  bound : ∀ place node, .down place node ∈ before → s.lack? node = none

theorem Session.exists_firstLacking {node : Node}
    (unbound : (∃ slot ∈ node.variableSymbols, s.values slot.id = none) ∨
      ∃ slot ∈ node.functionSymbols, s.callbacks slot.id = none) :
    ∃ before place lacking missing after,
      s.FirstLacking node before place lacking missing after := by
  have covers := Tree.covers_visits [] node
  have lacking : ∃ visit ∈ node.visits [], s.lacks visit := by
    rcases unbound with ⟨slot, member, held⟩ | ⟨slot, member, held⟩
    · obtain ⟨place, made⟩ := covers.var slot member
      exact ⟨_, made, by rw [Session.lacks, Session.lack?, held]; rfl⟩
    · obtain ⟨place, arguments, made⟩ := covers.call slot member
      exact ⟨_, made, by rw [Session.lacks, Session.lack?, held]; rfl⟩
  obtain ⟨visit, first⟩ := Option.isSome_iff_exists.mp (List.find?_isSome.mpr lacking)
  obtain ⟨lacks, before, after, visits, others⟩ := List.find?_eq_some_iff_append.mp first
  cases visit with
  | up place node => contradiction
  | down place node =>
    obtain ⟨missing, unbound⟩ := Option.isSome_iff_exists.mp lacks
    refine ⟨before, place, node, missing, after, visits, unbound, fun place node member => ?_⟩
    simpa [Session.lacks] using others _ member

/-- The nodes before the first one that lacks its binding have theirs. -/
theorem Session.FirstLacking.inPreorder {node : Node}
    (first : s.FirstLacking node before place lacking missing after) :
    (place, lacking) ∈ node.inPreorder ∧
      ∀ entry ∈ node.inPreorder, entry.1 < place → s.lack? entry.2 = none := by
  have entries : node.inPreorder =
      before.filterMap Visit.down? ++ (place, lacking) :: after.filterMap Visit.down? := by
    rw [Tree.inPreorder, first.visits, List.filterMap_append]
    rfl
  have order := Tree.pairwise_inPreorder node
  rw [entries] at order ⊢
  refine ⟨List.mem_append_right _ (List.mem_cons_self ..), fun entry member less => ?_⟩
  rcases List.mem_append.mp member with here | later
  · obtain ⟨visit, made, found⟩ := List.mem_filterMap.mp here
    rw [Visit.down?_eq_some] at found
    exact first.bound _ _ (found ▸ made)
  · obtain ⟨beyond, _⟩ := List.pairwise_cons.mp (List.pairwise_append.mp order).2.1
    rcases List.mem_cons.mp later with rfl | later
    · exact absurd less (List.lt_irrefl _)
    · exact absurd less (List.lt_asymm (beyond entry later))

/-- An evaluation that is ended by the first node in pre-order whose symbol is not bound, if it does
not fail before, at a node to the left. -/
def Session.EndsUnbound (host : Host κ σ) (policy : DivisionPolicy) (s : Session κ σ) (node : Node)
    (outcome : Except Fault Value) (events : List (CallEvent κ)) : Prop :=
  ∃ place lacking missing fault,
    (place, lacking) ∈ node.inPreorder ∧ s.lack? lacking = some missing ∧
    (∀ entry ∈ node.inPreorder, entry.1 < place → s.lack? entry.2 = none) ∧
    outcome = .error fault ∧
    s.EndsBy host policy (node.inPostorder.filter (LeftOf ·.1 place)) missing fault events

/-- If a symbol of a tree is not bound and callbacks leave the bindings as they are, an evaluation
reports the first such symbol in pre-order, after the calls that precede it and are not above it, in
post-order. Otherwise it fails before, at a node that precedes the symbol and is not above it. -/
theorem evaluate_unbound (host : Host κ σ) (s : Session κ σ) (preserved : s.Preserved host)
    (policy : DivisionPolicy) (node : Node)
    (unbound : (∃ slot ∈ node.variableSymbols, s.values slot.id = none) ∨
      ∃ slot ∈ node.functionSymbols, s.callbacks slot.id = none) :
    s.EndsUnbound host policy node ((Node.evaluate host policy node).run s).1
      (node.calls host policy s) := by
  obtain ⟨before, place, lacking, missing, after, first⟩ := Session.exists_firstLacking unbound
  obtain ⟨member, others⟩ := first.inPreorder
  have visiting := visiting_evaluate preserved policy node
  rw [first.visits] at visiting
  obtain ⟨fault, failed, ends⟩ := visiting.endsBy first.unbound before first.bound
  refine ⟨place, lacking, missing, fault, member, first.unbound, others,
    faultOf_eq_some.mp failed, ?_⟩
  rw [Tree.filter_leftOf_inPostorder first.visits]
  exact ends

/-- Two calls share a slot, and two variables are not bound: the first of them is reported, after
the calls on its left. -/
theorem evaluate_unbound_of_sharedSlot :
    let f : FunctionSlot := ⟨0, "f", 1⟩
    let x : VariableSlot := ⟨0, "x"⟩
    let y : VariableSlot := ⟨1, "y"⟩
    let root : Node := .binary .add
      (.binary .mul (.call f [.call f [.literal (.int 1)]]) (.var x)) (.call f [.var y])
    let negate : Callback := ⟨0, .script "f" (.fixed 1) .negation⟩
    let start : Callback.Session := .start ⟨"f(f(1))*x+f(y)", root, ⟨[x, y], [f]⟩⟩ .checked .empty
    let s := start.setCallback f (some negate)
    let host := Callback.host Callback.shown
    let missing : Fault := .expression (.unboundVariable "x")
    s.Preserved host ∧ (x ∈ root.variableSymbols ∧ s.values x.id = none) ∧
      ((Node.evaluate host .checked root).run s).1 = .error missing ∧
      (root.calls host .checked s).map (·.callback) = [negate, negate] ∧
      s.EndsUnbound host .checked root (.error missing) (root.calls host .checked s) := by
  intro f x y root negate start s host missing
  have computes : negate.blueprint.computes = true := rfl
  have preserved : s.Preserved host := (Session.preserved_start _ _ _).setCallback f
    (Callback.stateless_of_computes Callback.shown computes).preserves
  have unbound : x ∈ root.variableSymbols ∧ s.values x.id = none := ⟨List.mem_cons_self .., rfl⟩
  have evaluated : ((Node.evaluate host .checked root).run s).1 = .error missing := by
    rfl
  have called : (root.calls host .checked s).map (·.callback) = [negate, negate] := by
    rfl
  have ends := evaluate_unbound host s preserved .checked root (.inl ⟨x, unbound⟩)
  rw [evaluated] at ends
  exact ⟨preserved, unbound, evaluated, called, ends⟩

end

end Formula
