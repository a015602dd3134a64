import Formula.Source.Cursor
import Mathlib.Data.List.Basic

/-! Cursors in use. Whatever is done with a cursor, and whether it succeeds or not, the characters
that advancing returned and those that skipping white space went over are the source up to the
position, each once and in order. Every operation keeps the source and adds what it takes to what
has been passed; a run of operations keeps and adds what its operations do. -/
namespace Formula.Cursor

/-- What can be done with a cursor. -/
inductive Operation where
  | peek
  | advance
  | peekAt (offset : Nat)
  | isAt (expected : String)
  | skipBlanks
  | isAtEnd
  | location
  deriving DecidableEq

inductive Answer where
  | character (c : Char)
  | character? (c? : Option Char)
  | truth (holds : Bool)
  | place (location : SourceLocation)
  | nothing

/-- What an operation answers, and the cursor after it; one that fails leaves the cursor. -/
def Operation.perform (c : Cursor) : Operation → Except Fault Answer × Cursor
  | peek => (c.peek.map .character, c)
  | advance =>
    match c.advance with
    | .ok (next, moved) => (.ok (.character next), moved)
    | .error fault => (.error fault, c)
  | peekAt offset => ((c.peekAt offset).map .character?, c)
  | isAt expected => (.ok (.truth (c.isAt expected)), c)
  | skipBlanks => (.ok .nothing, c.skipBlanks)
  | isAtEnd => (.ok (.truth c.isAtEnd), c)
  | location => (.ok (.place c.location), c)

/-- The characters that an operation takes: the one that advancing returns, and those of the source
from the position before skipping white space to the one after it. -/
def Operation.taken (c : Cursor) (op : Operation) : List Char :=
  match op, op.perform c with
  | .advance, (.ok (.character next), _) => [next]
  | .skipBlanks, (_, moved) => (c.source.drop (c.position - 1)).take (moved.position - c.position)
  | _, _ => []

/-- The cursor after several operations. -/
def after (c : Cursor) (ops : List Operation) : Cursor :=
  ops.foldl (fun c op => (op.perform c).2) c

/-- The characters that several operations take, in order. -/
def taken (c : Cursor) : List Operation → List Char
  | [] => []
  | op :: ops => op.taken c ++ taken (op.perform c).2 ops

/-! ### Steps -/

section
variable {c : Cursor}

theorem drop_source (c : Cursor) : c.source.drop (c.position - 1) = c.ahead := by
  simp [source, position]

theorem position_skip (c : Cursor) {count : Nat} (within : count ≤ c.ahead.length) :
    (c.skip count).position = c.position + count := by
  simp only [position, skip, List.length_append, List.length_reverse, List.length_take]
  omega

theorem length_blanks_le (c : Cursor) :
    (c.ahead.takeWhile Text.isBlank).length ≤ c.ahead.length :=
  (List.takeWhile_prefix _).length_le

/-- White space that is skipped is what the cursor has of it ahead. -/
theorem taken_skipBlanks (c : Cursor) :
    Operation.skipBlanks.taken c = c.ahead.takeWhile Text.isBlank := by
  have moved := c.position_skip c.length_blanks_le
  have whole := List.prefix_iff_eq_take.mp (List.takeWhile_prefix (l := c.ahead) Text.isBlank)
  simp only [Operation.taken, Operation.perform, drop_source, skipBlanks, moved,
    Nat.add_sub_cancel_left]
  exact whole.symm

@[simp]
theorem ahead_skip (c : Cursor) (count : Nat) : (c.skip count).ahead = c.ahead.drop count :=
  rfl

@[simp]
theorem skip_zero (c : Cursor) : c.skip 0 = c := by
  simp [skip]

@[simp]
theorem skip_skip (c : Cursor) (count more : Nat) :
    (c.skip count).skip more = c.skip (count + more) := by
  simp [skip, List.take_add, List.append_assoc]

/-- Advancing goes over one character. -/
theorem advance_cons (ahead : c.ahead = next :: rest) : c.advance = .ok (next, c.skip 1) := by
  simp [advance, skip, ahead]

theorem advance_nil (ahead : c.ahead = []) :
    c.advance = .error (.expression (.endOfInput c.location)) := by
  rw [advance, ahead]

theorem peekAt_natCast (c : Cursor) (offset : Nat) : c.peekAt offset = .ok c.ahead[offset]? := by
  have place : (0 : Int) ≤ c.passed.length + offset := by omega
  have index : ((c.passed.length : Int) + offset).toNat = c.passed.reverse.length + offset := by
    rw [List.length_reverse]
    rfl
  simp only [peekAt, if_pos place, source, index, List.getElem?_append_right (Nat.le_add_right _ _),
    Nat.add_sub_cancel_left]

/-- An operation keeps the source and its name, and passes the characters that it takes. -/
structure Keeps (c : Cursor) (text : List Char) (moved : Cursor) : Prop where
  source_eq : moved.source = c.source
  name_eq : moved.name = c.name
  passed_eq : moved.passed.reverse = c.passed.reverse ++ text

theorem Keeps.refl (c : Cursor) : Keeps c [] c :=
  ⟨rfl, rfl, (List.append_nil _).symm⟩

theorem Keeps.trans (first : Keeps c text moved) (second : Keeps moved more last) :
    Keeps c (text ++ more) last :=
  ⟨second.source_eq.trans first.source_eq, second.name_eq.trans first.name_eq, by
    rw [second.passed_eq, first.passed_eq, List.append_assoc]⟩

theorem keeps_skip (c : Cursor) (count : Nat) : Keeps c (c.ahead.take count) (c.skip count) :=
  ⟨c.source_skip count, rfl, by simp [skip]⟩

theorem keeps_perform (c : Cursor) (op : Operation) : Keeps c (op.taken c) (op.perform c).2 := by
  cases op with
  | advance =>
    cases ahead : c.ahead with
    | nil =>
      simp only [Operation.taken, Operation.perform, advance_nil ahead]
      exact .refl c
    | cons next rest =>
      have kept := c.keeps_skip 1
      rw [ahead] at kept
      simp only [Operation.taken, Operation.perform, advance_cons ahead]
      exact kept
  | skipBlanks =>
    have whole := List.prefix_iff_eq_take.mp (List.takeWhile_prefix (l := c.ahead) Text.isBlank)
    rw [taken_skipBlanks, whole]
    exact c.keeps_skip _
  | peek | peekAt | isAt | isAtEnd | location => exact .refl c

/-- An operation fails if it needs the next character and there is none. -/
theorem fails_iff (c : Cursor) (op : Operation) :
    (∃ fault, (op.perform c).1 = .error fault) ↔
      (op = .peek ∨ op = .advance) ∧ c.ahead = [] := by
  cases op with
  | peek =>
    cases ahead : c.ahead with
    | nil => simp [Operation.perform, peek, ahead, Except.map]
    | cons => simp [Operation.perform, peek, ahead, Except.map]
  | advance =>
    cases ahead : c.ahead with
    | nil => simp [Operation.perform, advance_nil ahead]
    | cons => simp [Operation.perform, advance_cons ahead]
  | peekAt offset => simp [Operation.perform, peekAt_natCast, Except.map]
  | isAt | skipBlanks | isAtEnd | location => simp [Operation.perform]

/-- An operation that fails says where the source ends. -/
theorem failure_eq {op : Operation} (failed : (op.perform c).1 = .error fault) :
    fault = .expression (.endOfInput c.location) ∧ (op.perform c).2 = c := by
  obtain ⟨asks, ahead⟩ := (fails_iff c op).mp ⟨fault, failed⟩
  rcases asks with rfl | rfl
  · simp only [Operation.perform, peek, ahead, Except.map, Except.error.injEq] at failed
    exact ⟨failed.symm, rfl⟩
  · simp only [Operation.perform, advance_nil ahead, Except.error.injEq] at failed
    refine ⟨failed.symm, ?_⟩
    simp only [Operation.perform, advance_nil ahead]

end

/-! ### Runs -/

theorem keeps_after (c : Cursor) (ops : List Operation) : Keeps c (taken c ops) (c.after ops) := by
  induction ops generalizing c with
  | nil => exact .refl c
  | cons op ops ih => exact (keeps_perform c op).trans (ih _)

section
variable {source name : String} {c : Cursor}

/-- What has been passed and what is ahead are the source. -/
theorem Keeps.whole (keeps : Keeps (start source name) text c) :
    c.passed.reverse ++ c.ahead = source.toList :=
  keeps.source_eq

theorem Keeps.length_source (keeps : Keeps (start source name) text c) :
    c.passed.length + c.ahead.length = source.length := by
  rw [← String.length_toList, ← keeps.whole, List.length_append, List.length_reverse]

theorem Keeps.ahead_eq_nil_iff (keeps : Keeps (start source name) text c) :
    c.ahead = [] ↔ c.position = source.length + 1 := by
  have whole := keeps.length_source
  rw [← List.length_eq_zero_iff, position]
  omega

theorem Keeps.text_eq (keeps : Keeps (start source name) text c) : text = c.passed.reverse :=
  keeps.passed_eq.symm

/-- What has been taken is the source up to the position. -/
theorem Keeps.eq_take (keeps : Keeps (start source name) text c) :
    text = source.toList.take (c.position - 1) := by
  rw [← keeps.whole, position, Nat.add_sub_cancel, ← List.length_reverse, List.take_left]
  exact keeps.text_eq

/-- The character at the position is the next one. -/
theorem Keeps.getElem?_source (keeps : Keeps (start source name) text c) :
    source.toList[c.position - 1]? = c.ahead.head? := by
  rw [← keeps.whole, position, Nat.add_sub_cancel, ← List.length_reverse,
    List.getElem?_append_right (Nat.le_refl _), Nat.sub_self, List.head?_eq_getElem?]

theorem Keeps.location_eq (keeps : Keeps (start source name) text c) (ahead : c.ahead = []) :
    c.location = ⟨source.length + 1, name⟩ := by
  rw [location, keeps.ahead_eq_nil_iff.mp ahead, keeps.name_eq]
  rfl

end

/-- What an operation does where a cursor stands in a source. Advancing and skipping white space
move it, and only forward. After white space is skipped, which is all that is skipped, none is next.
An operation fails if and only if it needs a character and the whole source has been passed; it then
reports the position after the source, and leaves the cursor. -/
structure Orderly (source name : String) (c : Cursor) (op : Operation) : Prop where
  still : op ≠ .advance → op ≠ .skipBlanks → (op.perform c).2 = c
  forward : c.position ≤ (op.perform c).2.position
  blank : op = .skipBlanks → ∀ next ∈ op.taken c, Text.isBlank next = true
  stops : op = .skipBlanks → ∀ next,
    source.toList[(op.perform c).2.position - 1]? = some next → Text.isBlank next = false
  fails : (∃ fault, (op.perform c).1 = .error fault) ↔
    (op = .peek ∨ op = .advance) ∧ c.position = source.length + 1
  failure : ∀ fault, (op.perform c).1 = .error fault →
    fault = .expression (.endOfInput (some ⟨source.length + 1, name⟩)) ∧ (op.perform c).2 = c

theorem Keeps.orderly {source name : String} {c : Cursor}
    (keeps : Keeps (start source name) text c) (op : Operation) : Orderly source name c op where
  still advances skips := by
    cases op with
    | advance | skipBlanks => contradiction
    | peek | peekAt | isAt | isAtEnd | location => rfl
  forward := by
    have longer := congrArg List.length (keeps_perform c op).passed_eq
    simp only [List.length_append, List.length_reverse] at longer
    rw [position, position]
    omega
  blank := by
    rintro rfl
    rw [taken_skipBlanks]
    exact List.all_eq_true.mp List.all_takeWhile
  stops := by
    rintro rfl next found
    rw [(keeps.trans (keeps_perform c _)).getElem?_source] at found
    change c.skipBlanks.ahead.head? = some next at found
    rw [ahead_skipBlanks] at found
    have stopped := List.head?_dropWhile_not Text.isBlank c.ahead
    rw [found] at stopped
    simpa using stopped
  fails := by rw [fails_iff, keeps.ahead_eq_nil_iff]
  failure fault failed := by
    obtain ⟨_, ahead⟩ := (fails_iff c op).mp ⟨fault, failed⟩
    have same := failure_eq failed
    rwa [keeps.location_eq ahead] at same

/-- After any operations on the cursor of a source, whichever of them fail, the position counts the
characters taken, these are the beginning of the source of that length, and every operation that can
come next is orderly. -/
theorem after_orderly (source name : String) (ops : List Operation) :
    ((start source name).after ops).position = (taken (start source name) ops).length + 1 ∧
    (taken (start source name) ops).length ≤ source.length ∧
    taken (start source name) ops =
      source.toList.take (taken (start source name) ops).length ∧
    ∀ op, Orderly source name ((start source name).after ops) op := by
  have keeps := keeps_after (start source name) ops
  have count : ((start source name).after ops).position =
      (taken (start source name) ops).length + 1 := by
    rw [keeps.text_eq, List.length_reverse]
    rfl
  refine ⟨count, ?_, ?_, keeps.orderly⟩
  · have whole := keeps.length_source
    rw [keeps.text_eq, List.length_reverse]
    omega
  · have beginning := keeps.eq_take
    rwa [count, Nat.add_sub_cancel] at beginning

end Formula.Cursor
