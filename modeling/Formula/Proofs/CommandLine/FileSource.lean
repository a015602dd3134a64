import Formula.CommandLine.Evaluation
import Formula.Proofs.Grammar.Whitespace
import Formula.Proofs.Text.Encoding
import Mathlib.Data.List.TakeWhile

/-! Sources in files. The white space at the ends of a file is taken off before the rest is
compiled. That changes neither the tree nor the cause of an error, but the place of an error is
counted from where the rest begins, and not from the beginning of the file. -/
namespace Formula

namespace Text

theorem trimBoth_spec (p : Char → Bool) (text : List Char) : ∃ trailing : List Char,
    text = text.takeWhile p ++ (trimBoth p text ++ trailing) ∧ ∀ c ∈ trailing, p c = true := by
  refine ⟨((text.dropWhile p).reverse.takeWhile p).reverse, ?_, ?_⟩
  · rw [trimBoth, ← List.reverse_append, List.takeWhile_append_dropWhile, List.reverse_reverse,
      List.takeWhile_append_dropWhile]
  · intro c member
    exact List.mem_takeWhile_imp (List.mem_reverse.mp member)

theorem unifyLineEnds_eq_self {text : List Char} (absent : '\r' ∉ text) :
    unifyLineEnds text = text := by
  fun_induction unifyLineEnds text with
  | case1 | case2 => exact absurd List.mem_cons_self absent
  | case3 c rest _ _ ih => rw [ih (fun member => absent (List.mem_cons_of_mem c member))]
  | case4 => rfl

end Text

namespace Grammar

/-- Lexemes end where the text does. -/
theorem locate_end_le (spaced : List Spaced) (position : Nat) :
    ∀ l ∈ locate position spaced, position ≤ l.position ∧
      l.position + l.lexeme.text.length ≤ position + (spaced.flatMap Spaced.text).length := by
  induction spaced generalizing position with
  | nil => exact nofun
  | cons s more ih =>
    have length : s.text.length = s.blanks.text.length + s.lexeme.text.length := List.length_append
    rw [locate, List.flatMap_cons, List.length_append, List.forall_mem_cons]
    refine ⟨by dsimp only; omega, fun l member => ?_⟩
    have bounds := ih _ l member
    omega

/-- No lexeme reaches over either end of a text. -/
theorem not_spans_of_outside (text : List Char) (outside : point ≤ 1 ∨ text.length < point) :
    ∀ located ∈ Lexeme.scan 1 text, ¬located.Spans point := by
  obtain ⟨spaced, trailing, _, made, scanned⟩ := exists_spaced text
  rw [scanned]
  rintro located member ⟨_, before, behind⟩
  obtain ⟨least, most⟩ := locate_end_le spaced 1 located member
  have length := congrArg List.length made
  rw [List.length_append] at length
  omega

end Grammar

/-- The position in a text that has `leading` characters before others, and `length` characters in
all, of what is at a position in these `count` others or right after them. -/
def restorePosition (leading count length position : Nat) : Nat :=
  if position ≤ count then leading + position else length + 1

theorem getElem?_restorePosition (front kept trailing : List Char) (positive : 1 ≤ position) :
    (front ++ (kept ++ trailing))[restorePosition front.length kept.length
      (front ++ (kept ++ trailing)).length position - 1]? = kept[position - 1]? := by
  rw [restorePosition]
  split
  · have along : front.length + position - 1 = front.length + (position - 1) := by omega
    rw [along, List.getElem?_append_right (by omega), Nat.add_sub_cancel_left,
      List.getElem?_append_left (by omega)]
  · rw [List.getElem?_eq_none (by omega), List.getElem?_eq_none (by omega)]

/-- Reading a text is reading what is left of it without the white space at its ends, but for the
place of a refusal. -/
theorem Term.read_trimBoth (number? : String → Option Value) (text : List Char) :
    let kept := Text.trimBoth Text.isBlank text
    let leading := (text.takeWhile Text.isBlank).length
    Term.read number? (String.ofList text) = (Term.read number? (String.ofList kept)).mapError
      (·.relocate (restorePosition leading kept.length text.length)) := by
  intro kept leading
  obtain ⟨trailing, divided, blank⟩ := Text.trimBoth_spec Text.isBlank text
  have front : ∀ c ∈ text.takeWhile Text.isBlank, Text.isBlank c = true :=
    fun c member => List.mem_takeWhile_imp member
  have before := read_insert number? ⟨_, front⟩ [] (kept ++ trailing)
    (Grammar.not_spans_of_outside _ (.inl (Nat.le_refl 1)))
  have behind := read_insert number? ⟨trailing, blank⟩ kept []
    (Grammar.not_spans_of_outside _ (.inr (by rw [List.append_nil]; omega)))
  rw [List.nil_append, List.nil_append, ← divided] at before
  rw [List.append_nil, List.append_nil] at behind
  rw [before, behind]
  have length := congrArg List.length divided
  rw [List.length_append, List.length_append] at length
  change text.length = leading + (kept.length + trailing.length) at length
  cases outcome : Term.read number? (String.ofList kept) with
  | ok term => rfl
  | error refusal =>
    obtain ⟨cause, position⟩ := refusal
    obtain ⟨positive, bound⟩ := Term.place_of_read_error outcome
    rw [String.length_ofList] at bound
    have places : shiftFrom (1 + 0) leading (shiftFrom (1 + kept.length) trailing.length position) =
        restorePosition leading kept.length text.length position := by
      simp only [shiftFrom, restorePosition]
      split <;> split <;> split <;> omega
    exact congrArg (fun place => Except.error (Refusal.mk cause place)) places

section
variable {text : List Char}

theorem compile_of_trimBoth (success :
      Compiled.compile kind (String.ofList (Text.trimBoth Text.isBlank text)) name = .ok compiled) :
    Compiled.compile kind (String.ofList text) name =
      .ok { compiled with source := String.ofList text } := by
  obtain ⟨term, accepted, rfl⟩ := compile_eq_ok_iff.mp success
  refine compile_eq_ok_iff.mpr ⟨term, ?_, rfl⟩
  rw [Term.read_trimBoth, accepted]
  rfl

/-- A text is refused where it is without the white space at its ends. -/
theorem compile_of_trimBoth_error (failed :
      Compiled.compile kind (String.ofList (Text.trimBoth Text.isBlank text)) name =
        .error error) :
    ∃ cause position, 1 ≤ position ∧ position ≤ (Text.trimBoth Text.isBlank text).length + 1 ∧
      error = (⟨cause, position⟩ : Refusal).toError name ∧
      let place := restorePosition (text.takeWhile Text.isBlank).length
        (Text.trimBoth Text.isBlank text).length text.length position
      Compiled.compile kind (String.ofList text) name =
        .error ((⟨cause, place⟩ : Refusal).toError name) ∧
      text[place - 1]? = (Text.trimBoth Text.isBlank text)[position - 1]? := by
  have read := Term.read_trimBoth kind.read? text
  rw [Compiled.compile] at failed ⊢
  rw [read]
  cases outcome : Term.read kind.read? (String.ofList (Text.trimBoth Text.isBlank text)) with
  | ok term =>
    rw [outcome] at failed
    contradiction
  | error refusal =>
    rw [outcome] at failed
    obtain ⟨cause, position⟩ := refusal
    obtain ⟨positive, bound⟩ := Term.place_of_read_error outcome
    rw [String.length_ofList] at bound
    obtain ⟨trailing, divided, _⟩ := Text.trimBoth_spec Text.isBlank text
    have same := getElem?_restorePosition (text.takeWhile Text.isBlank)
      (Text.trimBoth Text.isBlank text) trailing positive
    rw [← divided] at same
    exact ⟨cause, position, positive, bound, (Except.error.inj failed).symm, rfl, same⟩

end

namespace Logged

section
variable {first : Logged α} {events later : List Event}

theorem run_ofExcept (outcome : Except Fault α) (events : List Event) :
    (ofExcept outcome).run.run events = (outcome, events) :=
  rfl

theorem run_log (event : Event) (events : List Event) :
    (log event).run.run events = (.ok (), events ++ [event]) :=
  rfl

theorem run_bind_ok (returned : first.run.run events = (.ok a, later)) (next : α → Logged β) :
    (first >>= next).run.run events = (next a).run.run later := by
  rw [ExceptT.run_bind, StateT.run_bind, returned]
  rfl

theorem run_bind_error (failed : first.run.run events = (.error fault, later))
    (next : α → Logged β) : (first >>= next).run.run events = (.error fault, later) := by
  rw [ExceptT.run_bind, StateT.run_bind, failed]
  rfl

theorem run_tryCatch_ok (returned : first.run.run events = (.ok a, later))
    (handle : Fault → Logged α) :
    (tryCatch first handle).run.run events = (.ok a, later) := by
  rw [ExceptT.run_tryCatch, StateT.run_bind, returned]
  rfl

theorem run_tryCatch_error (failed : first.run.run events = (.error fault, later))
    (handle : Fault → Logged α) :
    (tryCatch first handle).run.run events = (handle fault).run.run later := by
  rw [ExceptT.run_tryCatch, StateT.run_bind, failed]
  rfl

end

end Logged

namespace CommandLine

/-- The text of a file with this content. -/
theorem Source.text_file {content : List Char} (noReturn : '\r' ∉ content) (path : String) :
    Source.text (.file path (Text.encode content)) =
      .ok (String.ofList (Text.trimBoth Text.isBlank content)) := by
  have decoded : Files.decodeText (Text.encode content) = .ok content := by
    rw [Files.decodeText, Text.decode_encode]
    exact congrArg Except.ok (Text.unifyLineEnds_eq_self noReturn)
  rw [Source.text, decoded]
  exact congrArg (fun text => Except.ok (String.ofList (Text.trimBoth Text.isBlank text)))
    String.toList_ofList

theorem run_compile (config : Config) {source : Source} (read : source.text = .ok text)
    (events : List Event) : ∃ later, (compile config source).run.run events =
      ((Compiled.compile config.numberKind text source.name).mapError .expression, later) := by
  rw [compile, read, Logged.run_bind_ok (Logged.run_ofExcept _ _),
    Logged.run_bind_ok (Logged.run_log _ _)]
  cases Compiled.compile config.numberKind text source.name with
  | error error => exact ⟨_, Logged.run_bind_error (Logged.run_ofExcept _ _) _⟩
  | ok compiled =>
    have logged := Logged.run_log (.compiled text compiled.context.variables.length
      compiled.context.functions.length) (events ++ [.compiling text])
    exact ⟨_, (Logged.run_bind_ok (Logged.run_ofExcept _ _) _).trans
      (Logged.run_bind_ok logged _)⟩

/-- An error of compilation is what every command reports. -/
theorem perform_of_compile_error {config : Config} {source : Source}
    (failed : (compile config source).run.run [] = (.error (.expression error), later))
    (particulars : Particulars) (command : Command) :
    (perform config source particulars command).outcome.1 = .ok (.expressionError error) := by
  have reported {next : Compiled → Logged Outcome} :
      (reportingErrors (compile config source >>= next)).outcome.1 = .ok (.expressionError error) :=
    congrArg Prod.fst (Logged.run_tryCatch_error (Logged.run_bind_error failed next) _)
  cases command with
  | check => exact reported
  | tree => exact reported
  | eval =>
    have evaluated : (evaluateSource config source particulars).run.run [] =
        (.error (.expression error), later) := Logged.run_bind_error failed _
    exact congrArg Prod.fst
      (Logged.run_tryCatch_error (Logged.run_bind_error evaluated _) _)

/-- Compiling a file gives the tree and the symbols that compiling its content gives. An error has
the same cause, which every command reports, but its position is counted from the first character
that is no white space; and the end of the source is reported where the white space at the end of
the file begins. -/
theorem compile_file (config : Config) (path : String) {content : List Char}
    (noReturn : '\r' ∉ content) :
    let source := Source.file path (Text.encode content)
    let leading := (content.takeWhile Text.isBlank).length
    let kept := Text.trimBoth Text.isBlank content
    (∀ compiled, (compile config source).outcome.1 = .ok compiled →
      Compiled.compile config.numberKind (String.ofList content) path =
        .ok { compiled with source := String.ofList content }) ∧
    ∀ fault, (compile config source).outcome.1 = .error fault → ∃ cause position,
      let reported := (⟨cause, position⟩ : Refusal).toError path
      let place := if position ≤ kept.length then leading + position else content.length + 1
      1 ≤ position ∧ position ≤ kept.length + 1 ∧ fault = .expression reported ∧
      (∀ particulars command,
        (perform config source particulars command).outcome.1 = .ok (.expressionError reported)) ∧
      Compiled.compile config.numberKind (String.ofList content) path =
        .error ((⟨cause, place⟩ : Refusal).toError path) ∧
      content[place - 1]? = kept[position - 1]? := by
  intro source leading kept
  obtain ⟨later, run⟩ := run_compile config (Source.text_file noReturn path) []
  rw [Logged.outcome, run]
  cases outcome : Compiled.compile config.numberKind (String.ofList kept) path with
  | ok compiled =>
    rw [show Compiled.compile config.numberKind (String.ofList kept) source.name = _ from outcome]
    refine ⟨?_, nofun⟩
    rintro _ ⟨⟩
    exact compile_of_trimBoth outcome
  | error error =>
    rw [show Compiled.compile config.numberKind (String.ofList kept) source.name = _ from outcome]
      at run ⊢
    refine ⟨nofun, ?_⟩
    rintro _ ⟨⟩
    obtain ⟨cause, position, positive, bound, rfl, same⟩ := compile_of_trimBoth_error outcome
    exact ⟨cause, position, positive, bound, rfl, perform_of_compile_error run, same⟩

/-- The expression in the file `2+` with a line feed at its end breaks off behind the line feed, and
is reported to break off before it. -/
theorem compile_file_of_danglingOperator :
    let content := ['2', '+', '\n']
    let reported := ExpressionError.endOfInput (some ⟨3, "e.txt"⟩)
    '\r' ∉ content ∧
      (compile .standard (.file "e.txt" (Text.encode content))).outcome.1 =
        .error (.expression reported) ∧
      (∀ particulars command,
        (perform .standard (.file "e.txt" (Text.encode content)) particulars command).outcome.1 =
          .ok (.expressionError reported)) ∧
      Compiled.compile .float "2+\n" "e.txt" = .error (.endOfInput (some ⟨4, "e.txt"⟩)) := by
  intro content reported
  have noReturn : '\r' ∉ content := by decide
  have kept : Text.trimBoth Text.isBlank content = ['2', '+'] := by decide
  have scanned : Lexeme.scan 1 "2+".toList = [⟨.number ['2'], 1⟩, ⟨.mark '+', 2⟩] := by
    decide +kernel
  have refused : Compiled.compile .float "2+" "e.txt" = .error reported := by
    rw [Compiled.compile, Term.read, scanned, Grammar.Situation.readOperand_eq_run]
    rfl
  obtain ⟨_, run⟩ := run_compile .standard (Source.text_file noReturn "e.txt") []
  have failed : (compile .standard (.file "e.txt" (Text.encode content))).outcome.1 =
      .error (.expression reported) := by
    rw [Logged.outcome, run, kept]
    exact congrArg (Except.mapError Fault.expression) refused
  obtain ⟨cause, position, _, _, same, everywhere, moved, _⟩ :=
    (compile_file .standard "e.txt" noReturn).2 _ failed
  have stated : reported = (⟨cause, position⟩ : Refusal).toError "e.txt" :=
    Fault.expression.inj same
  obtain rfl : cause = .endOfInput := by
    by_contra other
    rw [Refusal.toError_of_ne other] at stated
    contradiction
  have place := ExpressionError.endOfInput.inj stated
  simp only [Option.some.injEq, SourceLocation.mk.injEq, and_true] at place
  obtain rfl : position = 3 := by omega
  rw [kept] at moved
  exact ⟨noReturn, failed, everywhere, moved⟩

/-- In the file ` )` it is the second character that is refused, and the place that is reported is
that of the first one, which is white space. -/
theorem compile_file_ne_of_indented :
    let content := [' ', ')']
    content[0] = ' ' ∧ (compile .standard (.file "e.txt" (Text.encode content))).outcome.1 =
        .error (.expression (.malformed "value expected" (some ⟨1, "e.txt"⟩) [])) ∧
      Compiled.compile .float (String.ofList content) "e.txt" =
        .error (.malformed "value expected" (some ⟨2, "e.txt"⟩) []) := by
  intro content
  have noReturn : '\r' ∉ content := by decide
  have kept : Text.trimBoth Text.isBlank content = [')'] := by decide
  have scanned : Lexeme.scan 1 ")".toList = [⟨.mark ')', 1⟩] := by decide +kernel
  have indented : Lexeme.scan 1 " )".toList = [⟨.mark ')', 2⟩] := by decide +kernel
  refine ⟨rfl, ?_, ?_⟩
  · obtain ⟨_, run⟩ := run_compile .standard (Source.text_file noReturn "e.txt") []
    rw [Logged.outcome, run, kept]
    change Except.mapError Fault.expression (Compiled.compile .float ")" "e.txt") = _
    rw [Compiled.compile, Term.read, scanned, Grammar.Situation.readOperand_eq_run]
    rfl
  · change Compiled.compile .float " )" "e.txt" = _
    rw [Compiled.compile, Term.read, indented, Grammar.Situation.readOperand_eq_run]
    rfl

end CommandLine

end Formula
