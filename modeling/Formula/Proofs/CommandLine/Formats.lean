import Formula.Proofs.CommandLine.Escapes
import Formula.Proofs.CommandLine.Stages

/-! The two forms of output. Settings that differ in the form of output let a command do the same
and come to the same; only what is said of the outcome differs. Both answers are given with the same
status, or neither is. A JSON document tells the symbols, the lines and the error that the text
tells. -/
namespace Formula

/-- The settings with another form of output. -/
def Config.inFormat (config : Config) (format : CommandLine.Format) : Config :=
  { config with outputFormat := match format with | .text => "text" | .json => "json" }

theorem Config.format_inFormat (config : Config) (format : CommandLine.Format) :
    (config.inFormat format).format = format := by
  cases format <;> rfl

namespace CommandLine
open Logged

/-! ### Lines -/

section
variable {bodies : List (List Char)} {lines : List String} {text : String}

theorem isLineBreak_of_isBlank {c : Char} (solid : Text.isBlank c = false) :
    Text.isLineBreak c = false := by
  simp only [Text.isBlank, Text.isLineBreak, Bool.or_eq_false_iff, Bool.and_eq_false_iff,
    decide_eq_false_iff_not, beq_eq_false_iff_ne] at solid ⊢
  omega

theorem not_mem_of_solid {body : List Char} (solid : ∀ c ∈ body, Text.isLineBreak c = false) :
    '\n' ∉ body :=
  fun member => absurd (solid '\n' member) (by decide)

/-- A text without line breaks is a line where a line feed is next. -/
theorem lines_append {body : List Char} (solid : ∀ c ∈ body, Text.isLineBreak c = false)
    (rest : List Char) : Text.lines (body ++ '\n' :: rest) = body :: Text.lines rest := by
  induction body with
  | nil => rfl
  | cons c body ih =>
    obtain ⟨here, later⟩ := List.forall_mem_cons.mp solid
    rw [List.cons_append, Text.lines, ih later, here]
    · rfl
    · rintro _ rfl
      contradiction

theorem lines_flatMap (solid : ∀ body ∈ bodies, ∀ c ∈ body, Text.isLineBreak c = false) :
    Text.lines (bodies.flatMap (· ++ ['\n'])) = bodies := by
  induction bodies with
  | nil => rfl
  | cons body bodies ih =>
    obtain ⟨here, later⟩ := List.forall_mem_cons.mp solid
    rw [List.flatMap_cons, List.append_assoc, List.singleton_append, lines_append here, ih later]

/-- Texts without line breaks, each with a line break behind it, are what stands between these. -/
theorem splitOn_lines (solid : ∀ body ∈ bodies, ∀ c ∈ body, Text.isLineBreak c = false) :
    (bodies.flatMap (· ++ ['\n'])).splitOn '\n' = bodies ++ [[]] := by
  have text : bodies.flatMap (· ++ ['\n']) = ['\n'].intercalate (bodies ++ [[]]) := by
    clear solid
    induction bodies with
    | nil => rfl
    | cons body bodies ih =>
      rw [List.flatMap_cons, ih]
      cases bodies <;> simp [List.intercalate]
  rw [text, List.splitOn_intercalate '\n' ?_ (by simp)]
  intro body member
  rcases List.mem_append.mp member with among | last
  · exact not_mem_of_solid (solid body among)
  · rw [List.mem_singleton.mp last]
    exact List.not_mem_nil

/-- Lines as they are in an outline: none of them is empty, and none has a line break of any kind
before the line feed at its end. -/
structure Lined (text : String) (bodies : List (List Char)) : Prop where
  some : bodies ≠ []
  full : ∀ body ∈ bodies, body ≠ []
  solid : ∀ body ∈ bodies, ∀ c ∈ body, Text.isLineBreak c = false
  text : text.toList = bodies.flatMap (· ++ ['\n'])

theorem Lined.linesOf (lined : Lined text bodies) :
    Outcome.linesOf text = bodies.map String.ofList := by
  rw [Outcome.linesOf, lined.text, lines_flatMap lined.solid]

theorem withoutLineEnd_append (front : List Char) {c : Char} (solid : c ≠ '\n')
    (characters : text.toList = front ++ [c, '\n']) :
    Outcome.withoutLineEnd text ++ "\n" = text := by
  rw [← String.toList_inj, Outcome.withoutLineEnd, characters]
  simp [solid]

/-- Only the last line break is taken away. -/
theorem Lined.withoutLineEnd (lined : Lined text bodies) :
    Outcome.withoutLineEnd text ++ "\n" = text := by
  obtain ⟨some, full, solid, characters⟩ := lined
  obtain ⟨front, last, rfl⟩ := (List.eq_nil_or_concat' bodies).resolve_left some
  have member : last ∈ front ++ [last] := List.mem_append_right _ List.mem_cons_self
  obtain ⟨start, c, rfl⟩ := (List.eq_nil_or_concat' last).resolve_left (full last member)
  refine withoutLineEnd_append (front.flatMap (· ++ ['\n']) ++ start) (c := c) ?_ ?_
  · rintro rfl
    exact not_mem_of_solid (solid _ member) (List.mem_append_right _ List.mem_cons_self)
  · simp [characters]

/-- The line of a node is not empty, since its label is not. -/
theorem exists_body (shows : Node.Shows place text) :
    ∃ body : List Char, body ≠ [] ∧ (∀ c ∈ body, Text.isLineBreak c = false) ∧
      text.toList = body ++ ['\n'] := by
  obtain ⟨written, labeled, solid, rfl⟩ := shows
  refine ⟨List.replicate (2 * place.1) ' ' ++ written.toList, ?_, ?_, by simp⟩
  · have some : written.toList ≠ [] := by
      intro none
      have head := Node.head_label labeled
      rw [none] at head
      contradiction
    exact List.append_ne_nil_of_right_ne_nil _ some
  · rw [List.forall_mem_append]
    refine ⟨fun c member => ?_, fun c member => isLineBreak_of_isBlank (solid c member)⟩
    rw [List.eq_of_mem_replicate member]
    rfl

theorem lined_of_shows {places : List (Nat × Node)} (some : places ≠ [])
    (shows : List.Forall₂ Node.Shows places lines) :
    ∃ bodies, Lined (String.join lines) bodies := by
  induction shows with
  | nil => contradiction
  | @cons place line places lines first rest ih =>
    obtain ⟨body, full, solid, characters⟩ := exists_body first
    have here : Lined line [body] :=
      ⟨List.cons_ne_nil _ _, List.forall_mem_singleton.mpr full,
        List.forall_mem_singleton.mpr solid, by simpa using characters⟩
    cases rest with
    | nil => exact ⟨[body], by simpa using here⟩
    | cons =>
      obtain ⟨bodies, further⟩ := ih (List.cons_ne_nil _ _)
      refine ⟨body :: bodies, List.cons_ne_nil _ _, List.forall_mem_cons.mpr ⟨full, further.full⟩,
        List.forall_mem_cons.mpr ⟨solid, further.solid⟩, ?_⟩
      rw [String.join_cons, String.toList_append, characters, further.text, List.flatMap_cons]

/-- An outline that is written has at least one line, and no empty one. -/
theorem exists_lined {node : Node} (written : node.term.Written kind)
    (described : node.outline = .ok text) : ∃ bodies, Lined text bodies := by
  obtain ⟨lines, outlined, rfl⟩ := outline_eq_ok.mp described
  refine lined_of_shows ?_ (Node.forall₂_shows written outlined)
  rw [Tree.preorder_eq]
  exact List.cons_ne_nil _ _

/-! ### Symbols -/

theorem flatMap_lineBreak (some : bodies ≠ []) :
    bodies.flatMap (· ++ ['\n']) = ['\n'].intercalate bodies ++ ['\n'] := by
  induction bodies with
  | nil => contradiction
  | cons body bodies ih =>
    cases bodies with
    | nil => simp [List.intercalate]
    | cons next bodies =>
      rw [List.flatMap_cons, ih (List.cons_ne_nil _ _)]
      simp [List.intercalate]

theorem toList_join (lines : List String) :
    (String.join lines).toList = lines.flatMap String.toList := by
  induction lines with
  | nil => rfl
  | cons line lines ih => rw [String.join_cons, String.toList_append, ih, List.flatMap_cons]

theorem intercalate_lineBreak (some : lines ≠ []) :
    "\n".intercalate lines ++ "\n" = linesText lines := by
  have parts := flatMap_lineBreak (mt List.map_eq_nil_iff.mp some : lines.map String.toList ≠ [])
  rw [← String.toList_inj, String.toList_append, String.toList_intercalate, linesText, toList_join,
    List.flatMap_map]
  rw [List.flatMap_map] at parts
  simpa using parts.symm

theorem exact_symbolsJson (names : List String) (functions : List (String × Nat)) :
    (Outcome.symbolsJson names functions).Exact := by
  refine .object (by simp) ?_
  simp only [List.forall_mem_cons]
  refine ⟨.text _, .array ?_, .array ?_, List.forall_mem_nil _⟩
  · intro json member
    obtain ⟨name, _, rfl⟩ := List.mem_map.mp member
    exact .text name
  · intro json member
    obtain ⟨⟨name, arity⟩, _, rfl⟩ := List.mem_map.mp member
    refine .object (by simp) ?_
    simp only [List.forall_mem_cons]
    exact ⟨.text name, .int arity, List.forall_mem_nil _⟩

theorem exact_treeJson (lines : List String) :
    (Json.object [("tree", .array (lines.map .text))]).Exact := by
  refine .object (by simp) (List.forall_mem_singleton.mpr (.array fun json member => ?_))
  obtain ⟨line, _, rfl⟩ := List.mem_map.mp member
  exact .text line

theorem exact_callbackJson (fault : Fault) : (Outcome.callbackJson fault).Exact := by
  refine .object (by simp) ?_
  simp only [List.forall_mem_cons]
  refine ⟨.text _, .text _, .object (by simp) ?_, List.forall_mem_nil _⟩
  exact List.forall_mem_singleton.mpr (.text _)

end

/-! ### What commands come to -/

/-- What a command can come to, for a source of the given length. -/
inductive Produced (length : Nat) : Outcome → Prop
  | symbols (short : ∀ function ∈ functions, function.2 ≤ length) :
      Produced length (.symbols names functions)
  | outline (lined : Lined text bodies) : Produced length (.outline text)
  | value (unmapped : v.Unmapped) : Produced length (.value v)
  | expressionError (tellable : Tellable length error) : Produced length (.expressionError error)
  | callbackFailure (fault : Fault) : Produced length (.callbackFailure fault)
  | misassignment (cause : Misassignment) : Produced length (.misassignment cause)

/-- If the fault is an error of the expression, then one that can be told. -/
def Telling (length : Nat) (fault : Fault) : Prop :=
  ∀ error, fault = .expression error → Tellable length error

section
variable {config : Config} {source : Source} {particulars : Particulars} {length : Nat}
  {computation : Logged Outcome}

theorem Failing.telling (failing : Failing config particulars length fault) :
    Telling length fault := by
  rintro error rfl
  cases failing with
  | expression tellable => exact tellable
  | computation computational => contradiction

theorem ends_reportingErrors (ends : Ends (Produced length) (Telling length) computation) :
    Ends (Produced length) (fun _ => True) (reportingErrors computation) := by
  intro events
  have before := ends events
  rw [run_reportingErrors]
  generalize (computation.run.run events).1 = outcome at before ⊢
  cases outcome with
  | ok outcome => exact before
  | error fault =>
    cases fault with
    | expression error => exact .expressionError (before error rfl)
    | _ => trivial

theorem ends_reportingFailures (ends : Ends (Produced length) (Telling length) computation) :
    Ends (Produced length) (fun _ => True) (reportingFailures computation) := by
  intro events
  have before := ends events
  rw [run_reportingFailures]
  generalize (computation.run.run events).1 = outcome at before ⊢
  cases outcome with
  | ok outcome => exact before
  | error fault =>
    cases computational : fault.isComputational with
    | true =>
      rw [reportFailures_of_isComputational computational]
      exact .callbackFailure fault
    | false =>
      cases fault with
      | expression error => exact .expressionError (before error rfl)
      | mismatch | index | memory | raised => trivial
      | _ => contradiction

theorem ends_compile_telling (config : Config) (source : Source) :
    Ends (fun compiled => ∃ text, source.text = .ok text ∧
      Compiled.compile config.numberKind text source.name = .ok compiled) (Telling source.length)
      (compile config source) := by
  refine ends_compile config source ?_ ?_
  · rintro fault failed error rfl
    exact absurd (Source.isComputational_of_text failed) Bool.false_ne_true
  · rintro text error read tellable _ ⟨⟩
    exact Source.length_eq read ▸ tellable

/-- What a command comes to, for any source. -/
theorem ends_perform (config : Config) (source : Source) (particulars : Particulars)
    (command : Command) :
    Ends (Produced source.length) (fun _ => True) (perform config source particulars command) := by
  cases command with
  | check =>
    refine ends_reportingErrors (ends_bind (ends_compile_telling config source) ?_)
    rintro compiled ⟨text, read, success⟩
    refine ends_pure (.symbols fun function member => ?_)
    obtain ⟨slot, among, rfl⟩ := List.mem_map.mp member
    rw [Source.length_eq read]
    exact arity_le_length success slot among
  | tree =>
    refine ends_reportingErrors (ends_bind (ends_compile_telling config source) ?_)
    rintro compiled ⟨text, read, success⟩
    have written := written_of_compile success
    refine ends_bind (Q := fun outline => ∃ bodies, Lined outline bodies) (ends_ofExcept ?_ ?_) ?_
    · exact fun outline described => exists_lined written described
    · intro fault described error same
      obtain ⟨rfl, -⟩ := (outline_eq_error_iff written).mp described
      contradiction
    · rintro outline ⟨bodies, lined⟩
      exact ends_pure (.outline lined)
  | eval =>
    refine ends_reportingFailures (ends_bind
      ((ends_evaluateSource config source particulars).imp (fun _ => id)
        fun _ => Failing.telling) ?_)
    intro outcome unmapped
    cases outcome with
    | ok value => exact ends_pure (.value (unmapped value rfl))
    | error cause => exact ends_pure (.misassignment cause)

end

/-! ### Answers in both forms -/

/-- The answers in the two forms tell the same. A JSON document is read from the output; that of an
error has its kind and its message, that of an outline the lines of the text, and that of symbols
the names and arities that the lines of the text show, in the same order. -/
inductive Agree : Outcome → Answer → Answer → Prop
  | symbols (read : Json.read document = .ok (Outcome.symbolsJson names functions)) :
      Agree (.symbols names functions) ⟨0, linesText (Outcome.symbolLines names functions), ""⟩
        ⟨0, document, ""⟩
  | outline {lines : List String}
      (split : text.toList.splitOn '\n' = lines.map String.toList ++ [[]])
      (read : Json.read document = .ok (.object [("tree", .array (lines.map .text))])) :
      Agree (.outline text) ⟨0, text, ""⟩ ⟨0, document, ""⟩
  | value (shown : v.text? = some text) (content : valueJson v = .ok json)
      (rendered : (Json.object [("result", json)]).render? (.blanks 2) = some document) :
      Agree (.value v) ⟨0, text ++ "\n", ""⟩ ⟨0, document ++ "\n", ""⟩
  | expressionError (read : Json.read document = .ok error.toJson)
      (kind : error.toJson.field? "kind" = some (.text error.kind))
      (message : error.toJson.field? "message" = some (.text error.message)) :
      Agree (.expressionError error) ⟨1, "", "error: " ++ error.text ++ "\n"⟩ ⟨1, document, ""⟩
  | callbackFailure (read : Json.read document = .ok (Outcome.callbackJson fault))
      (kind : (Outcome.callbackJson fault).field? "kind" = some (.text "callback_error"))
      (message : (Outcome.callbackJson fault).field? "message" =
        some (.text (Outcome.callbackMessage fault))) :
      Agree (.callbackFailure fault) ⟨1, "", "error: " ++ Outcome.callbackMessage fault ++ "\n"⟩
        ⟨1, document, ""⟩
  | misassignment : Agree (.misassignment cause) ⟨1, "", "error: " ++ cause.message ++ "\n"⟩
      ⟨1, "", "error: " ++ cause.message ++ "\n"⟩

section
variable {text : String} {content : Json}

theorem answer_document {outcome : Outcome} (told : outcome.text = .ok text)
    (present : ∀ path, outcome ≠ .missingFile path) (shown : outcome.json? = .ok (some content))
    (rendered : content.render? (.blanks 2) = some document) :
    outcome.answer .json = .ok ⟨outcome.status, document ++ "\n", ""⟩ := by
  rw [answer_json told present, shown]
  change Outcome.jsonText _ content >>= _ = _
  rw [Outcome.jsonText, rendered]
  rfl

/-- The document of a value that is written exactly is read from the output. -/
theorem exists_answer_json (outcome : Outcome) (told : outcome.text = .ok text)
    (present : ∀ path, outcome ≠ .missingFile path) (shown : outcome.json? = .ok (some content))
    (exact : content.Exact) (writable : content.Writable) :
    ∃ document, outcome.answer .json = .ok ⟨outcome.status, document, ""⟩ ∧
      Json.read document = .ok content := by
  obtain ⟨document, rendered⟩ := writable.render (.blanks 2)
  refine ⟨_, answer_document told present shown rendered, ?_⟩
  exact Json.read_render?_append (Json.Layout.blank_blanks 2) exact rendered ['\n']
    (List.forall_mem_singleton.mpr rfl)

theorem text_value (written : v.text? = some text) : (Outcome.value v).text = .ok text := by
  rw [Outcome.text, written]
  rfl

/-- A value with a text is printed. -/
theorem answer_value (written : v.text? = some text) :
    (Outcome.value v).answer .text = .ok ⟨0, text ++ "\n", ""⟩ :=
  answer_text (text_value written) nofun

/-- A command does not look for files. -/
theorem Produced.present {outcome : Outcome} (produced : Produced length outcome) (path : String) :
    outcome ≠ .missingFile path := by
  rintro rfl
  contradiction

/-- An outcome of a command is told in both forms or in neither, unless the source is too long. -/
theorem Produced.agree {outcome : Outcome} (produced : Produced length outcome)
    (short : length + 1 < 10 ^ digitLimit) :
    (∃ fault, outcome.answer .text = .error fault ∧ outcome.answer .json = .error fault) ∨
      ∃ inText inJson, outcome.answer .text = .ok inText ∧ outcome.answer .json = .ok inJson ∧
        Agree outcome inText inJson := by
  have present := produced.present
  cases produced with
  | @symbols functions names arities =>
    have writable := writable_symbolsJson names
      fun function member => (Nat.lt_of_le_of_lt (arities function member) (by omega))
    obtain ⟨document, answered, read⟩ :=
      exists_answer_json (.symbols names functions) rfl present rfl
        (exact_symbolsJson names functions) writable
    refine .inr ⟨_, _, answer_text rfl present, answered, ?_⟩
    have some : Outcome.symbolLines names functions ≠ [] := by simp [Outcome.symbolLines]
    have lines := intercalate_lineBreak some
    have agree := Agree.symbols read
    rw [← lines] at agree
    exact agree
  | @outline text bodies lined =>
    obtain ⟨document, answered, read⟩ :=
      exists_answer_json (.outline text) rfl present rfl (exact_treeJson _)
        (writable_treeJson text)
    have printed : (Outcome.outline text).answer .text = .ok ⟨0, text, ""⟩ := by
      rw [answer_text rfl present]
      change Except.ok (Answer.mk 0 (Outcome.withoutLineEnd text ++ "\n") "") = _
      rw [lined.withoutLineEnd]
    have split : text.toList.splitOn '\n' =
        (bodies.map String.ofList).map String.toList ++ [[]] := by
      rw [lined.text, splitOn_lines lined.solid]
      simp [Function.comp_def]
    rw [lined.linesOf] at read
    exact .inr ⟨_, _, printed, answered, .outline split read⟩
  | @value v unmapped =>
    cases told : v.text? with
    | none =>
      exact .inl ⟨_, answer_of_unprintable (.result told), answer_of_unprintable (.result told)⟩
    | some text =>
      obtain ⟨json, content, writable⟩ := shows_of_text? unmapped told
      have result : (Json.object [("result", json)]).Writable :=
        Json.writable_object (List.forall_mem_singleton.mpr writable)
      obtain ⟨document, rendered⟩ := result.render (.blanks 2)
      have shown : (Outcome.value v).json? = .ok (some (.object [("result", json)])) := by
        rw [Outcome.json?, content]
        rfl
      exact .inr ⟨_, _, answer_value told,
        answer_document (text_value told) present shown rendered, .value told content rendered⟩
  | @expressionError error tellable =>
    obtain ⟨document, answered, read⟩ :=
      exists_answer_json (.expressionError error) rfl present rfl
        tellable.plain.exact (tellable.writable short)
    exact .inr ⟨_, _, answer_text rfl present, answered, .expressionError read rfl rfl⟩
  | callbackFailure fault =>
    obtain ⟨document, answered, read⟩ :=
      exists_answer_json (.callbackFailure fault) rfl present rfl
        (exact_callbackJson fault) (writable_callbackJson fault)
    exact .inr ⟨_, _, answer_text rfl present, answered, .callbackFailure read rfl rfl⟩
  | misassignment cause =>
    exact .inr ⟨_, _, answer_text rfl present, answer_json rfl present, .misassignment⟩

end

/-- What a command answers under the given settings. -/
def answered (config : Config) (source : Source) (particulars : Particulars) (command : Command) :
    Except Fault Answer :=
  (perform config source particulars command).outcome.1 >>= Outcome.answer config.format

section
variable {outcome : Outcome} {config : Config} {source : Source} {particulars : Particulars}
  {command : Command}

theorem Agree.status_eq (agree : Agree outcome told document) : told.status = document.status := by
  cases agree <;> rfl

theorem answered_of_ok (performed : (perform config source particulars command).outcome.1 =
    .ok outcome) :
    answered config source particulars command = outcome.answer config.format := by
  rw [answered, performed]
  rfl

/-- Of what a command does only the answer depends on the form of output. -/
theorem perform_congr (config : Config) (source : Source) (particulars : Particulars)
    (command : Command) (format : Format) :
    perform (config.inFormat format) source particulars command =
      perform config source particulars command := by
  cases command <;> rfl

end

end CommandLine

end Formula
