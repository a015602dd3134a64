import Formula.Config.Loading
import Formula.Proofs.Json.Reading
import Formula.Proofs.Value.Printing
import Formula.Yaml.Document

/-! What loading settings can come to, whatever documents in YAML are read by. Settings that are
returned are usable. A file that cannot be opened, or that is malformed, leaves the standard
settings and a warning. Loading fails only for a path with a null character, for bytes that are no
text, and for a few texts that are not refused as malformed ones are: an integer in JSON with too
many digits, and in YAML what the reader fails on other than by refusing it, or a setting with too
many digits. -/
namespace Formula

/-! ### Logged computations -/

namespace Logged

/-- What a computation returns has a property, and the fault that it fails with has another one,
whatever was logged before. -/
def Ends (Q : α → Prop) (P : Fault → Prop) (computation : Logged α) : Prop :=
  ∀ events, match (computation.run.run events).1 with
    | .ok a => Q a
    | .error cause => P cause

section
variable {Q : α → Prop} {P : Fault → Prop} {computation : Logged α}

theorem ends_pure {a : α} (holds : Q a) : Ends Q P (pure a) :=
  fun _ => holds

theorem ends_throw {cause : Fault} (fails : P cause) : Ends Q P (throw cause : Logged α) :=
  fun _ => fails

theorem ends_log (event : Event) : Ends (fun _ => True) P (log event) :=
  fun _ => trivial

theorem ends_ofExcept {outcome : Except Fault α} (returns : ∀ a, outcome = .ok a → Q a)
    (fails : ∀ cause, outcome = .error cause → P cause) : Ends Q P (ofExcept outcome) := by
  intro events
  cases outcome with
  | ok a => exact returns a rfl
  | error cause => exact fails cause rfl

theorem ends_bind {next : α → Logged β} {R : β → Prop} (first : Ends Q P computation)
    (onward : ∀ a, Q a → Ends R P (next a)) : Ends R P (computation >>= next) := by
  intro events
  have before := first events
  rw [ExceptT.run_bind, StateT.run_bind]
  cases run : computation.run.run events with
  | mk outcome after =>
    rw [run] at before
    cases outcome with
    | ok a => exact onward a before after
    | error cause => exact before

theorem Ends.imp {R : α → Prop} {S : Fault → Prop} (ends : Ends Q P computation)
    (returns : ∀ a, Q a → R a) (fails : ∀ cause, P cause → S cause) : Ends R S computation := by
  intro events
  have last := ends events
  cases outcome : (computation.run.run events).1 with
  | ok a =>
    rw [outcome] at last
    exact returns a last
  | error cause =>
    rw [outcome] at last
    exact fails cause last

theorem Ends.outcome (ends : Ends Q P computation) :
    (∀ a, computation.outcome.1 = .ok a → Q a) ∧
      ∀ cause, computation.outcome.1 = .error cause → P cause := by
  have last := ends []
  refine ⟨fun a returned => ?_, fun cause failed => ?_⟩
  · rwa [show (computation.run.run []).1 = .ok a from returned] at last
  · rwa [show (computation.run.run []).1 = .error cause from failed] at last

end

end Logged

namespace Config
open Logged

/-! ### Settings in a document -/

/-- The number kind is one that literals can be converted to, and the log level is known. -/
def Usable (config : Config) : Prop :=
  numberKindOf (.text config.numberKind.name) = .ok config.numberKind ∧
    config.logLevel ∈ logLevels

theorem numberKindOf_name (kind : NumberKind) : numberKindOf (.text kind.name) = .ok kind := by
  rw [numberKindOf, NumberKind.ofName?_name]

theorem usable_iff {config : Config} : config.Usable ↔ config.logLevel ∈ logLevels :=
  and_iff_right (numberKindOf_name _)

theorem usable_standard : standard.Usable :=
  usable_iff.mpr (by decide)

/-- The names of the settings that are taken from the text of a value. -/
def textSettings : List String :=
  ["number_type", "log_level", "output_format"]

section
variable {config : Config} {setting : Option Value} {P : Fault → Prop}

theorem ends_withinDigits {text : Option α} (fails : text = none → P (.value .tooManyDigits)) :
    Ends (fun _ => True) P (Logged.ofExcept (withinDigits text)) := by
  cases text with
  | some text => exact fun _ => trivial
  | none => exact fun _ => fails rfl

theorem ends_text {value : Value} (fails : value.quoted? = none → P (.value .tooManyDigits)) :
    Ends (fun _ => True) P (Logged.ofExcept (withinDigits value.text?)) :=
  ends_withinDigits fun textless => fails (Value.quoted?_of_text? textless)

variable (usable : config.Usable)
  (fails : ∀ value, setting = some value → value.quoted? = none → P (.value .tooManyDigits))
include usable fails

theorem ends_withNumberKind : Ends Usable P (config.withNumberKind setting) := by
  unfold withNumberKind
  split
  · exact ends_pure usable
  · next value =>
    refine ends_bind (ends_text (fails value rfl)) fun name _ => ?_
    split
    · exact ends_pure (usable_iff.mpr usable.2)
    · refine ends_bind (ends_withinDigits (fails value rfl)) fun _ _ => ?_
      exact ends_bind (ends_log _) fun _ _ => ends_pure usable

theorem ends_withLogLevel : Ends Usable P (config.withLogLevel setting) := by
  unfold withLogLevel
  split
  · exact ends_pure usable
  · next value =>
    refine ends_bind (ends_text (fails value rfl)) fun name _ => ?_
    dsimp only
    split
    · next known => exact ends_pure (usable_iff.mpr (List.contains_iff_mem.mp known))
    · refine ends_bind (ends_withinDigits (fails value rfl)) fun _ _ => ?_
      exact ends_bind (ends_log _) fun _ _ => ends_pure usable

theorem ends_withOutputFormat : Ends Usable P (config.withOutputFormat setting) := by
  unfold withOutputFormat
  split
  · exact ends_pure usable
  · next value =>
    refine ends_bind (ends_text (fails value rfl)) fun format _ => ?_
    exact ends_pure (usable_iff.mpr usable.2)

end

/-- A setting that is taken from the text of a value has more digits than the limit. -/
def HasLongSetting (entries : List (Value × Value)) : Prop :=
  ∃ name ∈ textSettings, ∃ value, setting? entries name = some value ∧ value.quoted? = none

theorem ends_ofEntries {P : Fault → Prop} {entries : List (Value × Value)}
    (fails : HasLongSetting entries → P (.value .tooManyDigits)) :
    Ends Usable P (ofEntries entries) := by
  have setting {name : String} (member : name ∈ textSettings) (value : Value)
      (found : setting? entries name = some value) (long : value.quoted? = none) :
      P (.value .tooManyDigits) :=
    fails ⟨name, member, value, found, long⟩
  unfold ofEntries
  refine ends_bind (ends_withNumberKind usable_standard (setting (by decide))) fun config kind => ?_
  dsimp only
  refine ends_bind (ends_withLogLevel ?_ (setting (by decide))) fun config level => ?_
  · split
    · exact usable_iff.mpr kind.2
    · exact kind
  · exact ends_withOutputFormat level (setting (by decide))

/-! ### Settings in JSON -/

theorem isSome_quoted?_of_mem {entries : List (Value × Value)}
    (quoted : (Value.quotedEntries? entries).isSome = true) (member : (key, value) ∈ entries) :
    value.quoted?.isSome = true := by
  induction entries with
  | nil => contradiction
  | cons entry entries ih =>
    obtain ⟨name, content⟩ := entry
    obtain ⟨all, isAll⟩ := Option.isSome_iff_exists.mp quoted
    simp only [Value.quotedEntries?, Option.bind_eq_bind, Option.bind_eq_some_iff] at isAll
    obtain ⟨_, _, shown, isShown, others, areOthers, _⟩ := isAll
    cases member with
    | head => exact isShown ▸ rfl
    | tail _ later => exact ih (areOthers ▸ rfl) later

theorem not_hasLongSetting {json : Json} (quotable : json.Quotable)
    (mapping : json.toValue = .mapping entries) : ¬HasLongSetting entries := by
  intro ⟨name, _, value, found, long⟩
  have quoted : (Value.quotedEntries? entries).isSome = true := by
    rw [Json.Quotable, mapping, Value.quoted?] at quotable
    cases shown : Value.quotedEntries? entries with
    | some parts => rfl
    | none =>
      rw [shown] at quotable
      contradiction
  obtain ⟨⟨key, _⟩, first, rfl⟩ := Option.map_eq_some_iff.mp found
  have shown := isSome_quoted?_of_mem quoted (List.mem_of_find?_eq_some first)
  rw [long] at shown
  contradiction

/-! ### Settings files -/

/-- The path of the file that settings are loaded from, if there is one. -/
def source? (files : Files.Snapshot) (path : Option String) (start : String) : Option String :=
  path <|> (find? files start).map (Files.pathText (Files.rootOf start))

/-- The file at a path can be opened and holds a text. -/
def HoldsText (files : Files.Snapshot) (path : String) (text : List Char) : Prop :=
  ∃ bytes, files.read path = .ok bytes ∧ Files.decodeText bytes = .ok text

/-- Why loading settings from a path fails. -/
inductive Failing (yamlReader : YamlReader) (files : Files.Snapshot) (path : String) :
    Fault → Prop where
  | nullCharacter (inside : '\x00' ∈ path.toList) :
      Failing yamlReader files path (.value (.argument "embedded null byte"))
  | undecodable (opened : files.read path = .ok bytes) (broken : Text.decode bytes = .error cause) :
      Failing yamlReader files path (.undecodable cause)
  | longInteger (holds : HoldsText files path text) (language : Language.ofPath path = .json)
      (long : Json.HasLongRun digits text) :
      Failing yamlReader files path (.value (.argument (tooManyDigitsRead digits)))
  | reader (holds : HoldsText files path text) (language : Language.ofPath path = .yaml)
      (failed : yamlReader text = .error (.fault cause)) : Failing yamlReader files path cause
  | longSetting (holds : HoldsText files path text) (language : Language.ofPath path = .yaml)
      (document : yamlReader text = .ok (.mapping entries)) (long : HasLongSetting entries) :
      Failing yamlReader files path (.value .tooManyDigits)

section
variable {yamlReader : YamlReader} {files : Files.Snapshot} {path : String} {text : List Char}

theorem failing_of_read (holds : HoldsText files path text)
    (failed : (Language.ofPath path).read yamlReader text = .error cause) :
    Failing yamlReader files path cause := by
  cases language : Language.ofPath path with
  | json =>
    rw [language, Language.read] at failed
    obtain ⟨json, document, _⟩ | document | ⟨digits, document, long⟩ :=
      Json.read_cases (String.ofList text)
    · rw [document] at failed
      contradiction
    · rw [document] at failed
      contradiction
    · rw [document] at failed
      cases failed
      exact .longInteger holds language (by rwa [String.toList_ofList] at long)
  | yaml =>
    rw [language, Language.read] at failed
    cases document : yamlReader text with
    | ok value =>
      rw [document] at failed
      contradiction
    | error refusal =>
      rw [document] at failed
      cases refusal with
      | malformed => contradiction
      | fault fault =>
        cases failed
        exact .reader holds language document

/-- Only a document in YAML can have a setting with more digits than the limit: what is read in JSON
has a text. -/
theorem failing_of_longSetting (holds : HoldsText files path text)
    (read : (Language.ofPath path).read yamlReader text = .ok (some (.mapping entries)))
    (long : HasLongSetting entries) : Failing yamlReader files path (.value .tooManyDigits) := by
  cases language : Language.ofPath path with
  | json =>
    rw [language, Language.read] at read
    obtain ⟨json, document, quotable⟩ | document | ⟨digits, document, _⟩ :=
      Json.read_cases (String.ofList text)
    · rw [document] at read
      have mapping : json.toValue = .mapping entries := Option.some.inj (Except.ok.inj read)
      exact absurd long (not_hasLongSetting quotable mapping)
    · rw [document] at read
      cases read
    · rw [document] at read
      cases read
  | yaml =>
    rw [language, Language.read] at read
    cases document : yamlReader text with
    | ok value =>
      rw [document] at read
      cases read
      exact .longSetting holds language document long
    | error refusal =>
      rw [document] at read
      cases refusal <;> cases read

theorem ends_ofText (holds : HoldsText files path text) :
    Ends Usable (Failing yamlReader files path) (ofText yamlReader path text) := by
  refine ends_bind (Q := fun value => (Language.ofPath path).read yamlReader text = .ok value)
    (ends_ofExcept (fun _ read => read) fun _ failed => failing_of_read holds failed) ?_
  intro value read
  split
  · exact ends_bind (ends_log _) fun _ _ => ends_pure usable_standard
  · refine ends_bind (ends_log _) fun _ _ => ends_ofEntries ?_
    exact failing_of_longSetting holds read
  · exact ends_pure usable_standard

theorem ends_loadFrom (yamlReader : YamlReader) (files : Files.Snapshot) (path : String) :
    Ends Usable (Failing yamlReader files path) (loadFrom yamlReader files path) := by
  unfold loadFrom
  split
  · next inside => exact ends_throw (.nullCharacter (List.contains_iff_mem.mp inside))
  · split
    · exact ends_bind (ends_log _) fun _ _ => ends_pure usable_standard
    · next bytes opened =>
      refine ends_bind (Q := HoldsText files path) (ends_ofExcept ?_ ?_) fun _ => ends_ofText
      · exact fun text decoded => ⟨bytes, opened, decoded⟩
      · intro cause failed
        unfold Files.decodeText at failed
        split at failed
        · contradiction
        · next broken =>
          cases failed
          exact .undecodable opened broken

/-! ### Outcomes -/

variable (clean : '\x00' ∉ path.toList)
include clean

theorem loadFrom_of_unreadable {failure : Files.Failure}
    (unreadable : files.read path = .error failure) :
    (loadFrom yamlReader files path).outcome =
      (.ok standard, [.configUnreadable path (failure.message path)]) := by
  rw [loadFrom, if_neg (mt List.contains_iff_mem.mp clean), unreadable]
  rfl

/-- Bytes that are no text make loading fail, with nothing logged. -/
theorem loadFrom_of_undecodable (opened : files.read path = .ok bytes)
    (broken : Text.decode bytes = .error cause) :
    (loadFrom yamlReader files path).outcome = (.error (.undecodable cause), []) := by
  rw [loadFrom, if_neg (mt List.contains_iff_mem.mp clean), opened]
  simp only [Files.decodeText, broken]
  rfl

theorem loadFrom_of_malformed (holds : HoldsText files path text)
    (malformed : (Language.ofPath path).read yamlReader text = .ok none) :
    (loadFrom yamlReader files path).outcome = (.ok standard,
      [.configMalformed path ("no " ++ (Language.ofPath path).name ++ " document")]) := by
  obtain ⟨bytes, opened, decoded⟩ := holds
  rw [loadFrom, if_neg (mt List.contains_iff_mem.mp clean), opened]
  simp only [decoded]
  change (ofText yamlReader path text).outcome = _
  rw [ofText, malformed]
  rfl

end

theorem load_path (yamlReader : YamlReader) (files : Files.Snapshot) (path start : String) :
    load yamlReader files (some path) start = loadFrom yamlReader files path := by
  rfl

/-- Settings that are loaded are usable. Loading fails only for a cause in the path or in the file,
and a file that cannot be opened, or is malformed, leaves the standard settings and a warning. -/
theorem load_outcome (yamlReader : YamlReader) (files : Files.Snapshot) (path : Option String)
    (start : String) :
    (∀ config, (load yamlReader files path start).outcome.1 = .ok config → config.Usable) ∧
      (∀ cause, (load yamlReader files path start).outcome.1 = .error cause →
        ∃ source, source? files path start = some source ∧ Failing yamlReader files source cause) ∧
      ∀ source, source? files path start = some source → '\x00' ∉ source.toList →
        (∃ failure, files.read source = .error failure) ∨
          (∃ text, HoldsText files source text ∧
            (Language.ofPath source).read yamlReader text = .ok none) →
        ∃ event, (load yamlReader files path start).outcome = (.ok standard, [event]) ∧
          event.level = .warning := by
  unfold load
  rw [← source?]
  cases source? files path start with
  | none =>
    refine ⟨fun config returned => ?_, fun cause failed => ?_, fun source found => ?_⟩
    · exact Except.ok.inj returned ▸ usable_standard
    · cases failed
    · cases found
  | some source =>
    obtain ⟨returns, fails⟩ := (ends_loadFrom yamlReader files source).outcome
    refine ⟨returns, fun cause failed => ⟨source, rfl, fails cause failed⟩, ?_⟩
    rintro _ ⟨⟩ clean (⟨failure, unreadable⟩ | ⟨text, holds, malformed⟩)
    · exact ⟨_, loadFrom_of_unreadable clean unreadable, rfl⟩
    · exact ⟨_, loadFrom_of_malformed clean holds malformed, rfl⟩

/-- A byte that starts no character, before a setting, makes loading fail. -/
theorem load_of_undecodableFile :
    (load Yaml.read ⟨[], [(["x.yml"], .file [0xFF, 0x6E, 0x3A, 0x20, 0x31, 0x0A])]⟩
      (some "x.yml") ".").outcome = (.error (.undecodable ⟨.startByte, 0xFF, 0, 0⟩), []) := by
  rw [load_path]
  exact loadFrom_of_undecodable (by decide) rfl rfl

/-- An opening brace alone is malformed. -/
theorem load_outcome_of_openBrace :
    ∃ event, (load Yaml.read ⟨[], [(["x.yml"], .file [0x7B])]⟩ (some "x.yml") ".").outcome =
      (.ok standard, [event]) ∧ event.level = .warning := by
  obtain ⟨-, -, reported⟩ :=
    load_outcome Yaml.read ⟨[], [(["x.yml"], .file [0x7B])]⟩ (some "x.yml") "."
  exact reported "x.yml" rfl (by decide) (.inr ⟨['\x7b'], ⟨[0x7B], rfl, rfl⟩, rfl⟩)

end Config
end Formula
