import Formula.Files.Snapshot

/-! Following paths. A path whose steps are all names of entries leads to a regular file exactly if
there is a file at its end and none above it. A path of any form leads, step by step, to what it
leads to when it is made absolute and simple without looking at any file. -/
namespace Formula.Files

/-- The step names an entry of a directory. -/
def IsName (step : String) : Prop :=
  step ≠ "" ∧ step ≠ "." ∧ step ≠ ".." ∧ '/' ∉ step.toList

/-- All steps name entries. -/
def AreNames (steps : List String) : Prop :=
  ∀ step ∈ steps, IsName step

section
variable {text : List Char} {steps others taken : List String} {step root : String}

theorem AreNames.append (first : AreNames steps) (second : AreNames others) :
    AreNames (steps ++ others) :=
  fun step member => (List.mem_append.mp member).elim (first step) (second step)

theorem AreNames.cons (first : IsName step) (others : AreNames steps) : AreNames (step :: steps) :=
  List.forall_mem_cons.mpr ⟨first, others⟩

theorem areNames_reverse : AreNames steps.reverse ↔ AreNames steps := by
  simp only [AreNames, List.mem_reverse]

/-! ### Steps of paths -/

theorem not_mem_of_mem_splitOn {part : List Char} (member : part ∈ text.splitOn '/') :
    '/' ∉ part := by
  induction text generalizing part with
  | nil => simp_all
  | cons c text ih =>
    rw [List.splitOn_cons_eq_if_modifyHead] at member
    split at member
    · rcases List.mem_cons.mp member with rfl | later
      · exact List.not_mem_nil
      · exact ih later
    · next other =>
      obtain ⟨first, parts, split⟩ := List.exists_cons_of_ne_nil (List.splitOn_ne_nil '/' text)
      rw [split, List.modifyHead_cons] at member
      rcases List.mem_cons.mp member with rfl | later
      · have free := ih (split ▸ List.mem_cons_self)
        refine List.not_mem_cons_of_ne_of_not_mem (fun same => other ?_) free
        rw [← same]
        rfl
      · exact ih (split ▸ List.mem_cons_of_mem first later)

theorem slash_not_mem_of_mem_stepsOf {path : String} (member : step ∈ stepsOf path) :
    '/' ∉ step.toList := by
  obtain ⟨part, among, rfl⟩ := List.mem_map.mp member
  rw [String.toList_ofList]
  exact not_mem_of_mem_splitOn among

/-- The root of a path is one slash, or two. -/
def IsRoot (root : String) : Prop :=
  root = "/" ∨ root = "//"

theorem isRoot_rootOf (path : String) : IsRoot (rootOf path) := by
  unfold rootOf
  split
  · exact .inl rfl
  · exact .inr rfl
  · exact .inl rfl

theorem slash_not_mem_of_names (names : AreNames steps) :
    ∀ part ∈ steps.map String.toList, '/' ∉ part := by
  intro part member
  obtain ⟨step, among, rfl⟩ := List.mem_map.mp member
  exact (names step among).2.2.2

/-- The text of a path is split into its steps, behind an empty one for each slash of the root. -/
theorem stepsOf_pathText (isRoot : IsRoot root) (names : AreNames steps) (nonempty : steps ≠ []) :
    ∃ slashes, (∀ step ∈ slashes, step = "") ∧
      stepsOf (pathText root steps) = slashes ++ steps := by
  have free := slash_not_mem_of_names names
  have split (slashes : List (List Char)) (empty : ∀ part ∈ slashes, part = [])
      (text : (pathText root steps).toList =
        ['/'].intercalate (slashes ++ steps.map String.toList)) :
      stepsOf (pathText root steps) = slashes.map String.ofList ++ steps := by
    have parts : ∀ part ∈ slashes ++ steps.map String.toList, '/' ∉ part := by
      refine List.forall_mem_append.mpr ⟨fun part member => ?_, free⟩
      rw [empty part member]
      exact List.not_mem_nil
    rw [stepsOf, text, List.splitOn_intercalate '/' parts (by simp [nonempty]), List.map_append,
      List.map_map]
    simp [Function.comp_def]
  obtain ⟨step, steps, rfl⟩ := List.exists_cons_of_ne_nil nonempty
  rcases isRoot with rfl | rfl
  · refine ⟨[""], by simp, split [[]] (by simp) ?_⟩
    simp [pathText, String.toList_intercalate, List.intercalate]
  · refine ⟨["", ""], by simp, split [[], []] (by simp) ?_⟩
    simp [pathText, String.toList_intercalate, List.intercalate]

/-- What is taken from names by steps without a slash are names. -/
theorem areNames_simplify (names : AreNames taken) (free : ∀ step ∈ steps, '/' ∉ step.toList) :
    AreNames (simplify taken steps) := by
  induction steps generalizing taken with
  | nil => exact names
  | cons step steps ih =>
    obtain ⟨here, later⟩ := List.forall_mem_cons.mp free
    rw [simplify]
    split
    · exact ih names later
    · next stays =>
      split
      · exact ih (fun step member => names step (List.mem_of_mem_tail member)) later
      · next named =>
        obtain ⟨nonempty, notHere⟩ := not_or.mp stays
        exact ih (names.cons ⟨nonempty, notHere, named, here⟩) later

theorem areNames_absoluteSteps {directory : List String} (names : AreNames directory)
    (path : String) : AreNames (absoluteSteps directory path) := by
  refine areNames_reverse.mpr (areNames_simplify ?_ fun _ => slash_not_mem_of_mem_stepsOf)
  split
  · exact fun _ absent => absurd absent List.not_mem_nil
  · exact areNames_reverse.mpr names

end

/-! ### Following -/

namespace Snapshot

section
variable {s : Snapshot} {place steps others taken : List String} {step root : String}
  {entry last : Entry}

theorem follow_name (name : IsName step) :
    s.follow place .directory (step :: steps) =
      if stepLimit < step.utf8ByteSize then .error .nameTooLong
      else match s.lookup? (step :: place).reverse with
        | some next => s.follow (step :: place) next steps
        | none => .error .missing := by
  obtain ⟨nonempty, notHere, notAbove, _⟩ := name
  rw [follow, if_neg (not_or.mpr ⟨nonempty, notHere⟩)]
  exact if_neg notAbove

/-- Empty steps lead nowhere. -/
theorem follow_empty (empty : ∀ step ∈ others, step = "") :
    s.follow place .directory (others ++ steps) = s.follow place .directory steps := by
  induction others with
  | nil => rfl
  | cons step others ih =>
    obtain ⟨first, rest⟩ := List.forall_mem_cons.mp empty
    rw [List.cons_append, follow, if_pos (.inl first), ih rest]

/-- What leads on has led to a directory. -/
theorem follow_of_append (led : s.follow place entry (steps ++ step :: others) = .ok last) :
    s.follow place entry steps = .ok .directory := by
  induction steps generalizing place entry with
  | nil => cases entry <;> simp_all [follow]
  | cons first steps ih =>
    cases entry with
    | file => simp [follow] at led
    | directory =>
      rw [List.cons_append, follow] at led
      rw [follow]
      split at led
      · next stays => rw [if_pos stays]; exact ih led
      · next leaves =>
        rw [if_neg leaves]
        split at led
        · next above => rw [if_pos above]; exact ih led
        · next named =>
          rw [if_neg named]
          split at led
          · contradiction
          · next fits =>
            rw [if_neg fits]
            split at led
            · exact ih led
            · contradiction

/-- After names that have led to a directory, following goes on from their place. -/
theorem follow_append (names : AreNames steps)
    (led : s.follow place .directory steps = .ok .directory) (others : List String) :
    s.follow place .directory (steps ++ others) =
      s.follow (steps.reverse ++ place) .directory others := by
  induction steps generalizing place with
  | nil => rfl
  | cons step steps ih =>
    obtain ⟨name, names⟩ := List.forall_mem_cons.mp names
    rw [follow_name name] at led
    rw [List.cons_append, follow_name name]
    split at led
    · contradiction
    · next fits =>
      rw [if_neg fits]
      cases found : s.lookup? (step :: place).reverse with
      | none =>
        rw [found] at led
        contradiction
      | some next =>
        rw [found] at led
        cases next with
        | directory => simpa using ih names led
        | file =>
          -- Nothing leads on from a file, and to end there is not to end in a directory.
          cases steps <;> simp [follow] at led

/-- Steps that lead somewhere from the place of names lead to the same when they are taken back as
names. -/
theorem follow_simplify (names : AreNames taken) (free : ∀ step ∈ steps, '/' ∉ step.toList)
    (reached : s.follow [] .directory taken.reverse = .ok .directory)
    (led : s.follow taken .directory steps = .ok entry) :
    s.follow [] .directory (simplify taken steps).reverse = .ok entry := by
  induction steps generalizing taken with
  | nil =>
    cases led
    exact reached
  | cons step steps ih =>
    obtain ⟨here, later⟩ := List.forall_mem_cons.mp free
    rw [follow] at led
    rw [simplify]
    split at led
    · next stays => rw [if_pos stays]; exact ih names later reached led
    · next leaves =>
      rw [if_neg leaves]
      split at led
      · next above =>
        rw [if_pos above]
        cases taken with
        | nil => exact ih names later reached led
        | cons last taken =>
          rw [List.reverse_cons] at reached
          exact ih (List.forall_mem_cons.mp names).2 later (follow_of_append reached) led
      · next named =>
        rw [if_neg named]
        obtain ⟨nonempty, notHere⟩ := not_or.mp leaves
        have name : IsName step := ⟨nonempty, notHere, named, here⟩
        split at led
        · contradiction
        · next fits =>
          split at led
          · next next found =>
            have onward : s.follow [] .directory (step :: taken).reverse = .ok next := by
              rw [List.reverse_cons, follow_append (areNames_reverse.mpr names) reached,
                List.reverse_reverse, List.append_nil, follow_name name, if_neg fits, found]
              rfl
            cases next with
            | directory => exact ih (names.cons name) later onward led
            | file bytes =>
              cases steps with
              | nil =>
                cases led
                exact onward
              | cons => simp [follow] at led
          · contradiction

/-- The working directory is a directory, and its steps are names. -/
structure Rooted (s : Snapshot) : Prop where
  names : AreNames s.working
  isDirectory : s.follow [] .directory s.working = .ok .directory

/-- A path leads to what is at its absolute and simple steps. -/
theorem Rooted.find_absoluteSteps (rooted : s.Rooted) {path : String}
    (found : s.find path = .ok entry) :
    s.follow [] .directory (absoluteSteps s.working path) = .ok entry := by
  unfold find at found
  split at found
  · contradiction
  · split at found
    · contradiction
    · refine follow_simplify ?_ (fun _ => slash_not_mem_of_mem_stepsOf) ?_ found
      · split
        · exact fun _ absent => absurd absent List.not_mem_nil
        · exact areNames_reverse.mpr rooted.names
      · split
        · rfl
        · rw [List.reverse_reverse]
          exact rooted.isDirectory

/-! ### Regular files -/

/-- There is a regular file at the place. -/
def HasFile (s : Snapshot) (place : List String) : Prop :=
  ∃ bytes, s.lookup? place = some (.file bytes)

/-- A file is an entry: what is only implied by an entry or the working directory is a directory. -/
theorem hasFile_iff :
    s.HasFile place ↔ ∃ bytes, s.entries.find? (·.1 == place) = some (place, .file bytes) := by
  unfold HasFile lookup?
  refine exists_congr fun bytes => ?_
  split
  · next listed =>
    obtain rfl : _ = place := by simpa using List.find?_some listed
    simp [listed]
  · next absent =>
    rw [absent]
    split <;> simp

/-- Above a file there are directories or, where the entries do not fit together, files. -/
theorem HasFile.above (file : s.HasFile (place ++ others)) :
    s.lookup? place = some .directory ∨ s.HasFile place := by
  obtain ⟨bytes, listed⟩ := hasFile_iff.mp file
  have implied : s.entries.any (place.isPrefixOf ·.1) = true :=
    List.any_eq_true.mpr ⟨_, List.mem_of_find?_eq_some listed,
      List.isPrefixOf_iff_prefix.mpr (List.prefix_append _ _)⟩
  cases found : s.entries.find? (·.1 == place) with
  | none => simp [lookup?, found, implied]
  | some entry =>
    obtain rfl : entry.1 = place := by simpa using List.find?_some found
    obtain ⟨place, _ | bytes⟩ := entry
    · simp [lookup?, found]
    · exact .inr (hasFile_iff.mpr ⟨bytes, found⟩)

/-- The files and directories with one more directory. -/
def withDirectory (s : Snapshot) (place : List String) : Snapshot :=
  { s with entries := (place, .directory) :: s.entries }

/-- A directory where there is no file leaves the files as they are. -/
theorem hasFile_withDirectory (free : ¬s.HasFile place) (other : List String) :
    (s.withDirectory place).HasFile other ↔ s.HasFile other := by
  rw [hasFile_iff, hasFile_iff, withDirectory, List.find?_cons]
  split
  · next same =>
    obtain rfl := eq_of_beq same
    exact iff_of_false (by simp) (mt hasFile_iff.mpr free)
  · rfl

/-- The steps to a file that can be reached: each fits, and there is no file before the last. -/
structure Reaches (s : Snapshot) (place steps : List String) : Prop where
  fits : ∀ step ∈ steps, step.utf8ByteSize ≤ stepLimit
  file : s.HasFile (place ++ steps)
  clear : ∀ front back, steps = front ++ back → front ≠ [] → back ≠ [] → ¬s.HasFile (place ++ front)

theorem not_hasFile_of_directory (found : s.lookup? place = some .directory) :
    ¬s.HasFile place := by
  rintro ⟨bytes, file⟩
  cases found.symm.trans file

theorem reaches_singleton : s.Reaches place [step] ↔
    step.utf8ByteSize ≤ stepLimit ∧ s.HasFile (place ++ [step]) := by
  refine ⟨fun reaches => ⟨reaches.fits step List.mem_cons_self, reaches.file⟩,
    fun ⟨fits, file⟩ => ⟨by simpa using fits, file, fun front back same some more => ?_⟩⟩
  obtain ⟨rfl, -⟩ | ⟨front, rfl, empty⟩ := List.cons_eq_append_iff.mp same
  · contradiction
  · exact absurd (List.append_eq_nil_iff.mp empty.symm).2 more

/-- Past a step that is not the last one, a file is reached from a directory. -/
theorem reaches_cons (more : steps ≠ []) : s.Reaches place (step :: steps) ↔
    step.utf8ByteSize ≤ stepLimit ∧ s.lookup? (place ++ [step]) = some .directory ∧
      s.Reaches (place ++ [step]) steps := by
  constructor
  · intro reaches
    have file : s.HasFile (place ++ [step] ++ steps) := by simpa using reaches.file
    have clear := reaches.clear [step] steps rfl (List.cons_ne_nil _ _) more
    refine ⟨reaches.fits step List.mem_cons_self, file.above.resolve_right clear,
      fun other member => reaches.fits other (List.mem_cons_of_mem step member), file,
      fun front back same _ rest => ?_⟩
    simpa using reaches.clear (step :: front) back (by rw [same]; rfl) (List.cons_ne_nil _ _) rest
  · rintro ⟨fits, directory, reaches⟩
    refine ⟨List.forall_mem_cons.mpr ⟨fits, reaches.fits⟩, by simpa using reaches.file,
      fun front back same some rest => ?_⟩
    obtain ⟨rfl, -⟩ | ⟨front, rfl, onward⟩ := List.cons_eq_append_iff.mp same
    · contradiction
    · by_cases empty : front = []
      · subst empty
        exact not_hasFile_of_directory directory
      · simpa using reaches.clear front back onward empty rest

/-- Names lead to a file exactly if they fit, there is a file at their end, and none before it. -/
theorem follow_names_iff (names : AreNames steps) (nonempty : steps ≠ []) :
    (∃ bytes, s.follow place .directory steps = .ok (.file bytes)) ↔
      s.Reaches place.reverse steps := by
  induction steps generalizing place with
  | nil => contradiction
  | cons step steps ih =>
    obtain ⟨name, names⟩ := List.forall_mem_cons.mp names
    rw [follow_name name, List.reverse_cons]
    by_cases more : steps = []
    · subst more
      rw [reaches_singleton]
      split
      · next long => simp [Nat.not_le_of_lt long]
      · next fits =>
        simp only [Nat.le_of_not_lt fits, true_and, HasFile]
        cases s.lookup? (place.reverse ++ [step]) <;> simp [follow]
    · rw [reaches_cons more]
      split
      · next long => simp [Nat.not_le_of_lt long]
      · next fits =>
        cases found : s.lookup? (place.reverse ++ [step]) with
        | none => simp
        | some next =>
          cases next with
          | directory =>
            have onward := @ih (step :: place) names more
            rw [List.reverse_cons] at onward
            simpa [Nat.le_of_not_lt fits] using onward
          | file bytes =>
            obtain ⟨later, steps, rfl⟩ := List.exists_cons_of_ne_nil more
            simp [follow]

/-- There is a file at the end of a path of names exactly if the path is not too long and reaches
it. -/
theorem isFile_pathText (isRoot : IsRoot root) (names : AreNames steps) (nonempty : steps ≠ []) :
    s.isFile (pathText root steps) = true ↔
      (pathText root steps).utf8ByteSize ≤ pathLimit ∧ s.Reaches [] steps := by
  have some : (pathText root steps).isEmpty = false := by
    rcases isRoot with rfl | rfl <;> simp [pathText]
  have absolute : isAbsolute (pathText root steps) = true := by
    rcases isRoot with rfl | rfl <;> simp [isAbsolute, pathText]
  obtain ⟨slashes, empty, split⟩ := stepsOf_pathText isRoot names nonempty
  rw [isFile, find, some, if_neg Bool.false_ne_true, absolute, if_pos rfl, split,
    follow_empty empty, ← List.reverse_nil, ← follow_names_iff names nonempty, ← Nat.not_lt]
  split
  · next bytes found =>
    split at found
    · contradiction
    · next fits => exact iff_of_true rfl ⟨fits, bytes, found⟩
  · next other =>
    split at other
    · next long => simp [long]
    · next fits => simpa [fits] using other

/-- Which paths of names lead to files depends on the files alone, not on the directories. -/
theorem isFile_pathText_congr {t : Snapshot} (same : ∀ place, s.HasFile place ↔ t.HasFile place)
    (isRoot : IsRoot root) (names : AreNames steps) (nonempty : steps ≠ []) :
    s.isFile (pathText root steps) = t.isFile (pathText root steps) := by
  have reaches : s.Reaches [] steps ↔ t.Reaches [] steps := by
    constructor <;> rintro ⟨fits, file, clear⟩
    · exact ⟨fits, (same _).mp file, fun front back split some more =>
        mt (same _).mpr (clear front back split some more)⟩
    · exact ⟨fits, (same _).mpr file, fun front back split some more =>
        mt (same _).mp (clear front back split some more)⟩
  rw [Bool.eq_iff_iff, isFile_pathText isRoot names nonempty, isFile_pathText isRoot names nonempty,
    reaches]

end

end Snapshot

end Formula.Files
