import Formula.Config.Loading
import Formula.Proofs.Files.Path
import Mathlib.Data.List.Basic
import Mathlib.Data.List.Find
import Mathlib.Data.List.Induction

/-! Looking for a settings file. The search climbs from a directory until it finds a settings file
or is at the root, which is the one directory that is its own parent. What it finds is the nearest
settings file, and of several in one directory the one whose name counts most. Directories play no
part in it, whatever their names. -/
namespace Formula.Config

open Files

/-! ### Climbing -/

@[simp]
theorem ancestors_nil : ancestors [] = [[]] :=
  rfl

theorem ancestors_concat (directory : List String) (step : String) :
    ancestors (directory ++ [step]) = (directory ++ [step]) :: ancestors directory := by
  simp [ancestors, ancestorsOf]

section
variable {α : Type} {look : List String → Option α} {origin : List String}

/-- What a search in the directories from `origin` upwards finds is found in one of them, and in
none of those between. -/
theorem findSome?_ancestors_eq_some {found : α} :
    (ancestors origin).findSome? look = some found ↔
      ∃ directory, directory <+: origin ∧ look directory = some found ∧
        ∀ between, directory <+: between → between ≠ directory → between <+: origin →
          look between = none := by
  induction origin using List.reverseRecOn with
  | nil =>
    constructor
    · intro search
      refine ⟨[], List.prefix_rfl, by simpa using search, ?_⟩
      exact fun between _ other below => absurd (List.prefix_nil.mp below) other
    · rintro ⟨directory, above, here, -⟩
      obtain rfl := List.prefix_nil.mp above
      simp [here]
  | append_singleton origin step ih =>
    rw [ancestors_concat, List.findSome?_cons]
    cases here : look (origin ++ [step]) with
    | some nearest =>
      constructor
      · intro same
        refine ⟨_, List.prefix_rfl, here.trans same, fun between below other above => ?_⟩
        exact absurd (below.eq_of_length_le above.length_le).symm other
      · rintro ⟨directory, above, there, between⟩
        by_cases same : origin ++ [step] = directory
        · rw [← here, same, there]
        · cases (between _ above same List.prefix_rfl).symm.trans here
    | none =>
      rw [ih]
      refine exists_congr fun directory => ?_
      constructor
      · rintro ⟨above, there, between⟩
        refine ⟨above.trans (List.prefix_append _ _), there, fun other below differs upto => ?_⟩
        rcases List.prefix_concat_iff.mp upto with rfl | upto
        · exact here
        · exact between other below differs upto
      · rintro ⟨above, there, between⟩
        rcases List.prefix_concat_iff.mp above with rfl | above
        · cases here.symm.trans there
        · exact ⟨above, there, fun other below differs upto =>
            between other below differs (upto.trans (List.prefix_append _ _))⟩

theorem mem_ancestors {directory : List String} : directory ∈ ancestors origin ↔
    directory <+: origin := by
  induction origin using List.reverseRecOn with
  | nil => simp
  | append_singleton origin step ih =>
    rw [ancestors_concat, List.mem_cons, ih, List.prefix_concat_iff]

end

/-- A search upwards from a directory. It ends where it finds a settings file, and at the root. -/
inductive Climbs (files : Snapshot) (root : String) :
    List String → Option (List String) → Prop where
  | found {directory path} (here : findIn? files root directory = some path) :
      Climbs files root directory (some path)
  | root {directory} (absent : findIn? files root directory = none)
      (fixed : directory.dropLast = directory) : Climbs files root directory none
  | up {directory outcome} (absent : findIn? files root directory = none)
      (higher : directory.dropLast ≠ directory)
      (above : Climbs files root directory.dropLast outcome) : Climbs files root directory outcome

section
variable {files : Snapshot} {root : String} {directory path : List String}

/-- The root is its own parent, and no other directory is. -/
theorem dropLast_eq_self : directory.dropLast = directory ↔ directory = [] := by
  cases directory using List.reverseRecOn <;> simp

theorem climbs_iff {outcome : Option (List String)} :
    Climbs files root directory outcome ↔
      (ancestors directory).findSome? (findIn? files root) = outcome := by
  constructor
  · intro climb
    induction climb with
    | @found directory path here =>
      cases directory using List.reverseRecOn with
      | nil => simpa using here
      | append_singleton directory step => simp [ancestors_concat, here]
    | root absent fixed =>
      obtain rfl := dropLast_eq_self.mp fixed
      simpa using absent
    | @up directory outcome absent higher _ ih =>
      cases directory using List.reverseRecOn with
      | nil => exact absurd rfl higher
      | append_singleton directory step =>
        rw [List.dropLast_concat] at ih
        rw [ancestors_concat, List.findSome?_cons, absent, ih]
  · rintro rfl
    induction directory using List.reverseRecOn with
    | nil =>
      cases here : findIn? files root [] with
      | some path => simpa [here] using Climbs.found here
      | none => simpa [here] using Climbs.root here rfl
    | append_singleton directory step ih =>
      rw [ancestors_concat, List.findSome?_cons]
      cases here : findIn? files root (directory ++ [step]) with
      | some path => exact .found here
      | none => exact .up here (by simp) (by simpa using ih)

/-! ### Settings files of a directory -/

/-- The settings file of a directory is the first of the four that is there. -/
theorem findIn?_eq_some : findIn? files root directory = some path ↔
    ∃ name, path = directory ++ [name] ∧ files.isFile (pathText root (directory ++ [name])) = true ∧
      ∃ front back, fileNames = front ++ name :: back ∧
        ∀ other ∈ front, files.isFile (pathText root (directory ++ [other])) = false := by
  rw [findIn?, List.find?_map, Option.map_eq_some_iff]
  constructor
  · rintro ⟨name, found, rfl⟩
    obtain ⟨file, front, back, names, before⟩ := List.find?_eq_some_iff_append.mp found
    refine ⟨name, rfl, file, front, back, names, fun other among => ?_⟩
    simpa using before other among
  · rintro ⟨name, rfl, file, front, back, names, before⟩
    refine ⟨name, List.find?_eq_some_iff_append.mpr ⟨file, front, back, names, ?_⟩, rfl⟩
    exact fun other among => by simpa using before other among

theorem findIn?_eq_none : findIn? files root directory = none ↔
    ∀ name ∈ fileNames, files.isFile (pathText root (directory ++ [name])) = false := by
  simp [findIn?]

theorem areNames_fileNames : AreNames fileNames := by
  unfold AreNames IsName
  decide

/-- The file with one of the four names that counts in a directory: it lies in that directory or
nearest above it, and no name before its own is that of a file there. -/
structure Nearest (files : Snapshot) (root : String) (origin directory : List String)
    (name : String) : Prop where
  above : directory <+: origin
  file : files.isFile (pathText root (directory ++ [name])) = true
  nearest : ∀ between, directory <+: between → between ≠ directory → between <+: origin →
    ∀ other ∈ fileNames, files.isFile (pathText root (between ++ [other])) = false
  first : ∃ front back, fileNames = front ++ name :: back ∧
    ∀ other ∈ front, files.isFile (pathText root (directory ++ [other])) = false

theorem findSome?_eq_nearest {origin : List String} :
    (ancestors origin).findSome? (findIn? files root) = some path ↔
      ∃ directory name, path = directory ++ [name] ∧ Nearest files root origin directory name := by
  simp only [findSome?_ancestors_eq_some, findIn?_eq_some, findIn?_eq_none]
  constructor
  · rintro ⟨directory, above, ⟨name, rfl, file, first⟩, nearest⟩
    exact ⟨directory, name, rfl, above, file, nearest, first⟩
  · rintro ⟨directory, name, rfl, above, file, nearest, first⟩
    exact ⟨directory, above, ⟨name, rfl, file, first⟩, nearest⟩

/-- In a directory whose steps are names, the settings file depends on the files alone. -/
theorem findIn?_congr {others : Snapshot}
    (same : ∀ place, files.HasFile place ↔ others.HasFile place) (isRoot : IsRoot root)
    (names : AreNames directory) :
    findIn? files root directory = findIn? others root directory := by
  refine List.find?_congr ?_
  intro steps member
  obtain ⟨name, among, rfl⟩ := List.mem_map.mp member
  have named : AreNames (directory ++ [name]) :=
    names.append fun step last => List.mem_singleton.mp last ▸ areNames_fileNames name among
  exact Snapshot.isFile_pathText_congr same isRoot named (by simp)

end

/-- Without a path, the file that counts is the nearest one of the names that are looked for, and of
those in its directory the first; there is none if no directory up to the root has one. The search
always comes to an end, and it starts where the path of the start leads. Only files count: with
other directories beside the same files the outcome is the same. -/
theorem find?_nearest (files : Snapshot) (start : String) :
    (∀ path, find? files start = some path ↔
      ∃ directory name, path = directory ++ [name] ∧
        Nearest files (rootOf start) (absoluteSteps files.working start) directory name) ∧
    (find? files start = none ↔
      ∀ directory, directory <+: absoluteSteps files.working start →
        ∀ name ∈ fileNames, files.isFile (pathText (rootOf start) (directory ++ [name])) = false) ∧
    (∀ outcome, Climbs files (rootOf start) (absoluteSteps files.working start) outcome ↔
      find? files start = outcome) ∧
    (files.Rooted → ∀ entry, files.find start = .ok entry →
      files.follow [] .directory (absoluteSteps files.working start) = .ok entry) ∧
    (AreNames files.working → ∀ others : Snapshot, others.working = files.working →
      (∀ place, others.HasFile place ↔ files.HasFile place) →
      find? others start = find? files start) := by
  refine ⟨fun path => findSome?_eq_nearest, ?_, fun outcome => climbs_iff,
    fun rooted entry => rooted.find_absoluteSteps, fun names others working same => ?_⟩
  · simp only [find?, List.findSome?_eq_none_iff, mem_ancestors, findIn?_eq_none]
  · rw [find?, find?, working, ← List.head?_filterMap, ← List.head?_filterMap]
    refine congrArg List.head? (List.filterMap_congr fun directory member => ?_)
    refine findIn?_congr same (isRoot_rootOf start) fun step among => ?_
    exact areNames_absoluteSteps names start step ((mem_ancestors.mp member).subset among)

/-- Above the working directory there are two settings files. -/
def twoAbove : Snapshot where
  working := ["work", "deep"]
  entries := [(["work", ".exprtreerc.json"], .file []), (["work", "exprtree.config.yml"], .file [])]

/-- The search starts at a path with a step back, in a directory that holds a directory with the
name of a settings file. -/
theorem find?_nearest_of_twoAbove :
    find? (twoAbove.withDirectory ["work", "deep", ".exprtreerc.yml"]) "../deep" =
        some ["work", ".exprtreerc.json"] ∧
      twoAbove.follow [] .directory ["work", "deep"] = .ok .directory := by
  obtain ⟨-, -, -, leads, files⟩ := find?_nearest twoAbove "../deep"
  have names : AreNames twoAbove.working := by
    unfold AreNames IsName
    decide
  have free : ¬twoAbove.HasFile ["work", "deep", ".exprtreerc.yml"] := by
    rintro ⟨bytes, file⟩
    cases file
  constructor
  · rw [files names (twoAbove.withDirectory _) rfl (Snapshot.hasFile_withDirectory free)]
    rfl
  · exact leads ⟨names, by rfl⟩ .directory (by rfl)

end Formula.Config
