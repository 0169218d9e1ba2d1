import CucumberC.FeatureRunner

/-!
# Which files are run

For a directory, `cucumber_feature_runner_new` queues the files of its tree whose full
path contains `.feature`, wherever that is. Every feature file is among them
(`strstr_of_isFeatureFile`), but so is a file of another kind that has the text in the
middle of its name or in the name of a parent directory.

## Main definitions

* `ownName`, `isFeatureFile`: what a feature file is.
* `SelectsFeatureFiles`, `selectsFeatureFiles_iff`: when the queue holds just these.
-/

namespace CucumberC
open Interaction

/-- The name of a file without the directories in front of it. -/
def ownName (path : String) : List Char :=
  (path.toList.reverse.takeWhile fun c => decide (c ≠ '/')).reverse

/-- The own name of the file ends in `.feature`. -/
def isFeatureFile (path : String) : Bool := decide (".feature".toList <:+ ownName path)

/-- The own name is an end of the path. -/
theorem ownName_suffix (path : String) : ownName path <:+ path.toList := by
  rw [ownName, ← List.reverse_prefix, List.reverse_reverse]
  exact List.takeWhile_prefix _

/-- A feature file passes the test that is made. -/
theorem strstr_of_isFeatureFile {path : String} (h : isFeatureFile path = true) :
    strstr path ".feature" = true := by
  rw [isFeatureFile, decide_eq_true_eq] at h
  rw [strstr, decide_eq_true_eq]
  exact (h.trans (ownName_suffix path)).isInfix

/-- The loop over the files of a directory queues those that pass the test. -/
theorem items_foldl_queue (paths : List String) (files : CursorList String) :
    (paths.foldl (fun files filename =>
        if strstr filename ".feature" then files.append filename else files) files).items =
      files.items ++ paths.filter fun path => strstr path ".feature" := by
  induction paths generalizing files with
  | nil => simp
  | cons path paths ih =>
    rw [List.foldl_cons, ih]
    by_cases h : strstr path ".feature" = true <;> simp [h]

/-- The queue of a directory. -/
theorem featureFiles_directory (fs : FileSystem) {dirname : String}
    (directory : fs.zfileIsDirectory dirname = true) :
    (cucumberFeatureRunnerNew fs dirname).featureFiles.items =
      (fs.zdirList dirname).filter fun path => strstr path ".feature" := by
  have h := items_foldl_queue (fs.zdirList dirname) .new
  rw [CursorList.items_new, List.nil_append] at h
  simp [cucumberFeatureRunnerNew, directory, h]

/-- The queue of the directory holds its feature files, each once and in the order of
`zdir_list`, and nothing else. -/
def SelectsFeatureFiles (fs : FileSystem) (dirname : String) : Prop :=
  (cucumberFeatureRunnerNew fs dirname).featureFiles.items =
    (fs.zdirList dirname).filter isFeatureFile

/-- **Discovery.** Of a directory just the feature files are queued, if and only if every
file below it that has `.feature` in its full path is one. -/
theorem selectsFeatureFiles_iff (fs : FileSystem) {dirname : String}
    (directory : fs.zfileIsDirectory dirname = true) :
    SelectsFeatureFiles fs dirname ↔
      ∀ path ∈ fs.zdirList dirname, strstr path ".feature" = true → isFeatureFile path = true := by
  rw [SelectsFeatureFiles, featureFiles_directory fs directory]
  constructor
  · intro hqueue path hpath hcontains
    have hmem : path ∈ (fs.zdirList dirname).filter fun path => strstr path ".feature" :=
      List.mem_filter.mpr ⟨hpath, hcontains⟩
    rw [hqueue] at hmem
    exact (List.mem_filter.mp hmem).2
  · intro honly
    refine List.filter_congr ?_
    intro path hpath
    rw [Bool.eq_iff_iff]
    exact ⟨honly path hpath, strstr_of_isFeatureFile⟩

/-- A file system of one directory with these files. -/
def directoryOf (dirname : String) (paths : List String) : FileSystem where
  zfileIsDirectory path := decide (path = dirname)
  zdirList path := if path = dirname then paths else []

/-- A backup copy is queued, and so is a text in a directory called `x.feature`. -/
theorem selectsFeatureFiles_backup :
    ¬ SelectsFeatureFiles
      (directoryOf "d" ["d/a.feature", "d/a.feature.bak", "d/x.feature/notes.txt"]) "d" := by
  intro selects
  exact absurd selects (by unfold SelectsFeatureFiles; decide)

/-- Files of other kinds do not disturb as long as their paths do not contain the text. -/
theorem selectsFeatureFiles_plain :
    SelectsFeatureFiles (directoryOf "d" ["d/a.feature", "d/notes.txt", "d/e/b.feature"]) "d" :=
  (selectsFeatureFiles_iff _ (by decide)).mpr (by decide)

end CucumberC
