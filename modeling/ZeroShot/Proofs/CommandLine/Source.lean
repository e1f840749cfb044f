import ZeroShot.CommandLine.Run

/-! Which model is loaded when options and settings each name one.

Options count before settings in every case but one: a repository that an option names gives way to
a directory that the settings name. Besides that case a run that is told its model goes the same way
wherever the settings would find one. -/

namespace ZeroShot

open CommandLine

def ModelSettings.source? (s : ModelSettings) : Option ModelSource :=
  s.dir.map .directory <|> s.repo.map .repo

def CommandLine.ClassifyArguments.source? (a : ClassifyArguments) : Option ModelSource :=
  a.dir.map .directory <|> a.repo.map .repo

namespace Settings

def relocate (s : Settings) (dir repo : Option String) : Settings :=
  { s with model.dir := dir, model.repo := repo }

theorem source?_of_dir (s : Settings) (repo : Option String) (dir : String) :
    s.source? repo (some dir) = some (.directory dir) := rfl

theorem source?_of_model_dir {s : Settings} {dir : String} (h : s.model.dir = some dir)
    (repo : Option String) : s.source? repo none = some (.directory dir) := by
  rw [source?, h]
  rfl

theorem source?_of_no_dir {s : Settings} (h : s.model.dir = none) (repo : Option String) :
    s.source? repo none = (repo <|> s.model.repo).map .repo := by
  rw [source?, h]
  rfl

theorem source?_of_no_option (s : Settings) : s.source? none none = s.model.source? := by
  unfold ModelSettings.source?
  cases h : s.model.dir with
  | none => exact source?_of_no_dir h none
  | some dir => exact source?_of_model_dir h none

theorem loadClassifier_relocate [Runtime] {s : Settings} {dir repo optionRepo optionDir : Option String}
    (h : (s.relocate dir repo).source? optionRepo optionDir = s.source? optionRepo optionDir)
    (library : Library) :
    (s.relocate dir repo).loadClassifier library optionRepo optionDir =
      s.loadClassifier library optionRepo optionDir := by
  rw [loadClassifier, h]
  rfl

theorem runClassify_relocate [Runtime] {s : Settings} {dir repo : Option String} {a : ClassifyArguments}
    (h : (s.relocate dir repo).source? a.repo a.dir = s.source? a.repo a.dir)
    (surroundings : Surroundings) :
    runClassify surroundings (s.relocate dir repo) a = runClassify surroundings s a := by
  rw [runClassify, loadClassifier_relocate h]
  rfl

/-- A directory option, or a repository option where the settings have no directory, decides on the
model and leaves no trace of the place in the settings. Otherwise the settings decide, and a
repository option is not heard. -/
theorem options_override_place [Runtime] (s : Settings) (a : ClassifyArguments) :
    (∀ directory, a.dir = some directory → ∀ dir repo,
      (s.relocate dir repo).source? a.repo a.dir = some (.directory directory) ∧
        ∀ surroundings, runClassify surroundings (s.relocate dir repo) a =
          runClassify surroundings s a) ∧
    (∀ id, a.dir = none → a.repo = some id → s.model.dir = none → ∀ repo,
      (s.relocate none repo).source? a.repo a.dir = some (.repo id) ∧
        ∀ surroundings, runClassify surroundings (s.relocate none repo) a =
          runClassify surroundings s a) ∧
    (∀ directory, a.dir = none → s.model.dir = some directory →
      s.source? a.repo a.dir = some (.directory directory)) ∧
    (a.dir = none → a.repo = none → s.source? a.repo a.dir = s.model.source?) ∧
    (s.source? a.repo a.dir = (a.source? <|> s.model.source?) ↔
      a.dir.isSome ∨ a.repo = none ∨ s.model.dir = none) := by
  refine ⟨?_, ?_, ?_, ?_, ?_⟩
  · intro directory hdir dir repo
    rw [hdir]
    refine ⟨source?_of_dir _ _ _, runClassify_relocate ?_⟩
    rw [hdir, source?_of_dir, source?_of_dir]
  · intro id hdir hrepo hplace repo
    have hsource (t : Settings) (ht : t.model.dir = none) :
        t.source? a.repo a.dir = some (.repo id) := by
      rw [hdir, source?_of_no_dir ht, hrepo]
      rfl
    refine ⟨hsource _ rfl, runClassify_relocate ?_⟩
    rw [hsource _ rfl, hsource _ hplace]
  · intro directory hdir hplace
    rw [hdir]
    exact source?_of_model_dir hplace a.repo
  · intro hdir hrepo
    rw [hdir, hrepo]
    exact s.source?_of_no_option
  · unfold ClassifyArguments.source? ModelSettings.source?
    cases hdir : a.dir with
    | some directory => simp [source?_of_dir]
    | none =>
      cases hplace : s.model.dir with
      | none => cases a.repo <;> simp [source?_of_no_dir hplace]
      | some dir => cases a.repo <;> simp [source?_of_model_dir hplace]

def nowhere : Surroundings := ⟨⟨.ofWorking [], "cache"⟩, none, none⟩

def bothOptions : ClassifyArguments := ⟨some "text", ["a"], none, false, some "org/model", some "m"⟩

def repoOption : ClassifyArguments := ⟨some "text", ["a"], none, false, some "org/model", none⟩

theorem options_override_place_both_kinds :
    (∀ dir repo, (relocate {} dir repo).source? (some "org/model") (some "m") =
      some (.directory "m")) ∧
    (∀ repo, runClassify nowhere (relocate {} none repo) repoOption =
      runClassify nowhere {} repoOption) := by
  constructor
  · intro dir repo
    exact ((options_override_place {} bothOptions).1 "m" rfl dir repo).1
  · intro repo
    exact ((options_override_place {} repoOption).2.1 "org/model" rfl rfl rfl repo).2 nowhere

/-- A repository is asked for by an option, and a directory from the settings is looked into. -/
theorem repo_option_gives_way :
    source? {} repoOption.repo repoOption.dir = some (.repo "org/model") ∧
    (relocate {} (some "local") none).source? repoOption.repo repoOption.dir =
      some (.directory "local") ∧
    (runClassify nowhere {} repoOption).result =
      .error (.error (.setup (.graphNotInRepo "org/model"))) ∧
    (runClassify nowhere (relocate {} (some "local") none) repoOption).result =
      .error (.error (.setup (.missingModelDir "local"))) :=
  ⟨rfl, rfl, rfl, rfl⟩

end Settings

end ZeroShot
