import Mathlib.Data.List.Forall2
import Mathlib.Data.Option.Basic
import Mathlib.Tactic.Common
import SuitePool.Proofs.Exec
import SuitePool.Session
import SuitePool.Settings.File

/-!
# The layers of settings

Settings are made of layers over the defaults of a package: first that of a settings file, if there
is one, and then one for each set of overrides.  A layer sets some fields and leaves the others
alone, so each field is what the last layer says that sets it, whatever the layers say of other
fields.  No layer sets what is of no use: a number of workers is positive, and a worker command has
words.

## Main definitions

* `Layer`, `lastSet`: what a layer sets, and what the last one sets that sets anything.
* `Overrides.layer`, `SettingsFile.Gives`: the layers of overrides and of a settings file.
* `Settings.IsMadeOf`: every field is what the last layer sets it to.

## Main results

* `Settings.mergeFile_eq_ok_iff`: merging a file puts its layer over settings.
* `Settings.load_eq_ok_iff`: when settings can be loaded, and what they are.
* `Settings.IsMadeOf.foldl_apply`: overrides put their layers over settings.
* `Settings.layering_laws`
-/

namespace SuitePool

open Text

variable {α : Type}

/-! ## Layers -/

/-- What a layer of settings sets. -/
structure Layer where
  searchRoots : Option (List Path)
  filenamePattern : Option String
  modulePath : Option (List Path)
  workerCount : Option Nat
  workerCommand : Option (List String)
  language : Option String

/-- **What the last layer sets** that sets anything. -/
def lastSet (set : Layer → Option α) (layers : List Layer) : Option α :=
  (layers.filterMap set).getLast?

theorem lastSet_concat (set : Layer → Option α) (layers : List Layer) (l : Layer) :
    lastSet set (layers ++ [l]) = (set l).or (lastSet set layers) := by
  rw [lastSet, List.filterMap_append, List.getLast?_append, lastSet]
  cases hl : set l <;> simp [hl]

/-- What was set last was set by some layer. -/
theorem exists_of_lastSet {set : Layer → Option α} {layers : List Layer} {a : α}
    (h : lastSet set layers = some a) : ∃ l ∈ layers, set l = some a :=
  List.mem_filterMap.1 (List.mem_of_getLast? h)

/-- The layer of overrides.  They neither name search roots nor a worker command, and a module path
without roots sets nothing. -/
def Overrides.layer (o : Overrides) : Layer where
  searchRoots := none
  filenamePattern := o.filenamePattern
  modulePath := if o.modulePath = [] then none else some o.modulePath
  workerCount := o.workerCount
  workerCommand := none
  language := o.language

/-- **The paths that texts of a settings file stand for**: each text is expanded and joined to the
directory of the file, in their order. -/
def StandFor (env : Environment) (base : Path) : List String → List Path → Prop :=
  List.Forall₂ fun raw path => ∃ s, Shell.expand env raw = .ok s ∧ path = base.join (.ofString s)

/-- **The words of a command**: the expanded text is cut into words, of which there is at least
one. -/
def SplitsInto (env : Environment) (command : String) (words : List String) : Prop :=
  words ≠ [] ∧ ∃ s, Shell.expand env command = .ok s ∧ Shell.words? s = some words

/-- **The layer of a settings file** in a directory. -/
structure SettingsFile.Gives (env : Environment) (base : Path) (f : SettingsFile) (l : Layer) :
    Prop where
  searchRoots : Option.Rel (StandFor env base) f.run.searchRoots l.searchRoots
  filenamePattern : l.filenamePattern = f.run.filenamePattern
  modulePath : Option.Rel (StandFor env base) f.run.modulePath l.modulePath
  workerCount : l.workerCount = f.run.workers
  /-- There is to be at least one worker. -/
  workers_pos : ∀ n ∈ f.run.workers, 1 ≤ n
  workerCommand : Option.Rel (SplitsInto env) f.run.workerCommand l.workerCommand
  language : l.language = f.language

/-- **Is what a layer sets of use?** -/
structure Layer.IsUsable (l : Layer) : Prop where
  workerCount : ∀ n ∈ l.workerCount, 1 ≤ n
  workerCommand : ∀ command ∈ l.workerCommand, command ≠ []

theorem Overrides.isUsable_layer {o : Overrides} (h : ∀ n ∈ o.workerCount, 1 ≤ n) :
    o.layer.IsUsable :=
  ⟨h, by simp [layer]⟩

theorem SettingsFile.Gives.isUsable {env : Environment} {base : Path} {f : SettingsFile}
    {l : Layer} (h : f.Gives env base l) : l.IsUsable where
  workerCount := by
    rw [h.workerCount]
    exact h.workers_pos
  workerCommand := by
    intro command hc
    have hwords := h.workerCommand
    rw [hc] at hwords
    generalize f.run.workerCommand = text at hwords
    cases hwords with
    | some hwords => exact hwords.1

namespace Settings

variable {env : Environment} {base : Path}

/-- Settings under a layer. -/
def under (s : Settings) (l : Layer) : Settings where
  searchRoots := l.searchRoots.getD s.searchRoots
  filenamePattern := l.filenamePattern.getD s.filenamePattern
  modulePath := l.modulePath.getD s.modulePath
  workerCount := l.workerCount.or s.workerCount
  workerCommand := l.workerCommand.or s.workerCommand
  language := l.language.or s.language

/-- **Overrides put their layer over settings.** -/
theorem apply_eq_under (s : Settings) (o : Overrides) : s.apply o = s.under o.layer := by
  simp only [apply, under, Overrides.layer, Settings.mk.injEq, Option.getD_none, Option.none_or,
    true_and]
  refine ⟨?_, Option.orElse_eq_or, Option.orElse_eq_or⟩
  split_ifs <;> rfl

/-! ## The layer of a file -/

theorem resolvePath_eq_ok_iff {raw : String} {path : Path} :
    resolvePath env base raw = .ok path ↔
      ∃ s, Shell.expand env raw = .ok s ∧ path = base.join (.ofString s) := by
  rw [resolvePath]
  cases Shell.expand env raw <;> simp [eq_comm]

theorem resolvePaths_eq_ok_iff {old paths : List Path} {raws : Option (List String)} :
    resolvePaths env base old raws = .ok paths ↔
      ∃ given, Option.Rel (StandFor env base) raws given ∧ paths = given.getD old := by
  cases raws with
  | none =>
    constructor
    · rintro ⟨⟩
      exact ⟨none, .none, rfl⟩
    · rintro ⟨_, ⟨⟩, rfl⟩
      rfl
  | some raws =>
    simp only [resolvePaths, mapM_eq_ok_iff, resolvePath_eq_ok_iff]
    constructor
    · intro h
      exact ⟨some paths, .some h, rfl⟩
    · rintro ⟨_, ⟨h⟩, rfl⟩
      exact h

theorem checkWorkers_eq_ok_iff {old workers count : Option Nat} :
    checkWorkers old workers = .ok count ↔
      (∀ n ∈ workers, 1 ≤ n) ∧ count = workers.or old := by
  cases workers with
  | none => simp [checkWorkers, eq_comm]
  | some n => cases n <;> simp [checkWorkers, eq_comm]

theorem splitCommand_eq_ok_iff {old words : Option (List String)} {command : Option String} :
    splitCommand env old command = .ok words ↔
      ∃ given, Option.Rel (SplitsInto env) command given ∧ words = given.or old := by
  cases command with
  | none =>
    constructor
    · rintro ⟨⟩
      exact ⟨none, .none, rfl⟩
    · rintro ⟨_, ⟨⟩, rfl⟩
      rfl
  | some command =>
    rw [splitCommand]
    constructor
    · intro h
      cases he : Shell.expand env command with
      | error e => rw [he] at h; cases h
      | ok s =>
        simp only [he] at h
        split at h
        · cases h
        · cases h
        · next words hne hw =>
          cases h
          exact ⟨some words, .some ⟨hne, s, he, hw⟩, rfl⟩
    · rintro ⟨_, ⟨hne, s, he, hw⟩, rfl⟩
      simp only [he, hw]
      rfl

/-- **Merging a file puts its layer over settings**, and it succeeds if all texts of the file stand
for something. -/
theorem mergeFile_eq_ok_iff {s s' : Settings} {f : SettingsFile} :
    s.mergeFile env base f = .ok s' ↔ ∃ l, f.Gives env base l ∧ s' = s.under l := by
  simp only [mergeFile, bind_eq_ok_iff, resolvePaths_eq_ok_iff, checkWorkers_eq_ok_iff,
    splitCommand_eq_ok_iff, Except.ok.injEq]
  constructor
  · rintro ⟨_, ⟨roots, hroots, rfl⟩, _, ⟨modules, hmodules, rfl⟩, _, ⟨hpos, rfl⟩, _,
      ⟨command, hcommand, rfl⟩, rfl⟩
    refine ⟨⟨roots, f.run.filenamePattern, modules, f.run.workers, command, f.language⟩,
      ⟨hroots, rfl, hmodules, rfl, hpos, hcommand, rfl⟩, ?_⟩
    rw [under, Option.orElse_eq_orElse, Option.orElse_eq_or]
  · rintro ⟨l, hl, rfl⟩
    refine ⟨_, ⟨_, hl.searchRoots, rfl⟩, _, ⟨_, hl.modulePath, rfl⟩, _, ⟨hl.workers_pos, rfl⟩, _,
      ⟨_, hl.workerCommand, rfl⟩, ?_⟩
    rw [under, hl.filenamePattern, hl.workerCount, hl.language, Option.orElse_eq_orElse,
      Option.orElse_eq_or]

/-- **Is a directory that of a file**?  It is the parent of the path, if the path has a parent. -/
def IsDirectoryOf (directory path : Path) : Prop :=
  path.parent? = some directory ∨ path.parent? = none ∧ directory = Path.workingDirectory

theorem isDirectoryOf_iff {directory path : Path} :
    IsDirectoryOf directory path ↔ directory = baseOf path := by
  rw [IsDirectoryOf, baseOf]
  cases path.parent? <;> simp [eq_comm]

/-- **The layers of a file**: one if there is a file, which can be read then.  Its paths are
relative to its directory. -/
inductive FileLayers (t : FileTree) (env : Environment) : Option Path → List Layer → Prop where
  | absent : FileLayers t env none []
  | present {path directory : Path} {f : SettingsFile} {l : Layer} (hf : readFile t path = .ok f)
      (hd : IsDirectoryOf directory path) (hl : f.Gives env directory l) :
      FileLayers t env (some path) [l]

theorem FileLayers.isUsable {t : FileTree} {file : Option Path} {layers : List Layer}
    (h : FileLayers t env file layers) : ∀ l ∈ layers, l.IsUsable := by
  cases h with
  | absent => simp
  | present _ _ hl => exact List.forall_mem_singleton.2 hl.isUsable

/-- **When settings can be loaded**, and what they are. -/
theorem load_eq_ok_iff [Wording] {t : FileTree} {package : Path} {file : Option Path}
    {s : Settings} :
    load t env package file = .ok s ↔
      ∃ layers, FileLayers t env file layers ∧ s = layers.foldl under (defaults package) := by
  cases file with
  | none =>
    rw [load, Except.ok.injEq]
    constructor
    · rintro rfl
      exact ⟨[], .absent, rfl⟩
    · rintro ⟨_, ⟨⟩, rfl⟩
      rfl
  | some path =>
    rw [load]
    constructor
    · intro h
      split at h
      · next merged hmerged =>
        cases h
        obtain ⟨f, hf, hmerge⟩ := bind_eq_ok_iff.1 hmerged
        obtain ⟨l, hl, rfl⟩ := mergeFile_eq_ok_iff.1 hmerge
        exact ⟨[l], .present hf (isDirectoryOf_iff.2 rfl) hl, rfl⟩
      · cases h
    · rintro ⟨_, ⟨⟩ | @⟨_, _, f, l, hf, hd, hl⟩, rfl⟩
      rw [isDirectoryOf_iff.1 hd] at hl
      rw [bind_eq_ok_iff.2 ⟨f, hf, mergeFile_eq_ok_iff.2 ⟨l, hl, rfl⟩⟩]
      rfl

/-! ## What settings are made of -/

/-- **Are settings made of layers**, over the defaults of a package?  Each field is what the last
layer sets it to, and if none does, what it is by default. -/
structure IsMadeOf (package : Path) (layers : List Layer) (s : Settings) : Prop where
  searchRoots : s.searchRoots =
    (lastSet Layer.searchRoots layers).getD [package.join (.ofString "tests/unit")]
  filenamePattern : s.filenamePattern =
    (lastSet Layer.filenamePattern layers).getD "test_*.rs"
  modulePath : s.modulePath = (lastSet Layer.modulePath layers).getD [package]
  workerCount : s.workerCount = lastSet Layer.workerCount layers
  workerCommand : s.workerCommand = lastSet Layer.workerCommand layers
  language : s.language = lastSet Layer.language layers

variable {package : Path} {layers : List Layer} {s : Settings}

theorem isMadeOf_defaults (package : Path) : (defaults package).IsMadeOf package [] :=
  ⟨rfl, rfl, rfl, rfl, rfl, rfl⟩

/-- **One more layer** comes last. -/
theorem IsMadeOf.under (h : s.IsMadeOf package layers) (l : Layer) :
    (s.under l).IsMadeOf package (layers ++ [l]) where
  searchRoots := by rw [lastSet_concat, Option.getD_or, ← h.searchRoots, Settings.under]
  filenamePattern := by rw [lastSet_concat, Option.getD_or, ← h.filenamePattern, Settings.under]
  modulePath := by rw [lastSet_concat, Option.getD_or, ← h.modulePath, Settings.under]
  workerCount := by rw [lastSet_concat, ← h.workerCount, Settings.under]
  workerCommand := by rw [lastSet_concat, ← h.workerCommand, Settings.under]
  language := by rw [lastSet_concat, ← h.language, Settings.under]

/-- **More layers** come behind the others. -/
theorem IsMadeOf.foldl_under (h : s.IsMadeOf package layers) (more : List Layer) :
    (more.foldl Settings.under s).IsMadeOf package (layers ++ more) := by
  induction more generalizing s layers with
  | nil => rwa [List.append_nil]
  | cons l more ih =>
    rw [List.foldl_cons, List.append_cons]
    exact ih (h.under l)

/-- **Overrides are layers** behind the others. -/
theorem IsMadeOf.foldl_apply (h : s.IsMadeOf package layers) (os : List Overrides) :
    (os.foldl apply s).IsMadeOf package (layers ++ os.map Overrides.layer) := by
  have hfold : os.foldl apply s = (os.map Overrides.layer).foldl Settings.under s := by
    rw [List.foldl_map]
    simp only [← apply_eq_under]
  rw [hfold]
  exact h.foldl_under _

/-! ## Settings that are of use -/

theorem IsMadeOf.workerCount_pos (h : s.IsMadeOf package layers) (hl : ∀ l ∈ layers, l.IsUsable) :
    ∀ n ∈ s.workerCount, 1 ≤ n := by
  intro n hn
  rw [h.workerCount] at hn
  obtain ⟨l, hmem, hset⟩ := exists_of_lastSet hn
  exact (hl l hmem).workerCount n hset

theorem IsMadeOf.workerCommand_ne_nil (h : s.IsMadeOf package layers)
    (hl : ∀ l ∈ layers, l.IsUsable) : ∀ command ∈ s.workerCommand, command ≠ [] := by
  intro command hc
  rw [h.workerCommand] at hc
  obtain ⟨l, hmem, hset⟩ := exists_of_lastSet hc
  exact (hl l hmem).workerCommand command hset

/-- **When cases are run in worker processes**: if there are to be two of them or more. -/
theorem forked_iff (hpos : ∀ n ∈ s.workerCount, 1 ≤ n) :
    s.forked = true ↔ ∃ n ∈ s.workerCount, 2 ≤ n := by
  rw [forked]
  cases hc : s.workerCount with
  | none => simp
  | some n =>
    have := hpos n hc
    simp only [bne_iff_ne, Option.mem_some_iff, exists_eq_left']
    omega

theorem poolSize_of_mem {n : Nat} (hn : n ∈ s.workerCount) (hpos : 1 ≤ n) (processors : Nat) :
    s.poolSize processors = n := by
  rw [poolSize, hn, Option.getD_some]
  omega

theorem one_le_poolSize (s : Settings) (processors : Nat) : 1 ≤ s.poolSize processors :=
  Nat.le_max_left ..

end Settings

/-- **A pool can be opened** if no command lacks its words. -/
theorem Session.exists_openPool [Wording] {σ : Type} {session : Session σ}
    (hc : session.command ≠ some [])
    (hs : ∀ command ∈ session.settings.workerCommand, command ≠ []) :
    ∃ opened, session.openPool = .ok opened := by
  have hprogram : ∃ program, session.program? = .ok program := by
    rw [program?]
    split
    · exact ⟨_, rfl⟩
    · next hempty =>
      -- The command of the caller comes first.
      cases hcommand : session.command with
      | none =>
        rw [hcommand] at hempty
        exact absurd rfl (hs [] hempty)
      | some command =>
        rw [hcommand] at hempty
        cases hempty
        exact absurd hcommand hc
    · exact ⟨_, rfl⟩
  obtain ⟨program, hprogram⟩ := hprogram
  exact ⟨_, bind_eq_ok_iff.2 ⟨program, hprogram, rfl⟩⟩

namespace Settings

/-- **The layers of settings.**  If settings can be loaded, and overrides are put over them that ask
for no fewer than one worker, then each field is what the last overrides set it to that set it, else
what the file sets it to, and else what it is by default, whatever other fields are.  The number of
workers is positive and the worker command has words, where they are set; cases are run in worker
processes if there are to be two or more of them, and then the pool has as many; it always has at
least one, and a session with these settings can open its pool, unless its caller names a command
without words. -/
theorem layering_laws [Wording] {t : FileTree} {env : Environment} {package : Path}
    {file : Option Path} {s s' : Settings} (hload : load t env package file = .ok s)
    {os : List Overrides} (hos : ∀ o ∈ os, ∀ n ∈ o.workerCount, 1 ≤ n)
    (hs' : s' = os.foldl apply s) :
    (∃ layers, FileLayers t env file layers ∧
      s'.IsMadeOf package (layers ++ os.map Overrides.layer)) ∧
    (∀ n ∈ s'.workerCount, 1 ≤ n) ∧
    (∀ command ∈ s'.workerCommand, command ≠ []) ∧
    (s'.forked = true ↔ ∃ n ∈ s'.workerCount, 2 ≤ n) ∧
    (s'.forked = true → ∀ processors, s'.workerCount = some (s'.poolSize processors)) ∧
    (∀ processors, 1 ≤ s'.poolSize processors) ∧
    (∀ (σ : Type) (session : Session σ), session.settings = s' → session.command ≠ some [] →
      session.openPool ≠ .error (.worker .emptyCommand) ∧
        ∃ opened, session.openPool = .ok opened) := by
  obtain ⟨layers, hlayers, rfl⟩ := load_eq_ok_iff.1 hload
  have hmade : s'.IsMadeOf package (layers ++ os.map Overrides.layer) := by
    rw [hs']
    exact ((isMadeOf_defaults package).foldl_under layers).foldl_apply os
  have husable : ∀ l ∈ layers ++ os.map Overrides.layer, l.IsUsable := by
    rw [List.forall_mem_append, List.forall_mem_map]
    exact ⟨hlayers.isUsable, fun o ho => Overrides.isUsable_layer (hos o ho)⟩
  have hpos := hmade.workerCount_pos husable
  have hcommand := hmade.workerCommand_ne_nil husable
  refine ⟨⟨layers, hlayers, hmade⟩, hpos, hcommand, forked_iff hpos, fun hf processors => ?_,
    one_le_poolSize s', fun σ session hsession hc => ?_⟩
  · obtain ⟨n, hn, -⟩ := (forked_iff hpos).1 hf
    rw [poolSize_of_mem hn (hpos n hn), hn]
  · obtain ⟨opened, hopened⟩ := session.exists_openPool hc (hsession ▸ hcommand)
    exact ⟨by rw [hopened]; simp, opened, hopened⟩

/-! ## A package with a settings file -/

section

open scoped Terse

/-- A settings file that leaves two fields alone.  One of its search roots is absolute, and the
other is relative. -/
def filedText : String :=
  "language = \"zh-CN\"\n[run]\nsearch_roots = [\"$HOME/a\", \"sub\"]\nworkers = 2\n" ++
    "worker_command = \"w 'a b'\"\n"

def filedTree : FileTree :=
  ⟨[(utf8 "pkg", .directory [(utf8 "s.toml", .file (utf8 filedText))])], []⟩

def filedPath : Path := .ofString "/pkg/s.toml"

def filedPackage : Path := .ofString "/pkg"

def filedEnvironment : Environment := [("HOME", "/u")]

/-- What the settings file says. -/
def filedContents : SettingsFile where
  language := some "zh-CN"
  run := ⟨some ["$HOME/a", "sub"], none, none, some 2, some "w 'a b'"⟩

/-- The settings of the package. -/
def filedSettings : Settings where
  searchRoots := [.ofString "/u/a", .ofString "/pkg/sub"]
  filenamePattern := "test_*.rs"
  modulePath := [filedPackage]
  workerCount := some 2
  workerCommand := some ["w", "a b"]
  language := some "zh-CN"

theorem ok_of_toOption {ε : Type} {x : Except ε α} {a : α} (h : x.toOption = some a) :
    x = .ok a := by
  cases x with
  | error e => cases h
  | ok b => exact congrArg Except.ok (Option.some.inj h)

theorem readText_filedPath : filedTree.readText filedPath = .ok filedText := by
  have hb : 0 ∉ filedPath.bytes ∧ filedPath.bytes ≠ [] ∧ filedPath.isAbsolute ∧
      ¬ greatestPathLength < filedPath.bytes.length := by
    decide
  have hs : filedPath.steps = [.stay, .enter (utf8 "pkg"), .enter (utf8 "s.toml")] := by decide
  have hl : ¬ greatestNameLength < (utf8 "pkg").length ∧
      ¬ greatestNameLength < (utf8 "s.toml").length := by
    decide
  have hnode : filedTree.node? filedPath = .ok (.file (utf8 filedText)) := by
    simp [FileTree.node?, FileTree.resolve, FileTree.resolveAny, hb, hs, resolveSteps, Trail.node,
      lookupEntry, filedTree, hl, Except.map]
  have htext : text? (utf8 filedText) = some filedText := by decide +kernel
  rw [FileTree.readText, hnode]
  simp only [bind, Except.bind, htext]

theorem load_filedPath :
    load filedTree filedEnvironment filedPackage (some filedPath) = .ok filedSettings := by
  have hparse : SettingsFile.parse filedText = .ok filedContents :=
    ok_of_toOption (by decide +kernel)
  have hread : readFile filedTree filedPath = .ok filedContents := by
    rw [readFile, readText_filedPath]
    simp only [hparse]
  have hmerge : (defaults filedPackage).mergeFile filedEnvironment (baseOf filedPath)
      filedContents = .ok filedSettings :=
    ok_of_toOption (by decide +kernel)
  rw [load, bind_eq_ok_iff.2 ⟨_, hread, hmerge⟩]

/-- Overrides that name a pattern, and then others that ask for three workers. -/
def filedOverrides : List Overrides :=
  [{ filenamePattern := some "x_*.rs" }, { workerCount := some 3 }]

/-- A file and two sets of overrides, which set different fields. -/
theorem layering_laws_filedPath :
    load filedTree filedEnvironment filedPackage (some filedPath) = .ok filedSettings ∧
      (∀ o ∈ filedOverrides, ∀ n ∈ o.workerCount, 1 ≤ n) ∧
      filedOverrides.foldl apply filedSettings =
        { filedSettings with filenamePattern := "x_*.rs", workerCount := some 3 } ∧
      ∃ layers, FileLayers filedTree filedEnvironment (some filedPath) layers ∧
        (filedOverrides.foldl apply filedSettings).IsMadeOf filedPackage
          (layers ++ filedOverrides.map Overrides.layer) := by
  have hoverrides : ∀ o ∈ filedOverrides, ∀ n ∈ o.workerCount, 1 ≤ n := by
    simp [filedOverrides]
  exact ⟨load_filedPath, hoverrides, rfl, (layering_laws load_filedPath hoverrides rfl).1⟩

end

end Settings

end SuitePool
