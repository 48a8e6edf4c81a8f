import Mathlib.Data.List.Basic
import Mathlib.Tactic.Common
import SuitePool.Program
import SuitePool.Proofs.Language.Given
import SuitePool.Proofs.RealPaths

/-!
# The language of messages

The program asks for a language on its command line, in its settings file, or by its environment,
in this order.  What is written before the settings are known, and what is written of a run, is
written in the language that is looked up in advance, where there is one.  This is the one that is
asked for exactly if both readings of the command line come to the same, as they do if a language is
given at most once and in an argument of its own, and none is among the paths instead.

## Main definitions

* `Invocation.runTestsIn`: running tests, with a language for the messages.
* `Invocation.SpeaksAsAsked`: all messages are in the language that is asked for.
* `CommandLine.IsPlain`: languages that are given plainly.

## Main results

* `Invocation.speaksAsAsked_of_eq`: readings that come to the same.
* `Invocation.exists_settings_error`: settings that cannot be loaded.
* `Invocation.speaksAsAsked_iff`: when messages are in the language that is asked for.
-/

namespace SuitePool

open Text

variable {σ : Type}

/-! ## Choosing -/

/-- What is the same for all defaults is the same. -/
theorem eq_of_getD_eq {a b : Option Locale} (h : ∀ l, a.getD l = b.getD l) : a = b := by
  have henglish := h .english
  have hchinese := h .chinese
  cases a with
  | none =>
    cases b with
    | none => rfl
    | some l => exact absurd (henglish.trans hchinese.symm) (by decide)
  | some l =>
    cases b with
    | none => exact absurd (henglish.symm.trans hchinese) (by decide)
    | some l' => exact congrArg some henglish

theorem Locale.choose_eq (preferred : Option String) (env : Environment) :
    choose preferred env = (preferred.map ofTag).getD (choose none env) := by
  cases preferred <;> rfl

/-- Every language is that of some environment. -/
theorem Locale.exists_choose_none (l : Locale) : ∃ env, choose none env = l := by
  cases l with
  | english => exact ⟨[], by decide +kernel⟩
  | chinese => exact ⟨[("LANG", "zh-CN")], by decide +kernel⟩

namespace Invocation

variable {i : Invocation σ} {c : Command}

/-! ## What is asked for -/

/-- **Running tests** with messages in a language. -/
def runTestsIn [Wording] (i : Invocation σ) (l : Locale) (s : Session σ) (o : Options) : Outcome :=
  let forked := !o.sequential
  let announcement := if forked then .runningForked s.poolSize else .runningHere
  let first := Style.cyan.paint i.colours (l.say announcement) ++ "\n"
  let (s, report) := s.runTests o.paths (some forked)
  conclude report (first ++ noticeText s.notices) (reportOutcome i.colours l)

/-- What is said when the settings cannot be loaded. -/
def notLoaded (l : Locale) (e : Error) : Outcome :=
  ⟨failureCode, [], errorLine (l.say .settingsNotLoaded ++ ": " ++ e.message)⟩

/-- **Are all messages in the language that is asked for** by a command, or else by the settings
file, or else by the environment? -/
structure SpeaksAsAsked [Wording] (i : Invocation σ) (c : Command) : Prop where
  /-- If the settings cannot be loaded, it is said so in the language of the command. -/
  unsettled : ∀ e, i.settings c.options = .error e →
    i.run = notLoaded (Locale.choose c.options.language i.environment) e
  /-- Otherwise tests are run in the language of the command, or in that of the settings file. -/
  settled : ∀ file settings, c.verb = .run →
    Settings.load i.tree i.environment i.registry.root (i.settingsFile c.options) = .ok file →
    i.settings c.options = .ok settings →
    i.run = i.runTestsIn (Locale.choose (c.options.language <|> file.language) i.environment)
      (i.session settings) c.options

theorem run_of_unsettled [Wording] (hparse : CommandLine.parse i.arguments = .ok c)
    (hverb : c.verb ≠ .worker) {e : Error} (hs : i.settings c.options = .error e) :
    i.run = notLoaded i.firstLocale e := by
  rw [run, hparse]
  show i.runCommand c = _
  rw [runCommand]
  cases hv : c.verb with
  | worker => exact absurd hv hverb
  | find | discover | run => simp only [withSession, hs, notLoaded]

theorem run_of_settled [Wording] (hparse : CommandLine.parse i.arguments = .ok c)
    (hv : c.verb = .run) {settings : Settings} (hs : i.settings c.options = .ok settings) :
    i.run = i.runTestsIn (i.locale settings) (i.session settings) c.options := by
  rw [run, hparse]
  show i.runCommand c = _
  simp only [runCommand, hv, withSession, hs]
  rfl

/-- The command line comes before the settings file. -/
theorem language_of_settings [Wording] {o : Options} {file settings : Settings}
    (hfile : Settings.load i.tree i.environment i.registry.root (i.settingsFile o) = .ok file)
    (hs : i.settings o = .ok settings) :
    settings.language = (o.language <|> file.language) := by
  rw [Invocation.settings, hfile] at hs
  cases hs
  rfl

/-! ## Readings that come to the same -/

/-- **Readings of the command line that come to the same** let all messages be as asked. -/
theorem speaksAsAsked_of_eq [Wording] (hparse : CommandLine.parse i.arguments = .ok c)
    (hverb : c.verb ≠ .worker)
    (h : (CommandLine.languageInAdvance? i.arguments).map Locale.ofTag =
      c.options.language.map Locale.ofTag) : i.SpeaksAsAsked c := by
  have hfirst : i.firstLocale = Locale.choose c.options.language i.environment := by
    rw [firstLocale, Locale.choose_eq, h, ← Locale.choose_eq]
  constructor
  · intro e hs
    rw [run_of_unsettled hparse hverb hs, hfirst]
  · intro file settings hv hfile hs
    rw [run_of_settled hparse hv hs, locale, language_of_settings hfile hs, hfirst]
    -- Only where no language is found in advance, that of the settings file counts.
    cases hp : CommandLine.languageInAdvance? i.arguments with
    | none =>
      rw [hp, Option.map_none, eq_comm, Option.map_eq_none_iff] at h
      rw [h]
      cases file.language <;> rfl
    | some tag =>
      rw [hp, Option.map_some, eq_comm, Option.map_eq_some_iff] at h
      obtain ⟨asked, hc, -⟩ := h
      rw [hc]
      rfl

/-! ## Settings that cannot be loaded -/

/-- A tree whose only file is a settings file that is no text. -/
def brokenTree : FileTree := ⟨[(utf8 "TestFleet.toml", .file [0xFF])], []⟩

/-- In this tree there is nothing but its top and the file. -/
theorem node_brokenTree {trail : Trail} (h : trail.IsReal brokenTree.top) :
    trail.node brokenTree.top = .directory brokenTree.top ∨
      trail.node brokenTree.top = .file [0xFF] := by
  induction h with
  | root => exact .inl rfl
  | @enter trail entries n node ht hd hn hl hp hs ih =>
    right
    rcases ih with ih | ih
    · rw [hd] at ih
      cases ih
      obtain ⟨entry, hfind, rfl⟩ := Option.map_eq_some_iff.1 hn
      rw [List.mem_singleton.1 (List.mem_of_find?_eq_some hfind)]
      rfl
    · rw [hd] at ih
      cases ih

/-- So there is nothing to be read. -/
theorem readText_brokenTree (p : Path) : ∃ e, brokenTree.readText p = .error e := by
  have hhere : brokenTree.HasPlainHere := fun n hn => nomatch hn
  rw [FileTree.readText, FileTree.node?]
  cases hr : brokenTree.resolve true p with
  | error e => exact ⟨e, rfl⟩
  | ok trail =>
    have hany : brokenTree.resolveAny true p = .ok trail := by
      rw [FileTree.resolve] at hr
      split_ifs at hr
      exact hr
    have htext : text? [0xFF] = none := by decide +kernel
    rcases node_brokenTree (FileTree.isReal_of_resolveAny hhere hany) with hn | hn
    · exact ⟨.isDirectory, by simp only [Except.map, Bind.bind, Except.bind, hn]⟩
    · exact ⟨.notUtf8, by simp only [Except.map, Bind.bind, Except.bind, hn, htext]⟩

theorem isFile_brokenTree : brokenTree.isFile defaultSettingsFile = true := by
  have hb : 0 ∉ defaultSettingsFile.bytes ∧ defaultSettingsFile.bytes ≠ [] ∧
      defaultSettingsFile.isAbsolute = false ∧
      ¬ greatestPathLength < defaultSettingsFile.bytes.length := by
    decide +kernel
  have hs : defaultSettingsFile.steps = [.enter (utf8 "TestFleet.toml")] := by decide +kernel
  have hl : ¬ greatestNameLength < (utf8 "TestFleet.toml").length := by decide +kernel
  have ha : lookupEntry (utf8 "TestFleet.toml") brokenTree.top = some (.file [0xFF]) := rfl
  have hw : brokenTree.workingTrail = [] := by
    simp [FileTree.workingTrail, brokenTree, resolveSteps]
  simp only [FileTree.isFile, FileTree.node?, FileTree.resolve, FileTree.resolveAny, hb, hs, hw,
    resolveSteps, Trail.node, hl, ha, if_false, Bool.false_eq_true]
  rfl

/-- An invocation in this tree. -/
def unsettledInvocation (arguments : List String) (env : Environment) : Invocation Unit where
  arguments := arguments
  environment := env
  tree := brokenTree
  registry := .empty (.ofString "/pkg")
  input := []
  processors := 1

/-- **Its settings cannot be loaded**, whatever file is named. -/
theorem exists_settings_error [Wording] (arguments : List String) (env : Environment)
    (o : Options) :
    ∃ e, (unsettledInvocation arguments env).settings o = .error e := by
  obtain ⟨path, hpath⟩ : ∃ path,
      (unsettledInvocation arguments env).settingsFile o = some path := by
    rw [settingsFile]
    cases o.config with
    | some path => exact ⟨path, rfl⟩
    | none => exact ⟨defaultSettingsFile, if_pos isFile_brokenTree⟩
  obtain ⟨e, he⟩ := readText_brokenTree path
  have hread : Settings.readFile brokenTree path = .error (.unreadable e) := by
    rw [Settings.readFile, he]
  have hload : Settings.load brokenTree env (.ofString "/pkg") (some path) =
      .error (.config path (SettingsError.unreadable e).message) := by
    rw [Settings.load, hread]
    rfl
  refine ⟨.config path (SettingsError.unreadable e).message, ?_⟩
  rw [settings, hpath]
  show Settings.load brokenTree env (.ofString "/pkg") (some path) >>= _ = _
  rw [hload]
  rfl

/-- What is said then tells the language. -/
theorem notLoaded_injective {l l' : Locale} {e : Error} (h : notLoaded l e = notLoaded l' e) :
    l = l' := by
  have herrors := congrArg (String.toList ∘ Outcome.errors) h
  have hsay : (l.say .settingsNotLoaded).toList = (l'.say .settingsNotLoaded).toList := by
    simpa [notLoaded, errorLine] using herrors
  cases l with
  | english =>
    cases l' with
    | english => rfl
    | chinese => exact absurd hsay (by decide +kernel)
  | chinese =>
    cases l' with
    | english => exact absurd hsay (by decide +kernel)
    | chinese => rfl

/-- So an invocation whose settings cannot be loaded tells both readings of its command line. -/
theorem SpeaksAsAsked.choose_eq [Wording] {arguments : List String} {env : Environment}
    {c : Command} (h : (unsettledInvocation arguments env).SpeaksAsAsked c)
    (hparse : CommandLine.parse arguments = .ok c) (hverb : c.verb ≠ .worker) :
    Locale.choose (CommandLine.languageInAdvance? arguments) env =
      Locale.choose c.options.language env := by
  obtain ⟨e, he⟩ := exists_settings_error arguments env c.options
  have hparse' : CommandLine.parse (unsettledInvocation arguments env).arguments = .ok c := hparse
  have hrun := h.unsettled e he
  rw [run_of_unsettled hparse' hverb he] at hrun
  exact notLoaded_injective hrun

end Invocation

/-! ## Languages that are given plainly -/

/-- **Is a language given plainly?**  It is given at most once, in an argument of its own, and if it
is not given none is found among the paths. -/
structure CommandLine.IsPlain (arguments : List String) : Prop where
  apart : ∀ g ∈ languages arguments, g.1 = .apart
  once : (languages arguments).length ≤ 1
  notBehind : languages arguments = [] → languageInAdvance? (behindEscape arguments) = none

/-- Both readings find a language that is given plainly. -/
theorem CommandLine.IsPlain.languageInAdvance?_eq {arguments : List String} {c : Command}
    (h : IsPlain arguments) (hparse : parse arguments = .ok c) :
    languageInAdvance? arguments = c.options.language := by
  rw [CommandLine.languageInAdvance?_eq, language_of_parse hparse]
  obtain ⟨hapart, honce, hbehind⟩ := h
  cases hl : languages arguments with
  | nil => rw [hbehind hl]; rfl
  | cons g gs =>
    obtain ⟨spelling, v⟩ := g
    rw [hl] at hapart honce
    obtain rfl : gs = [] := List.eq_nil_of_length_eq_zero (by simpa using honce)
    obtain rfl : spelling = .apart := hapart _ (List.mem_singleton_self _)
    rfl

namespace Invocation

/-- **When messages are in the language that is asked for.**  A command takes the last language that
is given, and the first that is given apart is found in advance, or else what looks like one among
the paths.  All messages of all invocations with these arguments are as asked exactly if both come
to the same; and so they do if a language is given plainly. -/
theorem speaksAsAsked_iff [Wording] {arguments : List String} {c : Command}
    (hparse : CommandLine.parse arguments = .ok c) (hverb : c.verb ≠ .worker) :
    c.options.language = (CommandLine.languages arguments).getLast?.map (·.2) ∧
    CommandLine.languageInAdvance? arguments =
      (((CommandLine.languages arguments).find? (·.1 = .apart)).map (·.2) <|>
        CommandLine.languageInAdvance? (CommandLine.behindEscape arguments)) ∧
    ((∀ (σ : Type) (i : Invocation σ), i.arguments = arguments → i.SpeaksAsAsked c) ↔
      (CommandLine.languageInAdvance? arguments).map Locale.ofTag =
        c.options.language.map Locale.ofTag) ∧
    (CommandLine.IsPlain arguments →
      ∀ (σ : Type) (i : Invocation σ), i.arguments = arguments → i.SpeaksAsAsked c) := by
  have hagree (h : (CommandLine.languageInAdvance? arguments).map Locale.ofTag =
      c.options.language.map Locale.ofTag) (σ : Type) (i : Invocation σ)
      (hi : i.arguments = arguments) : i.SpeaksAsAsked c := by
    subst hi
    exact speaksAsAsked_of_eq hparse hverb h
  refine ⟨CommandLine.language_of_parse hparse, CommandLine.languageInAdvance?_eq arguments,
    ⟨fun h => ?_, hagree⟩, fun hplain => hagree ?_⟩
  · -- Whatever the environment asks for, both readings come to one language.
    have hdefault (l : Locale) :
        ((CommandLine.languageInAdvance? arguments).map Locale.ofTag).getD l =
          (c.options.language.map Locale.ofTag).getD l := by
      obtain ⟨env, rfl⟩ := l.exists_choose_none
      rw [← Locale.choose_eq, ← Locale.choose_eq]
      exact (h Unit (unsettledInvocation arguments env) rfl).choose_eq hparse hverb
    exact eq_of_getD_eq hdefault
  · rw [hplain.languageInAdvance?_eq hparse]

open scoped Terse in
/-- A language in an argument of its own. -/
theorem speaksAsAsked_apart :
    CommandLine.parse ["--lang", "zh-CN", "run"] =
        .ok ⟨.run, { Options.none with language := some "zh-CN" }⟩ ∧
      (unsettledInvocation ["--lang", "zh-CN", "run"] []).SpeaksAsAsked
        ⟨.run, { Options.none with language := some "zh-CN" }⟩ := by
  have hparse : CommandLine.parse ["--lang", "zh-CN", "run"] =
      .ok ⟨.run, { Options.none with language := some "zh-CN" }⟩ := rfl
  have hplain : CommandLine.IsPlain ["--lang", "zh-CN", "run"] :=
    ⟨by decide +kernel, by decide +kernel, by decide +kernel⟩
  exact ⟨hparse, (speaksAsAsked_iff hparse (by decide)).2.2.2 hplain Unit _ rfl⟩

open scoped Terse in
/-- A language that is joined to its option is not found in advance, and what looks like a language
among the paths is. -/
theorem not_speaksAsAsked :
    (CommandLine.parse ["find", "--lang=zh-CN"] =
        .ok ⟨.find, { Options.none with language := some "zh-CN" }⟩ ∧
      ¬ (unsettledInvocation ["find", "--lang=zh-CN"] []).SpeaksAsAsked
        ⟨.find, { Options.none with language := some "zh-CN" }⟩) ∧
    CommandLine.parse ["find", "--", "--lang", "zh-CN"] =
        .ok ⟨.find, { Options.none with paths := [.ofString "--lang", .ofString "zh-CN"] }⟩ ∧
      ¬ (unsettledInvocation ["find", "--", "--lang", "zh-CN"] []).SpeaksAsAsked
        ⟨.find, { Options.none with paths := [.ofString "--lang", .ofString "zh-CN"] }⟩ := by
  refine ⟨⟨rfl, fun h => ?_⟩, rfl, fun h => ?_⟩
  · exact absurd (h.choose_eq rfl (by decide)) (by decide +kernel)
  · exact absurd (h.choose_eq rfl (by decide)) (by decide +kernel)

end Invocation

end SuitePool
