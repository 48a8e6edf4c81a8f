import Mathlib.Data.List.Basic
import Mathlib.Tactic.Common
import SuitePool.CommandLine
import SuitePool.Proofs.Exec

/-!
# The languages that arguments give

Languages are given before the mark behind which everything is a path, either apart, in an argument
of their own, or joined to the name of the option.  A command line that is understood takes the last
of them, however it is given.  Looking it up in advance takes the first that is given apart; if none
is, it goes on behind the mark, among the paths.

## Main definitions

* `Spelling`, `languages`: the languages that are given.
* `behindEscape`: the arguments that are paths.

## Main results

* `language_of_readArguments`, `language_of_readTop`: reading takes the last language.
* `language_of_parse`: the language of a command.
* `languageInAdvance?_eq`: the language that is looked up in advance.
-/

namespace SuitePool.CommandLine

/-! ## Giving languages -/

/-- How a language is given. -/
inductive Spelling where
  /-- In an argument of its own. -/
  | apart
  /-- Behind an equals sign. -/
  | joined
  deriving DecidableEq

/-- **The languages that are given**, in their order, with how they are. -/
def languages : List String → List (Spelling × String)
  | [] => []
  | s :: rest =>
    match look s with
    | .escape => []
    | .long name none =>
      if name = "lang".toList then (rest.head?.toList.map (.apart, ·)) ++ languages rest
      else languages rest
    | .long name (some v) =>
      if name = "lang".toList then (.joined, v) :: languages rest else languages rest
    | _ => languages rest

/-- The arguments behind the mark, if there is one. -/
def behindEscape : List String → List String
  | [] => []
  | s :: rest => if look s = .escape then rest else behindEscape rest

/-! ## Looks -/

/-- A long name without a value is written behind two hyphens. -/
theorem toList_of_look_long {s : String} {name : List Char} (h : look s = .long name none) :
    s.toList = '-' :: '-' :: name := by
  unfold look at h
  split at h
  · cases h
  · next cs hs =>
    split at h
    · next hd =>
      cases h
      exact hs
    · cases h
  · cases h
  · cases h

theorem look_lang_iff {s : String} : look s = .long "lang".toList none ↔ s = "--lang" := by
  constructor
  · intro h
    rw [← String.toList_inj, toList_of_look_long h]
    rfl
  · rintro rfl
    rfl

/-! ## Looking in advance -/

/-- **The language that is looked up in advance** is the first that is given apart; behind the mark
it is looked for if there is none. -/
theorem languageInAdvance?_eq (arguments : List String) :
    languageInAdvance? arguments =
      (((languages arguments).find? (·.1 = .apart)).map (·.2) <|>
        languageInAdvance? (behindEscape arguments)) := by
  induction arguments with
  | nil => rfl
  | cons s rest ih =>
    rw [languageInAdvance?, languages, behindEscape]
    by_cases hs : s = "--lang"
    · subst hs
      have hlook : look "--lang" = .long "lang".toList none := rfl
      rw [if_pos rfl, hlook]
      cases rest with
      | nil => rfl
      | cons v rest => simp
    · rw [if_neg hs]
      cases hlook : look s with
      | escape => simp
      | long name value =>
        cases value with
        | none =>
          -- Another option, whatever its value.
          have hname : name ≠ "lang".toList := by
            rintro rfl
            exact hs (look_lang_iff.1 hlook)
          simp only [if_neg hname]
          simpa using ih
        | some v =>
          by_cases hname : name = "lang".toList
          · simp only [if_pos hname]
            simpa using ih
          · simp only [if_neg hname]
            simpa using ih
      | short names => simpa using ih
      | word w => simpa using ih

/-! ## What went well -/

variable {α β : Type} {b : β}

theorem ok_of_map {x : Except Refusal α} {f : α → β} (h : x.map f = .ok b) :
    ∃ a, x = .ok a ∧ f a = b := by
  cases x with
  | error e => cases h
  | ok a =>
    cases h
    exact ⟨a, rfl, rfl⟩

/-! ## Options -/

variable {level : Level} {o o' : Options} {next : Next}

theorem longOption?_eq_language_iff {name : List Char} {opt : Opt}
    (h : longOption? level name = some opt) : opt = .language ↔ name = "lang".toList := by
  have hnames : ∀ n ∈ longNames, n.2 = .language ↔ n.1 = "lang" := by decide
  obtain ⟨⟨n, opt⟩, hfind, rfl⟩ := Option.map_eq_some_iff.1 h
  have hn : n.toList = name ∧ opt.allowedAt level = true := by
    simpa using List.find?_some hfind
  rw [← hn.1, String.toList_inj]
  exact hnames _ (List.mem_of_find?_eq_some hfind)

theorem shortOption?_ne_language {name : Char} {opt : Opt}
    (h : shortOption? level name = some opt) : opt ≠ .language := by
  have hnames : ∀ n ∈ shortNames, n.2 ≠ .language := by decide
  obtain ⟨⟨n, opt⟩, hfind, rfl⟩ := Option.map_eq_some_iff.1 h
  exact hnames _ (List.mem_of_find?_eq_some hfind)

theorem eq_of_once_map {old new : Option α} {f : Option α → Options}
    (h : (once old new).map f = .ok o') : o' = f new := by
  unfold once at h
  split at h
  · cases h
    rfl
  · cases h

/-- Only the language itself sets a language. -/
theorem language_of_setValue {s : String} {opt : Opt} (h : setValue o s opt = .ok o') :
    o'.language = if opt = .language then some s else o.language := by
  cases opt with
  | language | config | pattern | workers =>
    rw [eq_of_once_map h]
    rfl
  | modulePath =>
    simp only [setValue] at h
    split at h
    · cases h
      rfl
    · cases h
  | forked | sequential | help | version => cases h

theorem language_of_setFlag {opt : Opt} (h : setFlag o opt = .ok o') :
    o'.language = o.language := by
  cases opt with
  | forked | sequential =>
    simp only [setFlag] at h
    split_ifs at h
    cases h
    rfl
  | language | config | pattern | workers | modulePath | help | version => cases h

theorem language_of_addPath {s : String} (h : addPath level o s = .ok o') :
    o'.language = o.language := by
  simp only [addPath] at h
  split at h <;> cases h
  rfl

/-! ## Reading arguments -/

/-- The language that the next argument is, if it is awaited. -/
def pending : Next → List String → List String
  | .valueOf .language, s :: _ => [s]
  | _, _ => []

/-- **The languages that are still given**, if an argument is awaited or not. -/
def given (next : Next) (arguments : List String) : List String :=
  pending next arguments ++ (languages arguments).map (·.2)

theorem given_ready (arguments : List String) :
    given .ready arguments = (languages arguments).map (·.2) := by
  cases arguments <;> rfl

theorem given_valueOf_of_ne {opt : Opt} (h : opt ≠ .language) (arguments : List String) :
    given (.valueOf opt) arguments = given .ready arguments := by
  cases opt with
  | language => exact absurd rfl h
  | config | pattern | modulePath | workers | forked | sequential | help | version => rfl

theorem getLast?_or_cons (s : String) (ss : List String) (old : Option String) :
    (s :: ss).getLast?.or old = ss.getLast?.or (some s) := by
  rw [List.getLast?_cons, Option.some_or]
  cases ss.getLast? <;> rfl

/-- **Reading a long option** leaves the languages that are still given. -/
theorem given_of_readLong {s : String} {name : List Char} {value : Option String}
    (hlook : look s = .long name value) (h : readLong level o name value = .ok (o', next))
    (rest : List String) :
    (given .ready (s :: rest)).getLast?.or o.language =
      (given next rest).getLast?.or o'.language := by
  rw [given_ready, languages, hlook]
  unfold readLong at h
  cases hopt : longOption? level name with
  | none => rw [hopt] at h; cases h
  | some opt =>
    have hname := longOption?_eq_language_iff hopt
    rw [hopt] at h
    cases value with
    | none =>
      dsimp only at h ⊢
      split_ifs at h with htakes
      · cases h
        by_cases ho : opt = .language
        · rw [if_pos (hname.1 ho), ho]
          cases rest <;> rfl
        · rw [if_neg (hname.not.1 ho), given_valueOf_of_ne ho]
          rfl
      · have ho : opt ≠ .language := by
          rintro rfl
          exact htakes rfl
        obtain ⟨o₁, hset, he⟩ := ok_of_map h
        cases he
        rw [if_neg (hname.not.1 ho), language_of_setFlag hset]
        rfl
    | some v =>
      dsimp only at h ⊢
      split_ifs at h with htakes
      obtain ⟨o₁, hset, he⟩ := ok_of_map h
      cases he
      rw [language_of_setValue hset]
      by_cases ho : opt = .language
      · rw [if_pos (hname.1 ho), if_pos ho, List.map_cons, getLast?_or_cons]
        rfl
      · rw [if_neg (hname.not.1 ho), if_neg ho]
        rfl

/-- **Reading short options** leaves them as well, since none of these is the language. -/
theorem given_of_readShort {names : List Char} (h : readShort level o names = .ok (o', next))
    (rest : List String) :
    (given .ready rest).getLast?.or o.language = (given next rest).getLast?.or o'.language := by
  induction names generalizing o with
  | nil => cases h; rfl
  | cons c cs ih =>
    rw [readShort.eq_def] at h
    dsimp only at h
    cases hopt : shortOption? level c with
    | none => rw [hopt] at h; cases h
    | some opt =>
      have ho := shortOption?_ne_language hopt
      rw [hopt] at h
      dsimp only at h
      split_ifs at h with htakes
      · -- The option takes the rest as its value, or awaits one.
        split at h
        · cases h
          rw [given_valueOf_of_ne ho]
        · obtain ⟨o₁, hset, he⟩ := ok_of_map h
          cases he
          rw [language_of_setValue hset, if_neg ho]
        · obtain ⟨o₁, hset, he⟩ := ok_of_map h
          cases he
          rw [language_of_setValue hset, if_neg ho]
      · obtain ⟨o₁, hset, h⟩ := bind_eq_ok_iff.1 h
        rw [← language_of_setFlag hset]
        exact ih h

theorem look_word {s w : String} (h : look s = .word w) : w = s := by
  unfold look at h
  split at h
  · cases h
  · split at h <;> cases h
  · cases h
  · cases h
    rfl

theorem given_short {s : String} {names : List Char} (h : look s = .short names)
    (rest : List String) : given .ready (s :: rest) = given .ready rest := by
  rw [given, given, languages, h]
  rfl

theorem given_word {s w : String} (h : look s = .word w) (rest : List String) :
    given .ready (s :: rest) = given .ready rest := by
  rw [given, given, languages, h]
  rfl

/-- **Reading an awaited value** leaves them, too. -/
theorem given_of_setValue {s w : String} {opt : Opt} (hlook : look s = .word w)
    (h : setValue o w opt = .ok o') (rest : List String) :
    (given (.valueOf opt) (s :: rest)).getLast?.or o.language =
      (given .ready rest).getLast?.or o'.language := by
  rw [language_of_setValue h, look_word hlook]
  by_cases ho : opt = .language
  · subst ho
    have hgiven : given (.valueOf .language) (s :: rest) = s :: given .ready (s :: rest) := rfl
    rw [if_pos rfl, hgiven, getLast?_or_cons, given_word hlook]
  · rw [if_neg ho, given_valueOf_of_ne ho, given_word hlook]

/-- Paths give no language. -/
theorem language_of_foldlM_addPath {paths : List String}
    (h : paths.foldlM (addPath level) o = .ok o') : o'.language = o.language := by
  induction paths generalizing o with
  | nil => cases h; rfl
  | cons s paths ih =>
    rw [List.foldlM_cons] at h
    obtain ⟨o₁, hadd, h⟩ := bind_eq_ok_iff.1 h
    rw [ih h, language_of_addPath hadd]

/-- **Reading behind the name of a command** takes the last language. -/
theorem language_of_readArguments {verb : Verb} {arguments : List String}
    (h : readArguments verb o arguments next = .ok o') :
    o'.language = (given next arguments).getLast?.or o.language := by
  induction arguments generalizing o next with
  | nil =>
    cases next with
    | ready => cases h; rfl
    | valueOf opt => cases h
  | cons s rest ih =>
    rw [readArguments.eq_def] at h
    dsimp only at h
    cases next with
    | ready =>
      cases hlook : look s with
      | escape =>
        rw [hlook] at h
        rw [language_of_foldlM_addPath h, given, languages, hlook]
        rfl
      | long name value =>
        rw [hlook] at h
        obtain ⟨⟨o₁, next⟩, hread, h⟩ := bind_eq_ok_iff.1 h
        rw [ih h, given_of_readLong hlook hread]
      | short names =>
        rw [hlook] at h
        obtain ⟨⟨o₁, next⟩, hread, h⟩ := bind_eq_ok_iff.1 h
        rw [ih h, given_short hlook, given_of_readShort hread]
      | word w =>
        rw [hlook] at h
        obtain ⟨o₁, hadd, h⟩ := bind_eq_ok_iff.1 h
        rw [ih h, given_word hlook, language_of_addPath hadd]
    | valueOf opt =>
      cases hlook : look s with
      | escape | long | short => rw [hlook] at h; cases h
      | word w =>
        rw [hlook] at h
        obtain ⟨o₁, hset, h⟩ := bind_eq_ok_iff.1 h
        rw [ih h, given_of_setValue hlook hset]

/-- **Reading up to the name of a command**, and behind it, takes the last language. -/
theorem language_of_readTop {o : Except Refusal Options} {arguments : List String} {c : Command}
    (h : readTop o arguments next = .ok c) :
    ∃ o', o = .ok o' ∧
      c.options.language = (given next arguments).getLast?.or o'.language := by
  induction arguments generalizing o next with
  | nil => cases h
  | cons s rest ih =>
    rw [readTop.eq_def] at h
    dsimp only at h
    cases next with
    | ready =>
      cases hlook : look s with
      | escape => rw [hlook] at h; cases h
      | long name value =>
        rw [hlook] at h
        dsimp only at h
        obtain ⟨o₁, ho, h⟩ := bind_eq_ok_iff.1 h
        obtain ⟨⟨o₂, next⟩, hread, h⟩ := bind_eq_ok_iff.1 h
        obtain ⟨o₃, he, h⟩ := ih h
        cases he
        exact ⟨o₁, ho, by rw [h, given_of_readLong hlook hread]⟩
      | short names =>
        rw [hlook] at h
        dsimp only at h
        obtain ⟨o₁, ho, h⟩ := bind_eq_ok_iff.1 h
        obtain ⟨⟨o₂, next⟩, hread, h⟩ := bind_eq_ok_iff.1 h
        obtain ⟨o₃, he, h⟩ := ih h
        cases he
        exact ⟨o₁, ho, by rw [h, given_short hlook, given_of_readShort hread]⟩
      | word w =>
        rw [hlook] at h
        dsimp only at h
        cases hv : verb? w with
        | none => rw [hv] at h; cases h
        | some verb =>
          -- The arguments behind the name are read before the language in front of it counts.
          rw [hv] at h
          obtain ⟨inner, hread, h⟩ := bind_eq_ok_iff.1 h
          obtain ⟨outer, ho, h⟩ := bind_eq_ok_iff.1 h
          cases h
          have hinner : inner.language = (given .ready rest).getLast? :=
            (language_of_readArguments hread).trans Option.or_none
          refine ⟨outer, ho, ?_⟩
          rw [given_word hlook, ← hinner]
          exact Option.orElse_eq_or
    | valueOf opt =>
      cases hlook : look s with
      | escape | long | short => rw [hlook] at h; cases h
      | word w =>
        rw [hlook] at h
        obtain ⟨o₁, hset, hc⟩ := ih h
        obtain ⟨o₂, ho, hset⟩ := bind_eq_ok_iff.1 hset
        exact ⟨o₂, ho, by rw [hc, given_of_setValue hlook hset]⟩

/-- **The language of a command** is the last that is given. -/
theorem language_of_parse {arguments : List String} {c : Command}
    (h : parse arguments = .ok c) :
    c.options.language = (languages arguments).getLast?.map (·.2) := by
  obtain ⟨o, ho, h⟩ := language_of_readTop h
  cases ho
  rw [h, given_ready, List.getLast?_map]
  exact Option.or_none

end SuitePool.CommandLine
