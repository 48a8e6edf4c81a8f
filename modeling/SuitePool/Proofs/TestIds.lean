import Mathlib.Data.List.Basic
import Mathlib.Tactic.Common
import SuitePool.Proofs.Cases.Bound
import SuitePool.Proofs.Cases.Groups
import SuitePool.Proofs.Forked.Discovery
import SuitePool.Proofs.ModuleRoots

/-!
# The grammar of test ids

An id is read in three ways: it is checked by cutting it at every dot, taken apart at its last dot,
and made by joining a module, a suite and a method.  The three agree on the grammar of ids, which is
that of three or more identifiers joined by dots, and so whatever is discovered under names that are
identifiers passes the check.

## Main definitions

* `IsIdentifier`: the grammar of identifiers.
* `IsDotted`: the grammar of identifiers joined by dots.

## Main results

* `isIdentifier_iff`, `isDotted_iff`: what the readers of identifiers and of their parts accept.
* `TestId.exists_split_of_parse?`: how an id that passes the check is taken apart.
* `isDotted_of_moduleName`: a module name is made of identifiers.
* `TestId.grammar_laws`
-/

namespace SuitePool

open Text

/-! ## The grammar -/

/-- **An identifier**: a letter or an underscore, and behind it letters, digits and underscores, all
of them of ASCII. -/
inductive IsIdentifier : String → Prop where
  | intro {first : Char} {rest : List Char} (hfirst : first.isAlpha = true ∨ first = '_')
      (hrest : ∀ c ∈ rest, c.isAlphanum = true ∨ c = '_') :
      IsIdentifier (String.ofList (first :: rest))

/-- **Identifiers joined by single dots**, at least so many of them. -/
def IsDotted (count : Nat) (s : String) : Prop :=
  ∃ names : List String, count ≤ names.length ∧ (∀ n ∈ names, IsIdentifier n) ∧
    s = ".".intercalate names

/-! ## What the readers accept -/

theorem isIdentifierStart_iff {c : Char} :
    isIdentifierStart c = true ↔ c.isAlpha = true ∨ c = '_' := by
  have halpha : c.isAlpha = (decide ('A'.val ≤ c.val ∧ c.val ≤ 'Z'.val) ||
      decide ('a'.val ≤ c.val) && decide (c.val ≤ 'z'.val)) := rfl
  simp only [isIdentifierStart, halpha, Bool.or_eq_true, Bool.and_eq_true, decide_eq_true_eq,
    beq_iff_eq, Char.le_def]
  tauto

theorem isIdentifierPart_iff {c : Char} :
    isIdentifierPart c = true ↔ c.isAlphanum = true ∨ c = '_' := by
  have halphanum : c.isAlphanum =
      (c.isAlpha || decide ('0'.val ≤ c.val) && decide (c.val ≤ '9'.val)) := rfl
  rw [isIdentifierPart, Bool.or_eq_true, isIdentifierStart_iff, halphanum]
  simp only [Bool.or_eq_true, Bool.and_eq_true, decide_eq_true_eq, Char.le_def]
  tauto

/-- **The reader of identifiers accepts the grammar.** -/
theorem isIdentifier_iff {s : String} : isIdentifier s.toList = true ↔ IsIdentifier s := by
  constructor
  · intro h
    cases hs : s.toList with
    | nil => rw [hs] at h; cases h
    | cons first rest =>
      rw [hs, isIdentifier, Bool.and_eq_true, List.all_eq_true] at h
      rw [← String.ofList_toList (s := s), hs]
      exact .intro (isIdentifierStart_iff.1 h.1) fun c hc => isIdentifierPart_iff.1 (h.2 c hc)
  · rintro ⟨hfirst, hrest⟩
    rw [String.toList_ofList, isIdentifier, Bool.and_eq_true, List.all_eq_true]
    exact ⟨isIdentifierStart_iff.2 hfirst, fun c hc => isIdentifierPart_iff.2 (hrest c hc)⟩

theorem IsIdentifier.dot_not_mem {s : String} (h : IsIdentifier s) : '.' ∉ s.toList :=
  dot_not_mem_of_isIdentifier (isIdentifier_iff.2 h)

/-- The parts of names that are joined by dots. -/
theorem parts_intercalate {names : List String} (hne : names ≠ [])
    (h : ∀ n ∈ names, '.' ∉ n.toList) :
    parts '.' (".".intercalate names).toList = names.map String.toList := by
  rw [String.toList_intercalate, show ".".toList = ['.'] from rfl, ← joinWith_eq_intercalate]
  exact parts_joinWith (by simpa using hne) (List.forall_mem_map.2 h)

/-- **A text is made of identifiers** if all parts between its dots are identifiers. -/
theorem isDotted_iff {count : Nat} (hc : 0 < count) {s : String} :
    IsDotted count s ↔ count ≤ (parts '.' s.toList).length ∧
      ∀ part ∈ parts '.' s.toList, isIdentifier part = true := by
  constructor
  · rintro ⟨names, hlength, hnames, rfl⟩
    have hne : names ≠ [] := List.ne_nil_of_length_pos (by omega)
    rw [parts_intercalate hne fun n hn => (hnames n hn).dot_not_mem, List.length_map]
    exact ⟨hlength, List.forall_mem_map.2 fun n hn => isIdentifier_iff.2 (hnames n hn)⟩
  · rintro ⟨hlength, hparts⟩
    refine ⟨(parts '.' s.toList).map String.ofList, by rwa [List.length_map], ?_, ?_⟩
    · refine List.forall_mem_map.2 fun part hp => isIdentifier_iff.1 ?_
      rw [String.toList_ofList]
      exact hparts part hp
    · -- Joining the parts gives the text back.
      rw [← String.toList_inj, String.toList_intercalate, show ".".toList = ['.'] from rfl,
        ← joinWith_eq_intercalate, List.map_map]
      simp [Function.comp_def, joinWith_parts]

namespace TestId

theorem parse?_eq_some_iff {s : String} {id : TestId} :
    parse? s = some id ↔ IsDotted 3 s ∧ id = ⟨s⟩ := by
  rw [parse?, isDotted_iff (by decide)]
  simp only [List.all_eq_true, Option.ite_none_right_eq_some, Option.some.injEq]
  exact and_congr_right fun _ => eq_comm

/-! ## Taking ids apart -/

/-- The parts of a text behind which a dot and a word follow. -/
theorem parts_append_word (s : String) {word : String} (h : '.' ∉ word.toList) :
    parts '.' (s ++ "." ++ word).toList = parts '.' s.toList ++ [word.toList] := by
  rw [String.toList_append, String.toList_append, List.append_assoc,
    show ".".toList = ['.'] from rfl, List.singleton_append, parts_append, parts_of_not_mem h]

/-- **How an id that passes the check is taken apart**: at its last dot, with an identifier behind
it and a dotted path before it. -/
theorem exists_split_of_parse? {s : String} {id : TestId} (h : parse? s = some id) :
    ∃ path method, id.suitePath? = some path ∧ id.method? = some method ∧
      path ++ "." ++ method = s ∧ IsIdentifier method ∧ '.' ∈ path.toList := by
  obtain ⟨hs, rfl⟩ := parse?_eq_some_iff.1 h
  obtain ⟨hlength, hparts⟩ := (isDotted_iff (by decide)).1 hs
  cases hsplit : splitAtLastDot s with
  | none =>
    -- Without a dot there is only one part.
    rw [parts_of_not_mem (splitAtLastDot_eq_none_iff.1 hsplit)] at hlength
    simp at hlength
  | some split =>
    obtain ⟨path, method⟩ := split
    obtain ⟨hdot, rfl⟩ := splitAtLastDot_eq_some_iff.1 hsplit
    rw [parts_append_word path hdot] at hlength hparts
    refine ⟨path, method, by rw [suitePath?, hsplit]; rfl, by rw [method?, hsplit]; rfl, rfl,
      isIdentifier_iff.1 (hparts _ (by simp)), ?_⟩
    by_contra hpath
    rw [parts_of_not_mem hpath] at hlength
    simp at hlength

/-! ## Making ids -/

section OfParts

variable {module suite name module' suite' name' : String}

/-- **An id made of identifiers passes the check.** -/
theorem parse?_ofParts (hm : IsDotted 1 module) (hs : IsIdentifier suite) (hn : IsIdentifier name) :
    parse? (ofParts module suite name).text = some (ofParts module suite name) := by
  refine parse?_eq_some_iff.2 ⟨(isDotted_iff (by decide)).2 ?_, rfl⟩
  obtain ⟨hlength, hparts⟩ := (isDotted_iff (by decide)).1 hm
  rw [ofParts, parts_append_word _ hn.dot_not_mem, parts_append_word _ hs.dot_not_mem]
  constructor
  · simp only [List.length_append, List.length_singleton]
    omega
  · simp only [List.forall_mem_append, List.forall_mem_singleton]
    exact ⟨⟨hparts, isIdentifier_iff.2 hs⟩, isIdentifier_iff.2 hn⟩

theorem suitePath?_ofParts (hn : '.' ∉ name.toList) :
    (ofParts module suite name).suitePath? = some (module ++ "." ++ suite) := by
  rw [suitePath?, splitAtLastDot_ofParts module suite hn, Option.map_some]

theorem method?_ofParts (hn : '.' ∉ name.toList) :
    (ofParts module suite name).method? = some name := by
  rw [method?, splitAtLastDot_ofParts module suite hn, Option.map_some]

/-- **An id tells its module, its suite and its method**, if the last two hold no dot. -/
theorem eq_of_ofParts_eq (hs : '.' ∉ suite.toList) (hs' : '.' ∉ suite'.toList)
    (hn : '.' ∉ name.toList) (hn' : '.' ∉ name'.toList)
    (h : ofParts module suite name = ofParts module' suite' name') :
    module = module' ∧ suite = suite' ∧ name = name' := by
  have hname := splitAtLastDot_ofParts module suite hn
  rw [h, splitAtLastDot_ofParts module' suite' hn', Option.some.injEq, Prod.mk.injEq] at hname
  have hsuite : splitAtLastDot (module ++ "." ++ suite) = some (module, suite) :=
    splitAtLastDot_append hs
  rw [← hname.1, splitAtLastDot_append hs', Option.some.injEq, Prod.mk.injEq] at hsuite
  exact ⟨hsuite.1.symm, hsuite.2.symm, hname.2.symm⟩

end OfParts

end TestId

/-! ## Ids that are discovered -/

/-- **A module name is made of identifiers.** -/
theorem isDotted_of_moduleName {t : FileTree} {file : Path} {roots : List Path} {name : String}
    (h : moduleName t file roots = .ok name) : IsDotted 1 name := by
  by_cases hbelow : ∃ root ∈ roots, LiesBelow t root file
  · obtain ⟨root, hd⟩ := exists_isDeepestRoot hbelow
    obtain ⟨above, last, hc⟩ := hd.below.exists_components
    rw [moduleName_of_isDeepestRoot hd, nameBelow_eq hc] at h
    split_ifs at h with hi
    refine ⟨_, ?_, fun n hn => isIdentifier_iff.1 (hi n hn), (Except.ok.inj h).symm⟩
    simp [length_nameParts]
  · rw [moduleName_of_not_liesBelow (by simpa using hbelow)] at h
    cases h

section Discovered

variable {σ : Type} {r : Registry σ} {h : Host}

/-- The id of a case passes the check if its names are identifiers. -/
theorem TestCase.IsOffered.parse?_id {c : TestCase σ} (hc : c.IsOffered r h)
    (hr : r.HasIdentifierNames) (hm : IsDotted 1 c.module) :
    TestId.parse? c.id.text = some c.id := by
  have hs := hc.hasSuite
  obtain ⟨-, -, -, -, member, hmember, -⟩ := hc
  exact TestId.parse?_ofParts hm (isIdentifier_iff.1 (hr.suites _ hs))
    (isIdentifier_iff.1 (hr.members _ hs _ hmember))

/-- **What is discovered in files passes the check.** -/
theorem Registry.parse?_of_mem_discoverFiles (hr : r.HasIdentifierNames) {t : FileTree}
    {modulePath files : List Path} {ids : List TestId}
    (hd : (r.discoverFiles t h modulePath files).ending = .finished ids) {id : TestId}
    (hid : id ∈ ids) : TestId.parse? id.text = some id := by
  obtain ⟨modules, hmodules, rfl⟩ := discoverFiles_ids hd
  obtain ⟨c, hc, rfl⟩ := List.mem_map.1 hid
  obtain ⟨module, hmodule, hc⟩ := List.mem_flatMap.1 hc
  obtain ⟨rfl, hoffered⟩ := mem_cases_iff.1 hc
  -- The module is that of one of the files.
  obtain ⟨file, -, hfile⟩ := exists_mem_of_forall₂ hmodules _ hmodule
  obtain ⟨-, -, real, -, hname⟩ := moduleOfFile_eq_ok hfile
  exact hoffered.parse?_id hr (isDotted_of_moduleName hname)

end Discovered

/-- **The grammar of test ids.**  Exactly the texts of three or more identifiers joined by dots pass
the check, and such an id is taken apart into an identifier behind its last dot and a path with a
dot before it.  An id made of a dotted module name and two identifiers passes the check and is taken
apart into what it was made of; ids of different members differ whatever the module is, as long as
the names of suite and method hold no dot; and every id that is discovered in files, in a registry
whose suites and members have identifiers for names, passes the check. -/
theorem TestId.grammar_laws :
    (∀ s, (∃ id, parse? s = some id) ↔ IsDotted 3 s) ∧
    (∀ s id, parse? s = some id → id.text = s ∧
      ∃ path method, id.suitePath? = some path ∧ id.method? = some method ∧
        path ++ "." ++ method = s ∧ IsIdentifier method ∧ '.' ∈ path.toList) ∧
    (∀ module suite name, IsDotted 1 module → IsIdentifier suite → IsIdentifier name →
      parse? (ofParts module suite name).text = some (ofParts module suite name) ∧
        (ofParts module suite name).suitePath? = some (module ++ "." ++ suite) ∧
        (ofParts module suite name).method? = some name) ∧
    (∀ module suite name module' suite' name' : String, '.' ∉ suite.toList → '.' ∉ name.toList →
      '.' ∉ suite'.toList → '.' ∉ name'.toList →
        ofParts module suite name = ofParts module' suite' name' →
          module = module' ∧ suite = suite' ∧ name = name') ∧
    (∀ (σ : Type) (r : Registry σ) (t : FileTree) (h : Host) (modulePath files : List Path)
      (ids : List TestId), r.HasIdentifierNames →
        (r.discoverFiles t h modulePath files).ending = .finished ids →
          ∀ id ∈ ids, parse? id.text = some id) := by
  refine ⟨fun s => ?_, fun s id hid => ?_, fun module suite name hm hs hn => ?_,
    fun _ _ _ _ _ _ hs hn hs' hn' he => eq_of_ofParts_eq hs hs' hn hn' he,
    fun σ r t h modulePath files ids hr hd id hid => Registry.parse?_of_mem_discoverFiles hr hd hid⟩
  · simp only [parse?_eq_some_iff, exists_and_left, exists_eq, and_true]
  · obtain ⟨-, rfl⟩ := parse?_eq_some_iff.1 hid
    exact ⟨rfl, exists_split_of_parse? hid⟩
  · exact ⟨parse?_ofParts hm hs hn, suitePath?_ofParts hn.dot_not_mem,
      method?_ofParts hn.dot_not_mem⟩

/-- The id of a suite in a file is discovered, passes the check, and is taken apart. -/
theorem TestId.grammar_laws_soloId :
    filedSite.registry.HasIdentifierNames ∧
      (filedSite.registry.discoverFiles filedSite.tree ⟨none⟩ [soloDirectory] [soloFile]).ending =
        .finished [soloId] ∧
      parse? soloId.text = some soloId ∧ soloId.suitePath? = some "m.Solo" ∧
      soloId.method? = some "test_one" := by
  have hnames : filedSite.registry.HasIdentifierNames := by
    constructor
    · intro s hs
      rw [hasSuite_soloSite hs]
      decide +kernel
    · intro s hs m hm
      rw [hasSuite_soloSite hs] at hm
      rw [List.mem_singleton.1 hm]
      decide +kernel
  have hd : (filedSite.registry.discoverFiles filedSite.tree ⟨none⟩ [soloDirectory]
      [soloFile]).ending = .finished [soloId] := by
    refine (Exec.ending_bind_of_finished (a := [[soloId]]) ?_ _).trans rfl
    rw [List.mapM_cons]
    exact (Exec.ending_bind_of_finished (ending_discoverFile_soloFile ..) _).trans rfl
  obtain ⟨-, -, hmade, -, hdiscovered⟩ := grammar_laws
  have hm : IsDotted 1 "m" := (isDotted_iff (by decide)).2 (by decide +kernel)
  have hs : IsIdentifier "Solo" := isIdentifier_iff.1 (by decide +kernel)
  have hn : IsIdentifier "test_one" := isIdentifier_iff.1 (by decide +kernel)
  exact ⟨hnames, hd, hdiscovered _ _ _ _ _ _ _ hnames hd soloId (List.mem_singleton_self _),
    (hmade _ _ _ hm hs hn).2⟩

/-- An empty part is no identifier, nor is one with a letter that is not of ASCII. -/
example : TestId.parse? "m..test_one" = none ∧ TestId.parse? "m.Solo.tést" = none := by
  decide +kernel

end SuitePool
