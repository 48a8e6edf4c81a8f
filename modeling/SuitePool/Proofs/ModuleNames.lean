import Mathlib.Data.List.Basic
import Mathlib.Tactic.Common
import SuitePool.Discovery
import SuitePool.Proofs.RealPaths
import SuitePool.Proofs.Text.Encoding

/-!
# Files and the modules they name

Below one root, the name of a module tells its file: the parts of the name are identifiers, so they
hold no dot and are the names of the directories as they are written, and what the last part lacks
is the extension that all suite files have.

## Main definitions

* `LiesBelow`: a file properly below a root.

## Main results

* `dropExtension_append`, `dropExtension_of_not_mem`: a name without its extension.
* `bytes_of_isIdentifier`: what is shown as an identifier is written as one.
* `nameParts_injective`: the parts of a name tell the components of the file.
* `Registry.moduleOfFile_injective`: two files do not name one module.
-/

namespace SuitePool

open Text SuitePool.Path

/-! ## Identifiers -/

theorem isAscii_of_isIdentifierPart {c : Char} (h : isIdentifierPart c = true) :
    c.toNat < 0x80 ∧ c ≠ '.' := by
  constructor
  · simp only [isIdentifierPart, isIdentifierStart, Bool.or_eq_true, Bool.and_eq_true,
      decide_eq_true_eq, beq_iff_eq, Char.le_def, UInt32.le_iff_toNat_le] at h
    rcases h with ((⟨-, h⟩ | ⟨-, h⟩) | rfl) | ⟨-, h⟩
    · exact Nat.lt_of_le_of_lt h (by decide)
    · exact Nat.lt_of_le_of_lt h (by decide)
    · decide
    · exact Nat.lt_of_le_of_lt h (by decide)
  · rintro rfl
    exact absurd h (by decide)

theorem isIdentifierPart_of_mem {cs : List Char} (h : isIdentifier cs = true) :
    ∀ c ∈ cs, isIdentifierPart c = true := by
  cases cs with
  | nil => simp
  | cons c cs =>
    rw [isIdentifier, Bool.and_eq_true] at h
    rw [List.forall_mem_cons]
    exact ⟨by simp [isIdentifierPart, h.1], List.all_eq_true.1 h.2⟩

/-- **What is shown as an identifier is written as one.** -/
theorem bytes_of_isIdentifier {bs : Bytes} (h : isIdentifier (showBytes bs).toList = true) :
    utf8 (showBytes bs) = bs := by
  have ha : Utf8.IsAscii (Utf8.decodeLossy bs) := by
    intro c hc
    refine (isAscii_of_isIdentifierPart (isIdentifierPart_of_mem h c ?_)).1
    simpa [showBytes] using hc
  rw [utf8, showBytes, String.toList_ofList]
  -- Each piece of the bytes is read as an ASCII character, so it is one.
  conv_rhs => rw [← Utf8.flatMap_bytes_scan bs]
  rw [Utf8.decodeLossy, Utf8.encode, List.flatMap_map]
  refine List.flatMap_congr fun p hp => (Utf8.bytes_of_toChar_ascii (ha _ ?_)).symm
  exact List.mem_map_of_mem hp

theorem bytes_injective {bs cs : Bytes} (hb : isIdentifier (showBytes bs).toList = true)
    (h : showBytes bs = showBytes cs) : bs = cs := by
  rw [← bytes_of_isIdentifier hb, h, bytes_of_isIdentifier (h ▸ hb)]

theorem dot_not_mem_of_isIdentifier {cs : List Char} (h : isIdentifier cs = true) : '.' ∉ cs :=
  fun hdot => (isAscii_of_isIdentifierPart (isIdentifierPart_of_mem h _ hdot)).2 rfl

/-! ## Components and the parts of a name -/

/-- Only a name is shown as an identifier. -/
theorem eq_name_of_isIdentifier {c : Component}
    (h : isIdentifier (showBytes c.bytes).toList = true) : c = .name c.bytes := by
  cases c with
  | name n => rfl
  | root | here | up => exact absurd h (by decide +kernel)

/-- **Does a component have the extension of a suite file?** -/
def HasExtension (extension : Bytes) (c : Component) : Prop :=
  ∃ n stem, c = .name n ∧ splitExtension n = some (stem, extension)

/-- A name with an extension is its stem, a full stop and the extension. -/
theorem eq_of_splitExtension {n stem extension : Bytes}
    (h : splitExtension n = some (stem, extension)) : n = stem ++ fullStop :: extension := by
  unfold splitExtension at h
  split at h
  · cases h
  · exact (splitLast_eq_some h).1

/-- **The extension of a name is what follows its last full stop**, and what precedes that is left
without it. -/
theorem dropExtension_append {stem extension : Bytes} (hstem : stem ≠ []) (hdot : stem ≠ [fullStop])
    (h : fullStop ∉ extension) : dropExtension (stem ++ fullStop :: extension) = stem := by
  have hsplit : splitExtension (stem ++ fullStop :: extension) = some (stem, extension) := by
    rw [splitExtension, splitLast_append h]
    split
    · next hnil => exact absurd (congrArg Prod.fst (Option.some.inj hnil)) hstem
    · rfl
  simp only [dropExtension, hsplit, if_neg hdot]

/-- **A name has no extension** if no full stop follows its first byte. -/
theorem dropExtension_of_not_mem {b : UInt8} {n : Bytes} (h : fullStop ∉ n) :
    dropExtension (b :: n) = b :: n := by
  have hsplit : splitExtension (b :: n) = none := by
    rw [splitExtension, splitLast, splitLast_eq_none_iff.2 h]
    by_cases hb : b = fullStop <;> simp [hb]
  rw [dropExtension, hsplit]

theorem lastPart_injective {extension : Bytes} {c d : Component} (hc : HasExtension extension c)
    (hd : HasExtension extension d) (hi : isIdentifier (showBytes (lastPart c)).toList = true)
    (h : showBytes (lastPart c) = showBytes (lastPart d)) : c = d := by
  have hstem : ∀ {n stem : Bytes}, splitExtension n = some (stem, extension) →
      isIdentifier (showBytes (lastPart (.name n))).toList = true → lastPart (.name n) = stem := by
    intro n stem hn hi
    simp only [lastPart, dropExtension, hn] at hi ⊢
    split_ifs at hi ⊢
    · exact absurd hi (by decide +kernel)
    · rfl
  obtain ⟨n, stem, rfl, hn⟩ := hc
  obtain ⟨m, stem', rfl, hm⟩ := hd
  -- The stems are what the parts are written as, and the extension is the same.
  have heq := bytes_injective hi h
  rw [hstem hn hi, hstem hm (h ▸ hi)] at heq
  rw [eq_of_splitExtension hn, eq_of_splitExtension hm, heq]

theorem length_nameParts (cs : List Component) : (nameParts cs).length = cs.length := by
  fun_induction nameParts cs with
  | case1 => rfl
  | case2 => rfl
  | case3 c more hne ih => rw [List.length_cons, List.length_cons, ih]

theorem nameParts_ne_nil {cs : List Component} (h : cs ≠ []) : nameParts cs ≠ [] := by
  intro he
  have hlength := length_nameParts cs
  rw [he] at hlength
  exact h (List.length_eq_zero_iff.1 hlength.symm)

/-- **The parts of a name tell the components of the file.** -/
theorem nameParts_injective {extension : Bytes} {cs ds : List Component}
    (hc : ∀ c ∈ cs.getLast?, HasExtension extension c)
    (hd : ∀ d ∈ ds.getLast?, HasExtension extension d)
    (hi : ∀ s ∈ nameParts cs, isIdentifier s.toList = true)
    (h : nameParts cs = nameParts ds) : cs = ds := by
  induction cs generalizing ds with
  | nil =>
    have hl := congrArg List.length h
    rw [length_nameParts, length_nameParts] at hl
    exact (List.length_eq_zero_iff.1 hl.symm).symm
  | cons c cs ih =>
    have hl := congrArg List.length h
    rw [length_nameParts, length_nameParts] at hl
    obtain ⟨d, ds, rfl⟩ := List.exists_cons_of_length_eq_add_one hl.symm
    cases cs with
    | nil =>
      obtain rfl : ds = [] := by simpa using hl
      simp only [nameParts, List.cons.injEq, and_true, List.forall_mem_singleton] at h hi
      rw [lastPart_injective (hc c rfl) (hd d rfl) hi h]
    | cons c' cs =>
      obtain ⟨d', ds, rfl⟩ : ∃ d' ds', ds = d' :: ds' :=
        List.exists_cons_of_length_eq_add_one (by simpa using hl.symm)
      simp only [nameParts, List.cons.injEq, List.forall_mem_cons] at h hi
      have hbytes := bytes_injective hi.1 h.1
      have hcd : c = d := calc
        c = .name c.bytes := eq_name_of_isIdentifier hi.1
        _ = .name d.bytes := congrArg Component.name hbytes
        _ = d := (eq_name_of_isIdentifier (h.1 ▸ hi.1)).symm
      rw [hcd, ih (by simpa using hc) (by simpa using hd) (by simpa [nameParts] using hi.2) h.2]

/-! ## Lying below a root -/

section LiesBelow

variable {t : FileTree} {file root : Path}

/-- **Does a file lie properly below a root?**  The components of the root come first among those of
the file, and more follow. -/
def LiesBelow (t : FileTree) (root file : Path) : Prop :=
  rootComponents t root <+: file.components ∧ rootComponents t root ≠ file.components

theorem depthBelow?_eq_some_iff {depth : Nat} :
    depthBelow? file.components (rootComponents t root) = some depth ↔
      LiesBelow t root file ∧ (rootComponents t root).length = depth := by
  have hproper (h : rootComponents t root <+: file.components) :
      (rootComponents t root).length < file.components.length ↔
        rootComponents t root ≠ file.components :=
    ⟨fun hlt he => by rw [he] at hlt; exact Nat.lt_irrefl _ hlt,
      fun hne => Nat.lt_of_le_of_ne h.length_le fun hl => hne (h.eq_of_length hl)⟩
  rw [depthBelow?, LiesBelow]
  simp only [Bool.and_eq_true, List.isPrefixOf_iff_prefix, decide_eq_true_eq,
    Option.ite_none_right_eq_some, Option.some.injEq]
  rw [and_congr_right hproper]

/-- What a file has below a root. -/
theorem LiesBelow.exists_components (h : LiesBelow t root file) :
    ∃ above last, file.components = rootComponents t root ++ (above ++ [last]) := by
  obtain ⟨⟨below, hbelow⟩, hne⟩ := h
  rcases List.eq_nil_or_concat' below with rfl | ⟨above, last, rfl⟩
  · exact absurd (by simpa using hbelow) hne
  · exact ⟨above, last, hbelow.symm⟩

/-- **The name of a file below a single root** is made of the components behind those of the
root. -/
theorem moduleName_single {name : String} (h : moduleName t file [root] = .ok name) :
    ∃ more, file.components = rootComponents t root ++ more ∧ more ≠ [] ∧
      name = ".".intercalate (nameParts more) ∧
      ∀ s ∈ nameParts more, isIdentifier s.toList = true := by
  rw [moduleName, List.filterMap_cons, List.filterMap_nil] at h
  cases hd : depthBelow? file.components (rootComponents t root) with
  | none => simp [hd] at h
  | some depth =>
    obtain ⟨hbelow, rfl⟩ := depthBelow?_eq_some_iff.1 hd
    obtain ⟨above, last, hc⟩ := hbelow.exists_components
    simp only [hd, List.max?_singleton] at h
    rw [hc, List.drop_left] at h
    split_ifs at h with hi
    exact ⟨above ++ [last], hc, by simp, (Except.ok.inj h).symm, List.all_eq_true.1 hi⟩

end LiesBelow

/-! ## Modules of files -/

namespace Registry

theorem moduleOfFile_eq_ok {t : FileTree} {modulePath : List Path} {file : Path} {name : String}
    (h : moduleOfFile t modulePath file = .ok name) :
    t.isFile file = true ∧ file.extension? = some (utf8 Error.suiteExtension) ∧
      ∃ real, t.realPath? file = some real ∧ moduleName t real modulePath = .ok name := by
  rw [moduleOfFile] at h
  split_ifs at h with hfile hext
  cases hr : t.realPath? file with
  | none => rw [hr] at h; cases h
  | some real =>
    rw [hr] at h
    exact ⟨by simpa using hfile, by simpa using hext, real, rfl, h⟩

/-- The last component of a path has the extension of the path, whatever comes before it. -/
theorem hasExtension_of_extension? {p : Path} {extension : Bytes} {before cs : List Component}
    (h : p.extension? = some extension) (hp : p.components = before ++ cs) (hcs : cs ≠ []) :
    ∀ c ∈ cs.getLast?, HasExtension extension c := by
  intro c hc
  have hlast : p.components.getLast? = some c := by
    rw [hp, List.getLast?_append_of_ne_nil _ hcs]
    exact hc
  rw [Path.extension?, Path.fileName?, hlast] at h
  cases c with
  | root | here | up => cases h
  | name n =>
    simp only [Option.bind_eq_bind, Option.bind_some] at h
    cases hs : splitExtension n with
    | none => rw [hs] at h; cases h
    | some p =>
      rw [hs] at h
      cases h
      exact ⟨n, p.1, rfl, hs⟩

/-- **Two files do not have one name** below one root if they have the same extension. -/
theorem components_eq_of_moduleName {t : FileTree} {root f g : Path} {extension : Bytes}
    {name : String} (hf : f.extension? = some extension) (hg : g.extension? = some extension)
    (hfn : moduleName t f [root] = .ok name) (hgn : moduleName t g [root] = .ok name) :
    f.components = g.components := by
  obtain ⟨more, hc, hne, hn, hi⟩ := moduleName_single hfn
  obtain ⟨more', hc', hne', hn', hi'⟩ := moduleName_single hgn
  have hparts : nameParts more = nameParts more' :=
    intercalate_injective (nameParts_ne_nil hne) (nameParts_ne_nil hne')
      (fun s hs => dot_not_mem_of_isIdentifier (hi s hs))
      (fun s hs => dot_not_mem_of_isIdentifier (hi' s hs)) (hn ▸ hn')
  have hmore : more = more' := nameParts_injective (hasExtension_of_extension? hf hc hne)
    (hasExtension_of_extension? hg hc' hne') hi hparts
  rw [hc, hc', hmore]

/-- **Two files do not name one module** below one root. -/
theorem moduleOfFile_injective {t : FileTree} {root f g : Path} {name : String}
    (hf : t.IsRealPath f) (hg : t.IsRealPath g) (hfn : moduleOfFile t [root] f = .ok name)
    (hgn : moduleOfFile t [root] g = .ok name) : f = g := by
  obtain ⟨hfile, hext, real, hr, hname⟩ := moduleOfFile_eq_ok hfn
  obtain ⟨hfile', hext', real', hr', hname'⟩ := moduleOfFile_eq_ok hgn
  -- The files are their own real paths.
  rw [FileTree.realPath?_of_isRealPath hf (FileTree.zero_not_mem_of_isFile hfile),
    Option.some.injEq] at hr
  rw [FileTree.realPath?_of_isRealPath hg (FileTree.zero_not_mem_of_isFile hfile'),
    Option.some.injEq] at hr'
  subst hr hr'
  exact hf.eq_of_components hg (components_eq_of_moduleName hext hext' hname hname')

end Registry

end SuitePool
