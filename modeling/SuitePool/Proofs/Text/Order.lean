import Mathlib.Data.List.Basic
import Mathlib.Tactic.Common
import SuitePool.Proofs.Text.Encoding

/-!
# The order of texts

Texts are ordered by their characters, from the first to the last, and byte strings by their bytes.
UTF-8 keeps the order: of two characters, the one that comes first has the smaller byte where their
forms differ for the first time.

## Main results

* `Utf8.encodeChar_append_lt`: characters.
* `utf8_lt_iff`, `utf8_le_iff`: texts are ordered as their bytes.
-/

namespace SuitePool.Text

namespace Utf8

theorem ofNat_lt_ofNat_iff {m n : Nat} (hm : m < 256) (hn : n < 256) :
    UInt8.ofNat m < UInt8.ofNat n ↔ m < n := by
  rw [UInt8.lt_iff_toNat_lt, toNat_ofNat_of_lt hm, toNat_ofNat_of_lt hn]

theorem ofNat_inj_iff {m n : Nat} (hm : m < 256) (hn : n < 256) :
    UInt8.ofNat m = UInt8.ofNat n ↔ m = n := by
  rw [← UInt8.toNat_inj, toNat_ofNat_of_lt hm, toNat_ofNat_of_lt hn]

/-- **UTF-8 keeps the order of characters**, whatever stands behind them. -/
theorem encodeChar_append_lt {c d : Char} (h : c < d) (xs ys : Bytes) :
    encodeChar c ++ xs < encodeChar d ++ ys := by
  have hcd : c.toNat < d.toNat := h
  have hd : d.toNat < 0x110000 := by
    rcases d.valid with hv | hv
    · exact Nat.lt_trans hv (by decide)
    · exact hv.2
  simp only [encodeChar]
  generalize c.toNat = m at hcd
  generalize d.toNat = n at hcd hd
  -- The first bytes tell forms of different lengths apart; in forms of one length the bytes hold
  -- the digits of the code.
  split_ifs <;> first
    | omega
    | simp (disch := omega) only [List.cons_append, List.nil_append, List.cons_lt_cons_iff,
        ofNat_lt_ofNat_iff, ofNat_inj_iff]
      omega

theorem encode_lt_of_lt {cs ds : List Char} (h : cs < ds) : encode cs < encode ds := by
  induction cs generalizing ds with
  | nil =>
    cases ds with
    | nil => exact absurd h (List.lt_irrefl _)
    | cons d ds =>
      obtain ⟨b, bs, hb⟩ : ∃ b bs, encodeChar d = b :: bs := by
        simp only [encodeChar]
        split_ifs <;> exact ⟨_, _, rfl⟩
      rw [encode_cons, hb]
      exact List.nil_lt_cons ..
  | cons c cs ih =>
    cases ds with
    | nil => exact absurd h (List.not_lt_nil _)
    | cons d ds =>
      rw [encode_cons, encode_cons]
      rcases List.cons_lt_cons_iff.1 h with hcd | ⟨rfl, hrest⟩
      · exact encodeChar_append_lt hcd _ _
      · exact List.append_left_lt (ih hrest)

/-- UTF-8 keeps the order of lists of characters, and so it makes no other. -/
theorem encode_lt_iff {cs ds : List Char} : encode cs < encode ds ↔ cs < ds := by
  refine ⟨fun h => ?_, encode_lt_of_lt⟩
  rcases Std.lt_trichotomy cs ds with hlt | rfl | hgt
  · exact hlt
  · exact absurd h (List.lt_irrefl _)
  · exact absurd h (List.lt_asymm (encode_lt_of_lt hgt))

end Utf8

/-- **Texts are ordered as their bytes.** -/
theorem utf8_lt_iff {a b : String} : utf8 a < utf8 b ↔ a < b := Utf8.encode_lt_iff

theorem utf8_le_iff {a b : String} : utf8 a ≤ utf8 b ↔ a ≤ b := by
  rw [← List.not_lt, ← String.not_lt]
  exact not_congr utf8_lt_iff

end SuitePool.Text
