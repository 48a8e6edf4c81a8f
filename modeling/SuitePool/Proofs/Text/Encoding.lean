import Mathlib.Data.List.Basic
import Mathlib.Tactic.Common
import SuitePool.Text.Utf8

/-!
# The two readings of UTF-8

The strict reading accepts exactly what writing produces, and the lossy reading agrees with it
there.  On other byte strings the lossy reading still keeps every ASCII word: a byte below 128 is
never part of a longer piece, so a nonempty ASCII word stands in a byte string exactly if it stands
in what that string is read as.

## Main definitions

* `Utf8.Piece.bytes`: the bytes that a piece was cut from.
* `Utf8.IsAscii`: a word of ASCII characters.

## Main results

* `Utf8.decode?_eq_some_iff`: the strict reading inverts writing, and nothing else.
* `Utf8.decodeLossy_encode`: so does the lossy one, where it replaces nothing.
* `Utf8.isInfix_decodeLossy_iff`: ASCII words are found before and after reading alike.
-/

namespace SuitePool.Text.Utf8

/-! ## First bytes -/

theorem lead?_ascii {b : UInt8} (hb : b.toNat < 0x80) :
    lead? b = some ⟨b.toNat, 0, 0x80, 0xBF⟩ := by
  simp [lead?, hb]

theorem lead?_two {b : UInt8} {k : Nat} (hb : b.toNat = 0xC0 + k) (h₁ : 2 ≤ k) (h₂ : k < 32) :
    lead? b = some ⟨k, 1, 0x80, 0xBF⟩ := by
  simp only [lead?, hb]
  rw [if_neg (by omega), if_neg (by omega), if_pos (by omega)]
  simp

theorem lead?_three {b : UInt8} {k : Nat} (hb : b.toNat = 0xE0 + k) (hk : k < 16) :
    lead? b = some ⟨k, 2, if k = 0 then 0xA0 else 0x80, if k = 13 then 0x9F else 0xBF⟩ := by
  simp only [lead?, hb]
  rw [if_neg (by omega), if_neg (by omega), if_neg (by omega)]
  split_ifs <;> first | omega | simp_all

theorem lead?_four {b : UInt8} {k : Nat} (hb : b.toNat = 0xF0 + k) (hk : k ≤ 4) :
    lead? b = some ⟨k, 3, if k = 0 then 0x90 else 0x80, if k = 4 then 0x8F else 0xBF⟩ := by
  simp only [lead?, hb]
  rw [if_neg (by omega), if_neg (by omega), if_neg (by omega), if_neg (by omega),
    if_neg (by omega), if_neg (by omega)]
  split_ifs <;> first | omega | simp_all

/-- What a first byte announces, by the number of bytes that follow it. -/
theorem lead?_cases {b : UInt8} {l : Lead} (h : lead? b = some l) :
    (b.toNat < 0x80 ∧ l = ⟨b.toNat, 0, 0x80, 0xBF⟩) ∨
    (∃ k, b.toNat = 0xC0 + k ∧ 2 ≤ k ∧ k < 32 ∧ l = ⟨k, 1, 0x80, 0xBF⟩) ∨
    (∃ k, b.toNat = 0xE0 + k ∧ k < 16 ∧
      l = ⟨k, 2, if k = 0 then 0xA0 else 0x80, if k = 13 then 0x9F else 0xBF⟩) ∨
    (∃ k, b.toNat = 0xF0 + k ∧ k ≤ 4 ∧
      l = ⟨k, 3, if k = 0 then 0x90 else 0x80, if k = 4 then 0x8F else 0xBF⟩) := by
  have hb : b.toNat < 256 := b.toNat_lt
  -- The ranges of first bytes, from below.
  rcases Nat.lt_or_ge b.toNat 0x80 with h₀ | h₀
  · rw [lead?_ascii h₀, Option.some.injEq] at h
    exact .inl ⟨h₀, h.symm⟩
  rcases Nat.lt_or_ge b.toNat 0xC2 with h₁ | h₁
  · simp only [lead?, if_neg (show ¬ b.toNat < 0x80 by omega), if_pos h₁] at h
    cases h
  rcases Nat.lt_or_ge b.toNat 0xE0 with h₂ | h₂
  · obtain ⟨k, hk⟩ := Nat.exists_eq_add_of_le (show 0xC0 ≤ b.toNat by omega)
    rw [lead?_two hk (by omega) (by omega), Option.some.injEq] at h
    exact .inr (.inl ⟨k, hk, by omega, by omega, h.symm⟩)
  rcases Nat.lt_or_ge b.toNat 0xF0 with h₃ | h₃
  · obtain ⟨k, hk⟩ := Nat.exists_eq_add_of_le h₂
    rw [lead?_three hk (by omega), Option.some.injEq] at h
    exact .inr (.inr (.inl ⟨k, hk, by omega, h.symm⟩))
  rcases Nat.lt_or_ge b.toNat 0xF5 with h₄ | h₄
  · obtain ⟨k, hk⟩ := Nat.exists_eq_add_of_le h₃
    rw [lead?_four hk (by omega), Option.some.injEq] at h
    exact .inr (.inr (.inr ⟨k, hk, by omega, h.symm⟩))
  · -- No character starts with a byte this high.
    simp only [lead?] at h
    rw [if_neg (by omega), if_neg (by omega), if_neg (by omega), if_neg (by omega),
      if_neg (by omega), if_neg (by omega), if_neg (by omega), if_neg (by omega),
      if_neg (by omega)] at h
    cases h

/-- No byte below 128 may follow a first byte. -/
theorem lead?_low {b : UInt8} {l : Lead} (h : lead? b = some l) : 0x80 ≤ l.low := by
  rcases lead?_cases h with ⟨-, rfl⟩ | ⟨k, -, -, -, rfl⟩ | ⟨k, -, -, rfl⟩ | ⟨k, -, -, rfl⟩
  · exact Nat.le_refl _
  · exact Nat.le_refl _
  · dsimp only
    split_ifs <;> decide
  · dsimp only
    split_ifs <;> decide

/-! ## ASCII bytes -/

theorem piece_ascii {b : UInt8} (hb : b.toNat < 0x80) (bs : Bytes) :
    piece b bs = (.char (Char.ofNat b.toNat), 0) := by
  simp [piece, lead?_ascii hb, continuation]

/-- An ASCII byte continues no character, so it is for the bytes before it as if they ended. -/
theorem continuation_append_ascii {b : UInt8} (hb : b.toNat < 0x80) (xs ys : Bytes) :
    ∀ bits more low high, 0x80 ≤ low →
      continuation bits more low high (xs ++ b :: ys) = continuation bits more low high xs := by
  induction xs with
  | nil =>
    intro bits more low high hl
    cases more with
    | zero => rfl
    | succ more =>
      have hb : ¬ low ≤ b.toNat := by omega
      simp [continuation, hb]
  | cons x xs ih =>
    intro bits more low high hl
    cases more with
    | zero => rfl
    | succ more => simp [continuation, ih]

theorem continuation_le (bs : Bytes) :
    ∀ bits more low high, (continuation bits more low high bs).1 ≤ bs.length := by
  induction bs with
  | nil => intro bits more low high; cases more <;> simp [continuation]
  | cons x xs ih =>
    intro bits more low high
    cases more with
    | zero => simp [continuation]
    | succ more =>
      have := ih (bits * 64 + (x.toNat - 0x80)) more 0x80 0xBF
      simp only [continuation, List.length_cons]
      split <;> simp only <;> omega

theorem piece_le (b : UInt8) (bs : Bytes) : (piece b bs).2 ≤ bs.length := by
  simp only [piece]
  cases lead? b with
  | none => simp
  | some l =>
    -- Whether the character is complete or not, its bytes are those of the continuation.
    have h := continuation_le bs l.bits l.more l.low l.high
    simp only
    split <;> rename_i he <;> rw [he] at h <;> exact h

theorem piece_append_ascii {b : UInt8} (hb : b.toNat < 0x80) (x : UInt8) (xs ys : Bytes) :
    piece x (xs ++ b :: ys) = piece x xs := by
  simp only [piece]
  cases hl : lead? x with
  | none => rfl
  | some l =>
    have hle := continuation_le xs l.bits l.more l.low l.high
    simp only [continuation_append_ascii hb xs ys _ _ _ _ (lead?_low hl)]
    split <;> rename_i he
    · rfl
    · rw [he] at hle
      rw [List.take_append_of_le_length hle]

/-- **An ASCII byte is a piece of its own**, whatever stands around it. -/
theorem scan_append_ascii {b : UInt8} (hb : b.toNat < 0x80) (xs ys : Bytes) :
    scan (xs ++ b :: ys) = scan xs ++ .char (Char.ofNat b.toNat) :: scan ys := by
  -- Piece by piece: each is cut from the bytes before the ASCII byte, so it is the same with and
  -- without what stands behind.
  induction hn : xs.length using Nat.strongRecOn generalizing xs with
  | ind n ih =>
    cases xs with
    | nil => simp [scan_cons, piece_ascii hb]
    | cons x xs =>
      have hle := piece_le x xs
      rw [List.cons_append, scan_cons, scan_cons, piece_append_ascii hb,
        List.drop_append_of_le_length hle, List.cons_append]
      congr 1
      refine ih _ ?_ _ rfl
      simp only [List.length_cons, List.length_drop] at hn ⊢
      omega

/-! ## Characters of several bytes -/

theorem continuation_cons {b : UInt8} {v bits more low high : Nat} (hb : b.toNat = 0x80 + v)
    (hl : low ≤ 0x80 + v) (hh : 0x80 + v ≤ high) (bs : Bytes) :
    continuation bits (more + 1) low high (b :: bs) =
      ((continuation (bits * 64 + v) more 0x80 0xBF bs).1 + 1,
        (continuation (bits * 64 + v) more 0x80 0xBF bs).2) := by
  simp [continuation, hb, hl, hh]

/-- What a complete run of continuation bytes starts with. -/
theorem continuation_succ_some {bits more low high u n : Nat} {bs : Bytes} (hl : 0x80 ≤ low)
    (hh : high ≤ 0xBF) (h : continuation bits (more + 1) low high bs = (u, some n)) :
    ∃ b bs' v u', bs = b :: bs' ∧ b.toNat = 0x80 + v ∧ v < 64 ∧ low ≤ 0x80 + v ∧
      0x80 + v ≤ high ∧ u = u' + 1 ∧
      continuation (bits * 64 + v) more 0x80 0xBF bs' = (u', some n) := by
  cases bs with
  | nil => simp [continuation] at h
  | cons b bs' =>
    simp only [continuation] at h
    split_ifs at h with hr
    · simp only [Prod.mk.injEq] at h
      refine ⟨b, bs', b.toNat - 0x80, u - 1, rfl, by omega, by omega, by omega, by omega,
        by omega, ?_⟩
      rw [← h.2, ← h.1]
      simp
    · simp at h

/-! ## Reading what was written -/

theorem toNat_ofNat_of_lt {n : Nat} (h : n < 256) : (UInt8.ofNat n).toNat = n := by
  simp
  omega

/-- **A written character is one piece.** -/
theorem scan_encodeChar_append (c : Char) (bs : Bytes) :
    scan (encodeChar c ++ bs) = .char c :: scan bs := by
  have hv : c.toNat < 0xD800 ∨ 0xDFFF < c.toNat ∧ c.toNat < 0x110000 := c.valid
  have hc : Char.ofNat c.toNat = c := Char.ofNat_toNat c
  simp only [encodeChar]
  generalize c.toNat = n at hv hc
  -- One case for each number of bytes.  In each the first byte is the lead of that length, and the
  -- code is put together again from the bits of the bytes.
  split_ifs with h₁ h₂ h₃
  · have hb : (UInt8.ofNat n).toNat = n := toNat_ofNat_of_lt (by omega)
    rw [List.singleton_append, scan_cons, piece_ascii (by omega), hb, hc]
    rfl
  · have h0 := toNat_ofNat_of_lt (show 0xC0 + n / 64 < 256 by omega)
    have h1 := toNat_ofNat_of_lt (show 0x80 + n % 64 < 256 by omega)
    have hp : piece (.ofNat (0xC0 + n / 64)) (.ofNat (0x80 + n % 64) :: bs) = (.char c, 1) := by
      simp only [piece, lead?_two h0 (by omega) (by omega)]
      rw [continuation_cons h1 (by omega) (by omega)]
      simp only [continuation, ← hc]
      congr 3
      omega
    rw [List.cons_append, List.cons_append, List.nil_append, scan_cons, hp]
    rfl
  · have h0 := toNat_ofNat_of_lt (show 0xE0 + n / 4096 < 256 by omega)
    have h1 := toNat_ofNat_of_lt (show 0x80 + n / 64 % 64 < 256 by omega)
    have h2 := toNat_ofNat_of_lt (show 0x80 + n % 64 < 256 by omega)
    have hp : piece (.ofNat (0xE0 + n / 4096))
        (.ofNat (0x80 + n / 64 % 64) :: .ofNat (0x80 + n % 64) :: bs) = (.char c, 2) := by
      simp only [piece, lead?_three h0 (by omega)]
      rw [continuation_cons h1 (by split_ifs <;> omega) (by split_ifs <;> omega),
        continuation_cons h2 (by omega) (by omega)]
      simp only [continuation, ← hc]
      congr 3
      omega
    simp only [List.cons_append, List.nil_append]
    rw [scan_cons, hp]
    rfl
  · have h0 := toNat_ofNat_of_lt (show 0xF0 + n / 262144 < 256 by omega)
    have h1 := toNat_ofNat_of_lt (show 0x80 + n / 4096 % 64 < 256 by omega)
    have h2 := toNat_ofNat_of_lt (show 0x80 + n / 64 % 64 < 256 by omega)
    have h3 := toNat_ofNat_of_lt (show 0x80 + n % 64 < 256 by omega)
    have hp : piece (.ofNat (0xF0 + n / 262144)) (.ofNat (0x80 + n / 4096 % 64) ::
        .ofNat (0x80 + n / 64 % 64) :: .ofNat (0x80 + n % 64) :: bs) = (.char c, 3) := by
      simp only [piece, lead?_four h0 (by omega)]
      rw [continuation_cons h1 (by split_ifs <;> omega) (by split_ifs <;> omega),
        continuation_cons h2 (by omega) (by omega), continuation_cons h3 (by omega) (by omega)]
      simp only [continuation, ← hc]
      congr 3
      omega
    simp only [List.cons_append, List.nil_append]
    rw [scan_cons, hp]
    rfl

@[simp] theorem encode_cons (c : Char) (cs : List Char) :
    encode (c :: cs) = encodeChar c ++ encode cs := rfl

@[simp] theorem encode_append (cs ds : List Char) : encode (cs ++ ds) = encode cs ++ encode ds := by
  simp [encode]

theorem scan_encode_append (cs : List Char) (bs : Bytes) :
    scan (encode cs ++ bs) = cs.map .char ++ scan bs := by
  induction cs with
  | nil => rfl
  | cons c cs ih =>
    rw [encode_cons, List.append_assoc, scan_encodeChar_append, ih, List.map_cons,
      List.cons_append]

theorem map_toChar_map_char (cs : List Char) : (cs.map Piece.char).map Piece.toChar = cs := by
  induction cs with
  | nil => rfl
  | cons c cs ih => rw [List.map_cons, List.map_cons, ih, Piece.toChar]

theorem decodeLossy_encode_append (cs : List Char) (bs : Bytes) :
    decodeLossy (encode cs ++ bs) = cs ++ decodeLossy bs := by
  rw [decodeLossy, scan_encode_append, List.map_append, map_toChar_map_char, decodeLossy]

/-- **The lossy reading replaces nothing in what was written.** -/
theorem decodeLossy_encode (cs : List Char) : decodeLossy (encode cs) = cs := by
  have h := decodeLossy_encode_append cs []
  rw [List.append_nil] at h
  rw [h, decodeLossy, scan_nil, List.map_nil, List.append_nil]

theorem decode?_encode (cs : List Char) : decode? (encode cs) = some cs := by
  have h := scan_encode_append cs []
  rw [List.append_nil, scan_nil, List.append_nil] at h
  rw [decode?, h]
  clear h
  induction cs with
  | nil => rfl
  | cons c cs ih => rw [List.map_cons, List.mapM_cons, ih]; rfl

theorem showBytes_utf8 (s : String) : showBytes (utf8 s) = s := by
  rw [showBytes, utf8, decodeLossy_encode, String.ofList_toList]

theorem text?_utf8 (s : String) : text? (utf8 s) = some s := by
  rw [text?, utf8, decode?_encode, Option.map_some, String.ofList_toList]

/-! ## Only what was written is read -/

theorem toNat_charOfNat {n : Nat} (h : n < 0xD800 ∨ 0xDFFF < n ∧ n < 0x110000) :
    (Char.ofNat n).toNat = n := by
  have hv : n.isValidChar := h
  rw [Char.ofNat, dif_pos hv]
  rfl

theorem ofNat_eq_of_toNat {b : UInt8} {n : Nat} (h : b.toNat = n) : UInt8.ofNat n = b := by
  subst h
  exact UInt8.ofNat_toNat

theorem encodeChar_of_continuation_two {b : UInt8} {k u n : Nat} {bs : Bytes}
    (hb : b.toNat = 0xC0 + k) (hk : 2 ≤ k ∧ k < 32)
    (h : continuation k 1 0x80 0xBF bs = (u, some n)) :
    encodeChar (Char.ofNat n) = b :: bs.take u := by
  obtain ⟨b₁, bs₁, v, u₁, rfl, hb₁, hv, -, -, rfl, h₁⟩ :=
    continuation_succ_some (by simp) (by simp) h
  simp only [continuation, Prod.mk.injEq, Option.some.injEq] at h₁
  obtain ⟨rfl, rfl⟩ := h₁
  simp only [encodeChar]
  rw [toNat_charOfNat (by omega), if_neg (by omega), if_pos (by omega),
    ofNat_eq_of_toNat (b := b) (by omega), ofNat_eq_of_toNat (b := b₁) (by omega)]
  rfl

theorem encodeChar_of_continuation_three {b : UInt8} {k low high u n : Nat} {bs : Bytes}
    (hb : b.toNat = 0xE0 + k) (hk : k < 16) (hlow : low = if k = 0 then 0xA0 else 0x80)
    (hhigh : high = if k = 13 then 0x9F else 0xBF)
    (h : continuation k 2 low high bs = (u, some n)) :
    encodeChar (Char.ofNat n) = b :: bs.take u := by
  have hl : 0x80 ≤ low := by split_ifs at hlow <;> omega
  have hh : high ≤ 0xBF := by split_ifs at hhigh <;> omega
  obtain ⟨b₁, bs₁, v, u₁, rfl, hb₁, hv, hv₀, hv₁, rfl, h₁⟩ := continuation_succ_some hl hh h
  obtain ⟨b₂, bs₂, w, u₂, rfl, hb₂, hw, -, -, rfl, h₂⟩ :=
    continuation_succ_some (by simp) (by simp) h₁
  simp only [continuation, Prod.mk.injEq, Option.some.injEq] at h₂
  obtain ⟨rfl, rfl⟩ := h₂
  -- The ranges of the second byte keep overlong forms and surrogates out.
  have h₀ : k = 0 → 32 ≤ v := by split_ifs at hlow <;> omega
  have h₁₃ : k = 13 → v < 32 := by split_ifs at hhigh <;> omega
  simp only [encodeChar]
  rw [toNat_charOfNat (by omega), if_neg (by omega), if_neg (by omega), if_pos (by omega),
    ofNat_eq_of_toNat (b := b) (by omega), ofNat_eq_of_toNat (b := b₁) (by omega),
    ofNat_eq_of_toNat (b := b₂) (by omega)]
  rfl

theorem encodeChar_of_continuation_four {b : UInt8} {k low high u n : Nat} {bs : Bytes}
    (hb : b.toNat = 0xF0 + k) (hk : k ≤ 4) (hlow : low = if k = 0 then 0x90 else 0x80)
    (hhigh : high = if k = 4 then 0x8F else 0xBF)
    (h : continuation k 3 low high bs = (u, some n)) :
    encodeChar (Char.ofNat n) = b :: bs.take u := by
  have hl : 0x80 ≤ low := by split_ifs at hlow <;> omega
  have hh : high ≤ 0xBF := by split_ifs at hhigh <;> omega
  obtain ⟨b₁, bs₁, v, u₁, rfl, hb₁, hv, hv₀, hv₁, rfl, h₁⟩ := continuation_succ_some hl hh h
  obtain ⟨b₂, bs₂, w, u₂, rfl, hb₂, hw, -, -, rfl, h₂⟩ :=
    continuation_succ_some (by simp) (by simp) h₁
  obtain ⟨b₃, bs₃, x, u₃, rfl, hb₃, hx, -, -, rfl, h₃⟩ :=
    continuation_succ_some (by simp) (by simp) h₂
  simp only [continuation, Prod.mk.injEq, Option.some.injEq] at h₃
  obtain ⟨rfl, rfl⟩ := h₃
  have h₀ : k = 0 → 16 ≤ v := by split_ifs at hlow <;> omega
  have h₄ : k = 4 → v < 16 := by split_ifs at hhigh <;> omega
  simp only [encodeChar]
  rw [toNat_charOfNat (by omega), if_neg (by omega), if_neg (by omega), if_neg (by omega),
    ofNat_eq_of_toNat (b := b) (by omega), ofNat_eq_of_toNat (b := b₁) (by omega),
    ofNat_eq_of_toNat (b := b₂) (by omega), ofNat_eq_of_toNat (b := b₃) (by omega)]
  rfl

/-- A well-formed piece holds the bytes of its character. -/
theorem encodeChar_of_piece {b : UInt8} {bs : Bytes} {c : Char} {used : Nat}
    (h : piece b bs = (.char c, used)) : encodeChar c = b :: bs.take used := by
  simp only [piece] at h
  cases hl : lead? b with
  | none => simp [hl] at h
  | some l =>
    simp only [hl] at h
    split at h
    next u n he =>
      simp only [Prod.mk.injEq, Piece.char.injEq] at h
      obtain ⟨rfl, rfl⟩ := h
      -- By the number of bytes that the first one announces.
      rcases lead?_cases hl with ⟨hb, rfl⟩ | ⟨k, hb, h₂, hk, rfl⟩ | ⟨k, hb, hk, rfl⟩ |
        ⟨k, hb, hk, rfl⟩
      · simp only [continuation, Prod.mk.injEq, Option.some.injEq] at he
        obtain ⟨rfl, rfl⟩ := he
        simp only [encodeChar]
        rw [toNat_charOfNat (by omega), if_pos hb, ofNat_eq_of_toNat rfl]
        rfl
      · exact encodeChar_of_continuation_two hb ⟨h₂, hk⟩ he
      · exact encodeChar_of_continuation_three hb hk rfl rfl he
      · exact encodeChar_of_continuation_four hb hk rfl rfl he
    next => simp at h

/-- The bytes that a piece was cut from. -/
def Piece.bytes : Piece → Bytes
  | .char c => encodeChar c
  | .stray bs => bs

theorem piece_bytes (b : UInt8) (bs : Bytes) :
    (piece b bs).1.bytes = b :: bs.take (piece b bs).2 := by
  cases hp : piece b bs with
  | mk p used =>
    cases p with
    | char c => exact encodeChar_of_piece hp
    | stray ss =>
      simp only [piece] at hp
      split at hp
      · simp only [Prod.mk.injEq, Piece.stray.injEq] at hp
        obtain ⟨rfl, rfl⟩ := hp
        rfl
      · split at hp <;>
          simp only [Prod.mk.injEq, Piece.stray.injEq, reduceCtorEq, false_and] at hp
        obtain ⟨rfl, rfl⟩ := hp
        rfl

/-- **Cutting into pieces loses nothing.** -/
theorem flatMap_bytes_scan (bs : Bytes) : (scan bs).flatMap Piece.bytes = bs := by
  induction hn : bs.length using Nat.strongRecOn generalizing bs with
  | ind n ih =>
    cases bs with
    | nil => simp
    | cons b bs =>
      -- What is left behind the first piece is shorter.
      have hlen : (bs.drop (piece b bs).2).length < n := by
        simp only [List.length_cons, List.length_drop] at hn ⊢
        omega
      rw [scan_cons, List.flatMap_cons, piece_bytes, ih _ hlen _ rfl, List.cons_append,
        List.take_append_drop]

theorem encode_of_decode? {bs : Bytes} {cs : List Char} (h : decode? bs = some cs) :
    encode cs = bs := by
  -- All pieces are characters, so their bytes are what is written for them.
  rw [← flatMap_bytes_scan bs]
  rw [decode?] at h
  generalize scan bs = ps at h
  induction ps generalizing cs with
  | nil =>
    simp only [List.mapM_nil, Option.pure_def, Option.some.injEq] at h
    rw [← h]
    rfl
  | cons p ps ih =>
    cases p with
    | stray => simp [Piece.char?] at h
    | char c =>
      simp only [List.mapM_cons, Piece.char?, Option.bind_eq_bind, Option.bind_some,
        Option.bind_eq_some_iff, Option.pure_def, Option.some.injEq] at h
      obtain ⟨cs, h, rfl⟩ := h
      rw [encode_cons, List.flatMap_cons, ih h]
      rfl

/-- **The strict reading accepts exactly what writing produces.** -/
theorem decode?_eq_some_iff {bs : Bytes} {cs : List Char} :
    decode? bs = some cs ↔ bs = encode cs :=
  ⟨fun h => (encode_of_decode? h).symm, fun h => h ▸ decode?_encode cs⟩

/-! ## ASCII words -/

/-- Does a word consist of ASCII characters? -/
def IsAscii (word : List Char) : Prop := ∀ c ∈ word, c.toNat < 0x80

theorem encodeChar_ascii {c : Char} (hc : c.toNat < 0x80) : encodeChar c = [.ofNat c.toNat] := by
  simp [encodeChar, hc]

/-- Every byte of a character that is not ASCII is none either. -/
theorem le_of_mem_encodeChar {c : Char} (hc : 0x80 ≤ c.toNat) {b : UInt8}
    (hb : b ∈ encodeChar c) : 0x80 ≤ b.toNat := by
  have hlt : c.toNat < 0x110000 := by
    rcases c.valid with hv | hv
    · exact Nat.lt_trans hv (by decide)
    · exact hv.2
  have ho (n : Nat) (h₁ : 0x80 ≤ n) (h₂ : n < 256) : 0x80 ≤ (UInt8.ofNat n).toNat := by
    rw [toNat_ofNat_of_lt h₂]
    exact h₁
  simp only [encodeChar, if_neg (Nat.not_lt.2 hc)] at hb
  split_ifs at hb <;> simp only [List.mem_cons, List.not_mem_nil, or_false] at hb
  · rcases hb with rfl | rfl <;> exact ho _ (by omega) (by omega)
  · rcases hb with rfl | rfl | rfl <;> exact ho _ (by omega) (by omega)
  · rcases hb with rfl | rfl | rfl | rfl <;> exact ho _ (by omega) (by omega)

/-- **An ASCII byte is written for its own character only.** -/
theorem not_mem_encode {a : Char} (ha : a.toNat < 0x80) {cs : List Char} (h : a ∉ cs) :
    UInt8.ofNat a.toNat ∉ encode cs := by
  rw [encode, List.mem_flatMap]
  rintro ⟨c, hc, hb⟩
  have hv : (UInt8.ofNat a.toNat).toNat = a.toNat := toNat_ofNat_of_lt (by omega)
  -- The byte is in the form of some character: of an ASCII one it is the only byte, and in that of
  -- another there is none below 128.
  rcases Nat.lt_or_ge c.toNat 0x80 with hlt | hge
  · rw [encodeChar_ascii hlt, List.mem_singleton] at hb
    have he : a.toNat = c.toNat := by
      rw [← hv, hb, toNat_ofNat_of_lt (by omega)]
    apply h
    rw [← Char.ofNat_toNat a, he, Char.ofNat_toNat]
    exact hc
  · have := le_of_mem_encodeChar hge hb
    omega

/-- Only an ASCII character is read as one: what replaces a stray piece is none. -/
theorem bytes_of_toChar_ascii {p : Piece} (hp : p.toChar.toNat < 0x80) :
    p.bytes = encodeChar p.toChar := by
  cases p with
  | char c => rfl
  | stray bs => exact absurd hp (show ¬ '\uFFFD'.toNat < 0x80 by decide)

/-- A word that is read was there before. -/
theorem isInfix_of_isInfix_decodeLossy {word : List Char} (hw : IsAscii word) {bs : Bytes}
    (h : word <:+: decodeLossy bs) : encode word <:+: bs := by
  -- The word is read from some of the pieces, and these hold its bytes.
  obtain ⟨before, after, h⟩ := h
  obtain ⟨front, back, hs, hf, -⟩ := List.map_eq_append_iff.1 h.symm
  obtain ⟨ps, ws, rfl, -, hws⟩ := List.map_eq_append_iff.1 hf
  have hbytes : ws.flatMap Piece.bytes = encode word := by
    rw [← hws, encode, List.flatMap_map]
    refine List.flatMap_congr fun p hp => bytes_of_toChar_ascii (hw _ ?_)
    rw [← hws]
    exact List.mem_map_of_mem hp
  refine ⟨ps.flatMap Piece.bytes, back.flatMap Piece.bytes, ?_⟩
  rw [← hbytes, ← List.flatMap_append, ← List.flatMap_append, ← hs, flatMap_bytes_scan]

/-- A nonempty word that is there is read. -/
theorem isInfix_decodeLossy_of_isInfix {word : List Char} (hw : IsAscii word) (hne : word ≠ [])
    {bs : Bytes} (h : encode word <:+: bs) : word <:+: decodeLossy bs := by
  obtain ⟨before, after, rfl⟩ := h
  obtain ⟨c, cs, rfl⟩ := List.exists_cons_of_ne_nil hne
  have hc : c.toNat < 0x80 := hw c (List.mem_cons_self ..)
  have hb : (UInt8.ofNat c.toNat).toNat = c.toNat := toNat_ofNat_of_lt (by omega)
  -- Its first character is a piece of its own, so whatever stands before ends there.
  have hscan : scan (before ++ encode (c :: cs) ++ after) =
      scan before ++ ((c :: cs).map .char ++ scan after) := by
    rw [encode_cons, encodeChar_ascii hc, List.append_assoc, List.append_assoc,
      List.singleton_append, scan_append_ascii (by omega), hb, Char.ofNat_toNat,
      scan_encode_append]
    rfl
  refine ⟨decodeLossy before, decodeLossy after, ?_⟩
  simp only [decodeLossy]
  rw [hscan, List.map_append, List.map_append, map_toChar_map_char, List.append_assoc]

/-- **A nonempty ASCII word is read exactly where it stands.** -/
theorem isInfix_decodeLossy_iff {word : List Char} (hw : IsAscii word) (hne : word ≠ [])
    {bs : Bytes} : word <:+: decodeLossy bs ↔ encode word <:+: bs :=
  ⟨isInfix_of_isInfix_decodeLossy hw, isInfix_decodeLossy_of_isInfix hw hne⟩

end SuitePool.Text.Utf8
