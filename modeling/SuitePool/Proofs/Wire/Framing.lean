import Mathlib.Data.List.Basic
import Mathlib.Data.List.Infix
import Mathlib.Tactic.Common
import SuitePool.Pool.Process
import SuitePool.Proofs.Wire.Records

/-!
# Frames in a byte stream

Replies share one byte stream with whatever suite code prints.  The stream is cut at line feeds, so
a reading goes line by line: a line without the marker is passed over, and the first line with it
decides.  Bytes that do not hold the marker are therefore passed over as a whole, however they are
cut into lines, and a frame behind them is read as the reply it was written for.

## Main definitions

* `Unmarked`: bytes that do not hold the marker of a reply.

## Main results

* `lines_induction`: a byte string is a last line, or a line and a byte string.
* `readReply_line`: one line is read.
* `readReply_frame`: the frame of a reply is read as this reply.
* `readReply_answer`: so it is behind unmarked bytes.
* `readReply_closed`: an ended process that printed unmarked bytes gives no reply.
* `readReply_marked`: marked bytes are read as a frame themselves, and what follows stays unread.
-/

namespace SuitePool

open Text

/-! ## Lines -/

namespace Text

theorem cutLine_append_lineFeed {l : Bytes} (hl : lineFeed ∉ l) (rest : Bytes) :
    cutLine (l ++ lineFeed :: rest) = (l ++ [lineFeed], rest) := by
  induction l with
  | nil => simp [cutLine]
  | cons b l ih =>
    rw [List.mem_cons, not_or] at hl
    simp [cutLine, Ne.symm hl.1, ih hl.2]

theorem cutLine_of_not_mem {l : Bytes} (hl : lineFeed ∉ l) : cutLine l = (l, []) := by
  induction l with
  | nil => rfl
  | cons b l ih =>
    rw [List.mem_cons, not_or] at hl
    simp [cutLine, Ne.symm hl.1, ih hl.2]

/-- **Induction over the lines of a byte string**: it is a last line without a line feed, or a line
and a byte string behind its line feed. -/
@[elab_as_elim]
theorem lines_induction {P : Bytes → Prop} (last : ∀ l, lineFeed ∉ l → P l)
    (line : ∀ l rest, lineFeed ∉ l → P rest → P (l ++ lineFeed :: rest)) (bs : Bytes) : P bs := by
  induction h : bs.length using Nat.strongRecOn generalizing bs with
  | ind n ih =>
    -- The first line feed ends the first line, and what is behind it is shorter.
    by_cases hb : lineFeed ∈ bs
    · obtain ⟨l, rest, rfl, hl⟩ := List.eq_append_cons_of_mem hb
      refine line l rest hl (ih rest.length ?_ rest rfl)
      rw [← h, List.length_append, List.length_cons]
      omega
    · exact last bs hb

/-- Only a line feed is written with the byte of one. -/
theorem lineFeed_not_mem_encode {cs : List Char} (h : '\n' ∉ cs) : lineFeed ∉ Utf8.encode cs :=
  Utf8.not_mem_encode (by decide) h

/-- Only a carriage return is written with the byte of one. -/
theorem carriageReturn_not_mem_encode {cs : List Char} (h : '\r' ∉ cs) :
    carriageReturn ∉ Utf8.encode cs :=
  Utf8.not_mem_encode (by decide) h

/-- A line of a worker's input holds what was written before its line feed. -/
theorem taskLine_encode {cs : List Char} (h : '\r' ∉ cs) :
    taskLine (Utf8.encode (cs ++ ['\n'])) = Utf8.encode cs := by
  have hr : (Utf8.encode (cs ++ ['\n'])).reverse = lineFeed :: (Utf8.encode cs).reverse := by
    rw [Utf8.encode_append, List.reverse_append]
    rfl
  rw [taskLine, hr]
  simp only [if_true]
  -- A carriage return before the line feed would be cut off, too.
  cases he : (Utf8.encode cs).reverse with
  | nil => exact (List.reverse_eq_nil_iff.1 he).symm
  | cons b more =>
    have hb : b ≠ carriageReturn := by
      rintro rfl
      refine carriageReturn_not_mem_encode h (List.mem_reverse.1 ?_)
      rw [he]
      exact List.mem_cons_self ..
    simp only [if_neg hb]
    rw [← he, List.reverse_reverse]

end Text

/-! ## The marker -/

namespace Reply

theorem isAscii_marker : Utf8.IsAscii marker := by
  have h : marker.all (fun c => c.toNat < 0x80) = true := by decide
  exact fun c hc => of_decide_eq_true (List.all_eq_true.1 h c hc)

theorem marker_ne_nil : marker ≠ [] := by decide

theorem endsLine_of_mem_marker : ∀ c ∈ marker, endsLine c = false := by
  have h : marker.all (fun c => endsLine c == false) = true := by decide
  exact fun c hc => beq_iff_eq.1 (List.all_eq_true.1 h c hc)

theorem afterFirst_eq_none_iff {word cs : List Char} :
    afterFirst word cs = none ↔ ¬ word <:+: cs := by
  induction cs with
  | nil => cases word <;> simp [afterFirst]
  | cons c cs ih =>
    rw [List.infix_cons_iff, afterFirst]
    by_cases h : word.isPrefixOf (c :: cs)
    · simp [h, List.isPrefixOf_iff_prefix.1 h]
    · simp [h, ih, mt List.isPrefixOf_iff_prefix.2 h]

theorem afterFirst_append (word rest : List Char) (h : word ≠ []) :
    afterFirst word (word ++ rest) = some rest := by
  obtain ⟨c, cs, rfl⟩ := List.exists_cons_of_ne_nil h
  have hp : (c :: cs).isPrefixOf (c :: cs ++ rest) :=
    List.isPrefixOf_iff_prefix.2 (List.prefix_append ..)
  rw [List.cons_append] at hp ⊢
  rw [afterFirst, if_pos hp]
  simp

theorem decode_eq_text_iff {line : List Char} : decode line = .text ↔ ¬ marker <:+: line := by
  rw [← afterFirst_eq_none_iff, decode]
  cases afterFirst marker line with
  | none => simp
  | some rest =>
    simp only [reduceCtorEq, iff_false]
    split <;> simp

theorem decode_frame {r : Reply} (h : r.IsStored) : decode r.frame = .reply r := by
  rw [decode, frame, afterFirst_append marker _ marker_ne_nil]
  simp only [parse?_write_toJson h]

end Reply

/-- **Do the bytes not hold the marker of a reply?** -/
def Unmarked (bs : Bytes) : Prop := ¬ Utf8.encode Reply.marker <:+: bs

instance (bs : Bytes) : Decidable (Unmarked bs) := inferInstanceAs (Decidable (¬ _))

theorem Unmarked.of_isInfix {bs cs : Bytes} (h : Unmarked cs) (hb : bs <:+: cs) : Unmarked bs :=
  fun hm => h (hm.trans hb)

theorem lineFeed_not_mem_marker : lineFeed ∉ Utf8.encode Reply.marker := by decide

/-- A word without a separator is not cut by it. -/
theorem isInfix_append_cons {α : Type} {word xs ys : List α} {sep : α} (hs : sep ∉ word)
    (h : word <:+: xs ++ sep :: ys) : word <:+: xs ∨ word <:+: ys := by
  obtain ⟨before, after, h⟩ := h
  -- The word ends within the first part, or reaches beyond it.
  rcases List.append_eq_append_iff.1 h with ⟨as, rfl, -⟩ | ⟨bs, hb, hy⟩
  · exact .inl ⟨before, as, rfl⟩
  · rcases List.append_eq_append_iff.1 hb with ⟨cs, -, hw⟩ | ⟨cs, rfl, hc⟩
    · -- The word would reach over the separator unless it ends before it.
      cases bs with
      | nil =>
        rw [List.append_nil] at hb
        exact .inl ⟨before, [], by rw [List.append_nil, hb]⟩
      | cons b bs =>
        rw [List.cons_append, List.cons.injEq] at hy
        refine absurd ?_ hs
        rw [hw, hy.1]
        simp
    · -- The word starts behind the first part, and not with the separator.
      cases cs with
      | nil =>
        rw [List.nil_append] at hc
        rw [hc] at hy
        cases word with
        | nil => exact .inl List.nil_infix
        | cons c word =>
          rw [List.cons_append, List.cons.injEq] at hy
          exact absurd (hy.1 ▸ List.mem_cons_self ..) hs
      | cons c cs =>
        subst hc
        rw [List.cons_append, List.cons_append, List.cons.injEq] at hy
        exact .inr ⟨cs, after, by rw [hy.2]⟩

/-- **Bytes are unmarked if their lines are.** -/
theorem unmarked_append_lineFeed {l rest : Bytes} (hl : Unmarked l) (hr : Unmarked rest) :
    Unmarked (l ++ lineFeed :: rest) := by
  intro h
  rcases isInfix_append_cons lineFeed_not_mem_marker h with h | h
  · exact hl h
  · exact hr h

/-! ## Shown lines -/

/-- A word that holds no end of a line is not lost with the ends of lines. -/
theorem isInfix_dropEnd {p : Char → Bool} {word cs : List Char} (hw : ∀ c ∈ word, p c = false)
    (hne : word ≠ []) (h : word <:+: cs) : word <:+: (cs.reverse.dropWhile p).reverse := by
  obtain ⟨before, after, rfl⟩ := h
  -- From the end of the text, dropping stops at the last character of the word at the latest.
  have hd : (word.reverse ++ before.reverse).dropWhile p = word.reverse ++ before.reverse := by
    obtain ⟨c, more, hc⟩ := List.exists_cons_of_ne_nil (mt List.reverse_eq_nil_iff.1 hne)
    have hp : p c = false := hw c (List.mem_reverse.1 (hc ▸ List.mem_cons_self ..))
    rw [hc, List.cons_append, List.dropWhile_cons, if_neg (by simp [hp])]
  rw [List.reverse_append, List.reverse_append, List.dropWhile_append, hd]
  split_ifs
  · exact ⟨before, [], by simp⟩
  · exact ⟨before, (after.reverse.dropWhile p).reverse, by simp⟩

/-- **A line is text exactly if it is unmarked.** -/
theorem decode_shownLine_eq_text_iff {line : Bytes} :
    Reply.decode (shownLine line) = .text ↔ Unmarked line := by
  rw [Reply.decode_eq_text_iff, Unmarked, not_iff_not,
    ← Utf8.isInfix_decodeLossy_iff Reply.isAscii_marker Reply.marker_ne_nil]
  -- The marker is read where it stands, and the ends of lines that are cut off do not hold it.
  constructor
  · intro h
    have hs := List.reverse_prefix.2
      (List.dropWhile_suffix endsLine (l := (Utf8.decodeLossy line).reverse))
    rw [List.reverse_reverse] at hs
    exact h.trans hs.isInfix
  · exact isInfix_dropEnd Reply.endsLine_of_mem_marker Reply.marker_ne_nil

theorem Unmarked.append_lineFeed {bs : Bytes} (h : Unmarked bs) : Unmarked (bs ++ [lineFeed]) :=
  unmarked_append_lineFeed h (by decide)

/-! ## Reading lines -/

/-- **Reading one line.** -/
theorem readReply_line {l : Bytes} (hl : lineFeed ∉ l) (alive : Bool) (rest : Bytes) :
    (readReply alive (l ++ lineFeed :: rest)).2 =
      match Reply.decode (shownLine (l ++ [lineFeed])) with
      | .text => (readReply alive rest).2
      | .malformed => .malformed (shownLine (l ++ [lineFeed]))
      | .reply r => .reply r rest := by
  obtain ⟨b, bs, hb⟩ : ∃ b bs, l ++ lineFeed :: rest = b :: bs :=
    List.exists_cons_of_ne_nil (by simp)
  have hc : isComplete (l ++ [lineFeed]) = true := by simp [isComplete]
  -- A line that is cut at its line feed is complete, so it need not be waited for.
  rw [hb, readReply, ← hb, cutLine_append_lineFeed hl]
  simp only [hc, Bool.not_true, Bool.and_false, Bool.false_eq_true, if_false]
  cases Reply.decode (shownLine (l ++ [lineFeed])) <;> rfl

/-- The last line of a living process may still go on. -/
theorem readReply_last_waiting {l : Bytes} (hl : lineFeed ∉ l) :
    (readReply true l).2 = .waiting := by
  cases l with
  | nil => simp [readReply]
  | cons b bs =>
    have hc : isComplete (b :: bs) = false := by
      rw [isComplete, beq_eq_false_iff_ne]
      intro he
      exact hl (List.mem_of_getLast? he)
    rw [readReply, cutLine_of_not_mem hl]
    simp [hc]

/-- An unmarked line is passed over. -/
theorem readReply_line_unmarked {l : Bytes} (hl : lineFeed ∉ l) (h : Unmarked l) (alive : Bool)
    (rest : Bytes) : (readReply alive (l ++ lineFeed :: rest)).2 = (readReply alive rest).2 := by
  rw [readReply_line hl, decode_shownLine_eq_text_iff.2 h.append_lineFeed]

/-- **Unmarked bytes are passed over**, however they are cut into lines. -/
theorem readReply_unmarked {noise : Bytes} (h : Unmarked noise) (alive : Bool) (rest : Bytes) :
    (readReply alive (noise ++ lineFeed :: rest)).2 = (readReply alive rest).2 := by
  induction noise using lines_induction with
  | last l hl => exact readReply_line_unmarked hl h alive rest
  | line l more hl ih =>
    rw [List.append_assoc, List.cons_append,
      readReply_line_unmarked hl (h.of_isInfix (List.prefix_append ..).isInfix)]
    exact ih (h.of_isInfix ((List.suffix_cons ..).trans (List.suffix_append ..)).isInfix)

/-- **An ended process that printed unmarked bytes gives no reply.** -/
theorem readReply_closed {noise : Bytes} (h : Unmarked noise) :
    (readReply false noise).2 = .closed := by
  induction noise using lines_induction with
  | last l hl =>
    cases l with
    | nil => simp [readReply]
    | cons b bs =>
      -- The process has ended, so the last line is read without its line feed.
      rw [readReply, cutLine_of_not_mem hl]
      simp [decode_shownLine_eq_text_iff.2 h, readReply]
  | line l more hl ih =>
    rw [readReply_line_unmarked hl (h.of_isInfix (List.prefix_append ..).isInfix)]
    exact ih (h.of_isInfix ((List.suffix_cons ..).trans (List.suffix_append ..)).isInfix)

/-- What an ended process printed is not waited for. -/
theorem readReply_ended (bs : Bytes) : (readReply false bs).2 ≠ .waiting := by
  induction bs using lines_induction with
  | last l hl =>
    cases l with
    | nil => simp [readReply]
    | cons b bs =>
      rw [readReply, cutLine_of_not_mem hl]
      cases Reply.decode (shownLine (b :: bs)) <;> simp [readReply]
  | line l rest hl ih =>
    rw [readReply_line hl]
    cases Reply.decode (shownLine (l ++ [lineFeed])) with
    | text => exact ih
    | malformed => simp
    | reply r => simp

/-! ## Reading frames -/

theorem Reply.le_of_mem_frame {r : Reply} (h : r.IsExact) {c : Char} (hc : c ∈ r.frame) :
    0x1e ≤ c.toNat := by
  rcases List.mem_append.1 hc with hc | hc
  · have h : marker.all (fun c => 0x1e ≤ c.toNat) = true := by decide
    exact of_decide_eq_true (List.all_eq_true.1 h c hc)
  · exact Nat.le_trans (by decide) (Json.le_of_mem_write (isWhole_toJson h) hc)

theorem Reply.endsLine_of_mem_frame {r : Reply} (h : r.IsExact) {c : Char} (hc : c ∈ r.frame) :
    endsLine c = false := by
  have hle := le_of_mem_frame h hc
  rw [endsLine, Bool.or_eq_false_iff, beq_eq_false_iff_ne, beq_eq_false_iff_ne]
  constructor <;> rintro rfl <;> exact absurd hle (by decide)

/-- A frame holds no end of a line. -/
theorem Reply.not_mem_frame {r : Reply} (h : r.IsExact) {c : Char} (hc : endsLine c = true) :
    c ∉ r.frame := by
  intro hm
  rw [endsLine_of_mem_frame h hm] at hc
  cases hc

/-- The bytes of a frame hold no line feed. -/
theorem Reply.lineFeed_not_mem_frameBytes {r : Reply} (h : r.IsStored) :
    lineFeed ∉ r.frameBytes :=
  lineFeed_not_mem_encode (not_mem_frame h.isExact (by decide))

theorem shownLine_encode {cs : List Char} (h : ∀ c ∈ cs, endsLine c = false) :
    shownLine (Utf8.encode cs ++ [lineFeed]) = cs := by
  have he : Utf8.encode cs ++ [lineFeed] = Utf8.encode (cs ++ ['\n']) := by
    rw [Utf8.encode_append]
    rfl
  rw [shownLine, he, Utf8.decodeLossy_encode, List.reverse_append, List.reverse_singleton,
    List.singleton_append, List.dropWhile_cons, if_pos (by decide)]
  cases hr : cs.reverse with
  | nil => rw [List.reverse_eq_nil_iff.1 hr]; rfl
  | cons c more =>
    have hc : endsLine c = false := h c (List.mem_reverse.1 (hr ▸ List.mem_cons_self ..))
    rw [List.dropWhile_cons, if_neg (by simp [hc]), ← hr, List.reverse_reverse]

/-- **The frame of a reply is read as this reply**, and what follows its line stays unread. -/
theorem readReply_frame {r : Reply} (h : r.IsStored) (alive : Bool) (rest : Bytes) :
    (readReply alive (r.frameBytes ++ lineFeed :: rest)).2 = .reply r rest := by
  rw [readReply_line (Reply.lineFeed_not_mem_frameBytes h), Reply.frameBytes,
    shownLine_encode fun _ hc => Reply.endsLine_of_mem_frame h.isExact hc, Reply.decode_frame h]

/-- **The frame of a reply is read behind unmarked bytes.** -/
theorem readReply_answer {noise : Bytes} (hn : Unmarked noise) {r : Reply} (h : r.IsStored)
    (alive : Bool) (rest : Bytes) :
    (readReply alive (noise ++ lineFeed :: (r.frameBytes ++ lineFeed :: rest))).2 =
      .reply r rest := by
  rw [readReply_unmarked hn, readReply_frame h]

/-! ## Reading marked bytes -/

/-- A marked line is read as a frame. -/
theorem readReply_line_marked {l : Bytes} (hl : lineFeed ∉ l) (h : ¬ Unmarked l) (alive : Bool)
    (rest : Bytes) :
    (∃ line, (readReply alive (l ++ lineFeed :: rest)).2 = .malformed line) ∨
      ∃ r, (readReply alive (l ++ lineFeed :: rest)).2 = .reply r rest := by
  have ht : Reply.decode (shownLine (l ++ [lineFeed])) ≠ .text := by
    intro ht
    exact h ((decode_shownLine_eq_text_iff.1 ht).of_isInfix (List.prefix_append ..).isInfix)
  rw [readReply_line hl]
  cases hd : Reply.decode (shownLine (l ++ [lineFeed])) with
  | text => exact absurd hd ht
  | malformed => exact .inl ⟨_, rfl⟩
  | reply r => exact .inr ⟨r, rfl⟩

/-- **Marked bytes are read as a frame themselves**, and what follows them stays unread. -/
theorem readReply_marked {noise : Bytes} (h : ¬ Unmarked noise) (alive : Bool) (rest : Bytes) :
    (∃ line, (readReply alive (noise ++ lineFeed :: rest)).2 = .malformed line) ∨
      ∃ r more, (readReply alive (noise ++ lineFeed :: rest)).2 = .reply r more ∧
        (more = rest ∨ ∃ unread, more = unread ++ lineFeed :: rest) := by
  induction noise using lines_induction with
  | last l hl =>
    rcases readReply_line_marked hl h alive rest with hm | ⟨r, hr⟩
    · exact .inl hm
    · exact .inr ⟨r, rest, hr, .inl rfl⟩
  | line l more hl ih =>
    rw [List.append_assoc, List.cons_append]
    -- The first line is passed over, and the others are marked, or it is read as a frame.
    by_cases hu : Unmarked l
    · rw [readReply_line_unmarked hl hu]
      exact ih fun hm => h (unmarked_append_lineFeed hu hm)
    · rcases readReply_line_marked hl hu alive (more ++ lineFeed :: rest) with hm | ⟨r, hr⟩
      · exact .inl hm
      · exact .inr ⟨r, _, hr, .inr ⟨more, rfl⟩⟩

/-- **Where a frame is to come, reading does not wait**: it comes to it, or to marked bytes before
it. -/
theorem readReply_before_frame (noise : Bytes) {r : Reply} (hr : r.IsStored) (rest : Bytes) :
    (∃ line, (readReply true (noise ++ lineFeed :: (r.frameBytes ++ lineFeed :: rest))).2 =
        .malformed line) ∨
      ∃ q unread, (readReply true (noise ++ lineFeed :: (r.frameBytes ++ lineFeed :: rest))).2 =
        .reply q unread := by
  by_cases hn : Unmarked noise
  · exact .inr ⟨r, rest, readReply_answer hn hr true rest⟩
  · rcases readReply_marked hn true (r.frameBytes ++ lineFeed :: rest) with hm | ⟨q, unread, hq, -⟩
    · exact .inl hm
    · exact .inr ⟨q, unread, hq⟩

/-- What was read to an end is read so whatever is printed later. -/
theorem readReply_append_of_malformed {bs : Bytes} {line : List Char}
    (h : (readReply true bs).2 = .malformed line) (alive : Bool) (more : Bytes) :
    (readReply alive (bs ++ more)).2 = .malformed line := by
  induction bs using lines_induction with
  | last l hl =>
    -- A last line is waited for, so it was not read to an end.
    rw [readReply_last_waiting hl] at h
    cases h
  | line l rest hl ih =>
    rw [readReply_line hl] at h
    rw [List.append_assoc, List.cons_append, readReply_line hl]
    cases hd : Reply.decode (shownLine (l ++ [lineFeed])) with
    | text =>
      rw [hd] at h
      exact ih h
    | malformed =>
      rw [hd] at h
      cases h
      rfl
    | reply r => rw [hd] at h; cases h

theorem readReply_append_of_reply {bs : Bytes} {r : Reply} {unread : Bytes}
    (h : (readReply true bs).2 = .reply r unread) (alive : Bool) (more : Bytes) :
    (readReply alive (bs ++ more)).2 = .reply r (unread ++ more) := by
  induction bs using lines_induction with
  | last l hl =>
    rw [readReply_last_waiting hl] at h
    cases h
  | line l rest hl ih =>
    rw [readReply_line hl] at h
    rw [List.append_assoc, List.cons_append, readReply_line hl]
    cases hd : Reply.decode (shownLine (l ++ [lineFeed])) with
    | text =>
      rw [hd] at h
      exact ih h
    | malformed => rw [hd] at h; cases h
    | reply q =>
      rw [hd] at h
      cases h
      rfl

end SuitePool
