import Mathlib.Data.List.Basic
import Mathlib.Data.List.Infix
import Mathlib.Tactic.Common
import SuitePool.Proofs.Wire.Framing

/-!
# A frame behind other text

A line may hold other text before the frame of a reply, and the frame is searched from the start of
the line.  The marker begins with a character that does not recur in it and that a reply holds only
in its escaped form.  Hence a marker can begin neither within the frame nor within text that breaks
off in the middle of one, and the frame is found where it stands.

## Main results

* `Reply.afterFirst_append_of_not_infix`: a word whose first character does not recur in it is found
  behind text that does not hold it.
* `Reply.eq_nil_of_frame_eq`: the marker occurs in a frame at its start only.
* `Reply.decode_append_frame`: which reply is read behind other text.
* `Reply.frame_readable`: a frame is one line, marked once, and is read behind unmarked text.
-/

namespace SuitePool.Reply

/-! ## Searching a word -/

section Search

variable {c : Char} {word : List Char}

/-- A word whose first character does not recur in it does not reach from a text into a next
occurrence of this character. -/
theorem prefix_of_prefix_append_cons (hc : c ∉ word) {text rest : List Char}
    (h : word <+: text ++ c :: rest) : word <+: text := by
  have ht : text ++ [c] <+: text ++ c :: rest := ⟨rest, by simp⟩
  rcases List.prefix_or_prefix_of_prefix h ht with hw | hw
  · rcases List.prefix_concat_iff.1 hw with rfl | hw
    · exact absurd (by simp) hc
    · exact hw
  · exact absurd (hw.subset (by simp)) hc

/-- **A word is found behind text that does not hold it**, if its first character does not recur in
it.  The text may end within an occurrence of the word. -/
theorem afterFirst_append_of_not_infix (hc : c ∉ word) {noise : List Char}
    (hn : ¬ c :: word <:+: noise) (rest : List Char) :
    afterFirst (c :: word) (noise ++ (c :: word ++ rest)) = some rest := by
  induction noise with
  | nil => exact afterFirst_append _ _ (List.cons_ne_nil _ _)
  | cons d noise ih =>
    rw [List.infix_cons_iff, not_or, List.cons_prefix_cons] at hn
    -- The word does not start at the first character, so the search goes on behind it.
    have hp : ¬ c :: word <+: d :: (noise ++ (c :: word ++ rest)) := by
      rw [List.cons_prefix_cons]
      rintro ⟨rfl, hw⟩
      exact hn.1 ⟨rfl, prefix_of_prefix_append_cons hc hw⟩
    rw [List.cons_append, afterFirst, if_neg (mt List.isPrefixOf_iff_prefix.1 hp)]
    exact ih hn.2

end Search

/-! ## The marker in a frame -/

/-- The character that starts the marker does not recur in it. -/
theorem recordSeparator_not_mem : '\x1e' ∉ "test-fleet-reply:".toList := by decide

/-- Behind the marker a frame holds no record separator: the reply holds it in its escaped form. -/
theorem recordSeparator_not_mem_write {r : Reply} (hr : r.IsExact) : '\x1e' ∉ r.toJson.write :=
  fun hc => absurd (Json.le_of_mem_write (isWhole_toJson hr) hc) (by decide)

/-- **The marker occurs in a frame at its start only.** -/
theorem eq_nil_of_frame_eq {r : Reply} (hr : r.IsExact) {before after : List Char}
    (h : r.frame = before ++ marker ++ after) : before = [] := by
  cases before with
  | nil => rfl
  | cons c before =>
    rw [frame, marker, List.cons_append, List.cons_append, List.cons_append, List.cons.injEq] at h
    -- The marker would begin behind the first character of the frame.
    have hmem : '\x1e' ∈ "test-fleet-reply:".toList ++ r.toJson.write := by
      rw [h.2]
      simp
    rcases List.mem_append.1 hmem with hm | hm
    · exact absurd hm recordSeparator_not_mem
    · exact absurd hm (recordSeparator_not_mem_write hr)

/-! ## Reading a frame -/

/-- The reply of a frame is read unless it is nested too deeply. -/
theorem parse?_write_exact {r : Reply} (hr : r.IsExact) :
    (Json.parse? r.toJson.write).bind ofJson? =
      if r.toJson.depth ≤ Json.greatestDepth then some r else none := by
  split_ifs with hd
  · exact parse?_write_toJson (isStored_iff.2 ⟨hr, hd⟩)
  · rw [Json.parse?_write_deep (isWhole_toJson hr) (Nat.lt_of_not_le hd), Option.bind_none]

/-- **Which reply is read behind other text.** -/
theorem decode_append_frame {r : Reply} (hr : r.IsExact) {noise : List Char}
    (hn : ¬ marker <:+: noise) :
    decode (noise ++ r.frame) =
      if r.toJson.depth ≤ Json.greatestDepth then .reply r else .malformed := by
  rw [decode, frame, marker, afterFirst_append_of_not_infix recordSeparator_not_mem hn]
  simp only [parse?_write_exact hr]
  split_ifs <;> rfl

/-- **A frame is one line, marked once, and is read behind unmarked text.**  The reply may hold any
texts, line ends and markers among them, and the text before its frame may break off within a
marker.  The frame is read as this reply as long as no more arrays and objects are nested in it, the
reply itself included, than the reader allows; it is malformed otherwise. -/
theorem frame_readable {r : Reply} (hr : r.IsExact) :
    '\n' ∉ r.frame ∧ '\r' ∉ r.frame ∧
    marker <+: r.frame ∧ (∀ before after, r.frame = before ++ marker ++ after → before = []) ∧
    ∀ noise, ¬ marker <:+: noise →
      decode (noise ++ r.frame) =
        if r.toJson.depth ≤ Json.greatestDepth then .reply r else .malformed := by
  refine ⟨not_mem_frame hr (by decide), not_mem_frame hr (by decide), List.prefix_append .., ?_, ?_⟩
  · intro before after h
    exact eq_nil_of_frame_eq hr h
  · intro noise hn
    exact decode_append_frame hr hn

/-- A reply that holds a marker of its own, between line ends. -/
def quotingReply : Reply :=
  .done (.object [("a", .string (String.ofList ('\n' :: marker ++ ['\r', '"']))),
    ("b", .array [.nat 7, .string "\t"])])

/-- It is read behind text that breaks off within a marker. -/
theorem frame_readable_quoting :
    quotingReply.IsExact ∧ ¬ marker <:+: '.' :: marker.dropLast ∧
      decode ('.' :: marker.dropLast ++ quotingReply.frame) = .reply quotingReply := by
  have hr : quotingReply.IsExact := by
    refine ⟨rfl, ?_⟩
    simp only [Json.isWhole_object_iff, Json.isWhole_array_iff, List.forall_mem_cons]
    exact ⟨Json.isWhole_string _, ⟨Json.isWhole_nat (by decide), Json.isWhole_string _, by simp⟩,
      by simp⟩
  have hn : ¬ marker <:+: '.' :: marker.dropLast := by decide
  refine ⟨hr, hn, ?_⟩
  rw [(frame_readable hr).2.2.2.2 _ hn, if_pos (by decide)]

end SuitePool.Reply
