import SuitePool.Json.Reader
import SuitePool.Json.Writer
import SuitePool.Proofs.Json.Lexing

/-!
# Reading JSON values back

A value whose numbers are whole, and that is not nested more deeply than the reader allows, is read
back from its characters unchanged.  Writing goes through tokens, so reading back has two halves:
the characters of a value's tokens are cut into these tokens again, and these tokens denote the
value.

## Main definitions

* `Json.IsWhole`: a value whose numbers are all whole.
* `Json.spell`: the characters of tokens.

## Main results

* `Json.lex_tokens`: the tokens of a value are cut out of its characters.
* `Json.run_tokens`: the tokens of a value denote it, inside what is open around it.
* `Json.run_tokens_deep`: they are refused if the value is nested too deeply for that.
* `Json.parse?_write`, `Json.parse?_write_deep`: a written value is read back, or refused.
* `Json.le_of_mem_write`: a written value holds no control character.
-/

namespace SuitePool.Json

open Decimal

/-! ## Whole values -/

/-- **Are all numbers of a value whole**, and of 64 bits? -/
def IsWhole (j : Json) : Prop := ∀ t ∈ j.tokens, t.IsWhole

theorem isWhole_string (s : String) : (string s).IsWhole := by
  intro t ht
  rw [string, tokens, List.mem_singleton] at ht
  subst ht
  trivial

theorem isWhole_nat {n : Nat} (h : n < UInt64.size) : (nat n).IsWhole := by
  intro t ht
  rw [nat, int, tokens, List.mem_singleton] at ht
  subst ht
  simp only [Token.IsWhole, Number.IsWhole]
  omega

theorem forall_mem_moreItemTokens {items : List Json} :
    (∀ t ∈ moreItemTokens items, t.IsWhole) ↔ ∀ j ∈ items, j.IsWhole := by
  induction items with
  | nil => simp [moreItemTokens, Token.IsWhole]
  | cons j more ih =>
    rw [moreItemTokens, List.forall_mem_cons, List.forall_mem_append, ih, List.forall_mem_cons]
    exact ⟨fun h => h.2, fun h => ⟨trivial, h⟩⟩

theorem forall_mem_moreMemberTokens {members : List (String × Json)} :
    (∀ t ∈ moreMemberTokens members, t.IsWhole) ↔ ∀ m ∈ members, m.2.IsWhole := by
  induction members with
  | nil => simp [moreMemberTokens, Token.IsWhole]
  | cons m more ih =>
    obtain ⟨k, j⟩ := m
    rw [moreMemberTokens, List.forall_mem_cons, List.forall_mem_cons, List.forall_mem_cons,
      List.forall_mem_append, ih, List.forall_mem_cons]
    exact ⟨fun h => h.2.2.2, fun h => ⟨trivial, trivial, trivial, h⟩⟩

theorem isWhole_array_iff {items : List Json} :
    (array items).IsWhole ↔ ∀ j ∈ items, j.IsWhole := by
  rw [IsWhole, tokens, List.forall_mem_cons]
  cases items with
  | nil => simp [itemTokens, Token.IsWhole]
  | cons j more =>
    rw [itemTokens, List.forall_mem_append, forall_mem_moreItemTokens, List.forall_mem_cons]
    exact ⟨fun h => h.2, fun h => ⟨trivial, h⟩⟩

theorem isWhole_object_iff {members : List (String × Json)} :
    (object members).IsWhole ↔ ∀ m ∈ members, m.2.IsWhole := by
  rw [IsWhole, tokens, List.forall_mem_cons]
  cases members with
  | nil => simp [memberTokens, Token.IsWhole]
  | cons m more =>
    obtain ⟨k, j⟩ := m
    rw [memberTokens, List.forall_mem_cons, List.forall_mem_cons, List.forall_mem_append,
      forall_mem_moreMemberTokens, List.forall_mem_cons]
    exact ⟨fun h => h.2.2.2, fun h => ⟨trivial, trivial, trivial, h⟩⟩

/-! ## Nesting -/

theorem depthItems_le {items : List Json} {n : Nat} (h : ∀ j ∈ items, j.depth ≤ n) :
    depthItems items ≤ n := by
  induction items with
  | nil => exact Nat.zero_le n
  | cons j more ih =>
    rw [depthItems]
    exact Nat.max_le.2
      ⟨h j (List.mem_cons_self ..), ih fun i hi => h i (List.mem_cons_of_mem _ hi)⟩

/-! ## From characters to tokens -/

/-- The characters of tokens. -/
def spell (ts : List Token) : List Char := ts.flatMap Token.text

theorem spell_cons_append (t : Token) (ts : List Token) (rest : List Char) :
    spell (t :: ts) ++ rest = t.text ++ (spell ts ++ rest) := by
  simp [spell]

theorem spell_append_append (ts us : List Token) (rest : List Char) :
    spell (ts ++ us) ++ rest = spell ts ++ (spell us ++ rest) := by
  simp [spell]

theorem lex_spell_cons {t : Token} (ht : t.IsWhole) {ts : List Token} {rest : List Char}
    (hr : ∀ n, t = .scalar (.number n) → Stops (spell ts ++ rest))
    (h : lex (spell ts ++ rest) = (lex rest).map (ts ++ ·)) :
    lex (spell (t :: ts) ++ rest) = (lex rest).map (t :: ts ++ ·) := by
  rw [spell_cons_append, lex_text_append ht hr, h, Option.map_map]
  rfl

/-- Only a number minds what follows it. -/
theorem lex_spell_mark {t : Token} (ht : ∀ n, t ≠ .scalar (.number n)) {ts : List Token}
    {rest : List Char} (h : lex (spell ts ++ rest) = (lex rest).map (ts ++ ·)) :
    lex (spell (t :: ts) ++ rest) = (lex rest).map (t :: ts ++ ·) := by
  refine lex_spell_cons ?_ (fun n hn => absurd hn (ht n)) h
  rcases t with _ | _ | _ | _ | _ | _ | (_ | _ | n | _) <;>
    first | trivial | exact absurd rfl (ht n)

theorem stops_cons {c : Char} (hc : isDigit c = false ∧ c ≠ '.' ∧ c ≠ 'e' ∧ c ≠ 'E')
    (cs : List Char) : Stops (c :: cs) := by
  intro d hd
  rw [List.head?_cons, Option.mem_some_iff] at hd
  exact hd ▸ hc

theorem stops_moreItemTokens (items : List Json) (rest : List Char) :
    Stops (spell (moreItemTokens items) ++ rest) := by
  cases items <;> exact stops_cons (by decide) _

theorem stops_moreMemberTokens (members : List (String × Json)) (rest : List Char) :
    Stops (spell (moreMemberTokens members) ++ rest) := by
  cases members <;> exact stops_cons (by decide) _

mutual

/-- **The tokens of a value are cut out of its characters**, whatever follows that does not go on
with a number. -/
theorem lex_tokens (j : Json) (hj : j.IsWhole) {rest : List Char} (hr : Stops rest) :
    lex (spell j.tokens ++ rest) = (lex rest).map (j.tokens ++ ·) := by
  -- Only a scalar ends in a number; items and members are followed by a mark of their own.
  cases j with
  | scalar s =>
    exact lex_spell_cons (hj _ (List.mem_cons_self ..)) (fun _ _ => hr) (by simp [spell])
  | array items =>
    exact lex_spell_mark (by simp) (lex_itemTokens items (isWhole_array_iff.1 hj) rest)
  | object members =>
    exact lex_spell_mark (by simp) (lex_memberTokens members (isWhole_object_iff.1 hj) rest)

theorem lex_itemTokens (items : List Json) (h : ∀ j ∈ items, j.IsWhole) (rest : List Char) :
    lex (spell (itemTokens items) ++ rest) = (lex rest).map (itemTokens items ++ ·) := by
  match items, h with
  | [], _ => exact lex_spell_mark (by simp) (by simp [spell])
  | j :: more, h =>
    rw [List.forall_mem_cons] at h
    rw [itemTokens, spell_append_append, lex_tokens j h.1 (stops_moreItemTokens more rest),
      lex_moreItemTokens more h.2 rest, Option.map_map]
    simp [Function.comp_def]

theorem lex_moreItemTokens (items : List Json) (h : ∀ j ∈ items, j.IsWhole) (rest : List Char) :
    lex (spell (moreItemTokens items) ++ rest) = (lex rest).map (moreItemTokens items ++ ·) := by
  match items, h with
  | [], _ => exact lex_spell_mark (by simp) (by simp [spell])
  | j :: more, h =>
    rw [List.forall_mem_cons] at h
    apply lex_spell_mark (by simp)
    rw [spell_append_append, lex_tokens j h.1 (stops_moreItemTokens more rest),
      lex_moreItemTokens more h.2 rest, Option.map_map]
    simp [Function.comp_def]

theorem lex_memberTokens (members : List (String × Json)) (h : ∀ m ∈ members, m.2.IsWhole)
    (rest : List Char) :
    lex (spell (memberTokens members) ++ rest) = (lex rest).map (memberTokens members ++ ·) := by
  match members, h with
  | [], _ => exact lex_spell_mark (by simp) (by simp [spell])
  | (k, j) :: more, h =>
    rw [List.forall_mem_cons] at h
    -- The key and the colon.
    refine lex_spell_mark (by simp) (lex_spell_mark (by simp) ?_)
    rw [spell_append_append, lex_tokens j h.1 (stops_moreMemberTokens more rest),
      lex_moreMemberTokens more h.2 rest, Option.map_map]
    simp [Function.comp_def]

theorem lex_moreMemberTokens (members : List (String × Json)) (h : ∀ m ∈ members, m.2.IsWhole)
    (rest : List Char) :
    lex (spell (moreMemberTokens members) ++ rest) =
      (lex rest).map (moreMemberTokens members ++ ·) := by
  match members, h with
  | [], _ => exact lex_spell_mark (by simp) (by simp [spell])
  | (k, j) :: more, h =>
    rw [List.forall_mem_cons] at h
    -- The comma, the key and the colon.
    refine lex_spell_mark (by simp) (lex_spell_mark (by simp) (lex_spell_mark (by simp) ?_))
    rw [spell_append_append, lex_tokens j h.1 (stops_moreMemberTokens more rest),
      lex_moreMemberTokens more h.2 rest, Option.map_map]
    simp [Function.comp_def]

end

/-! ## From tokens to values -/

/-- An array that does not end at once starts with a value. -/
theorem run_firstItem (j : Json) (outer : List Context) (ts : List Token) :
    run (.firstItem outer) (j.tokens ++ ts) =
      run (.value (.array [] :: outer)) (j.tokens ++ ts) := by
  cases j <;> simp [tokens, step]

mutual

/-- **The tokens of a value denote it**, inside what is open around it. -/
theorem run_tokens (j : Json) (outer : List Context) (hd : outer.length + j.depth ≤ greatestDepth)
    (ts : List Token) : run (.value outer) (j.tokens ++ ts) = run (supply j outer) ts := by
  cases j with
  | scalar s => simp [tokens, step, start]
  | array items =>
    simp only [depth] at hd
    -- One more is open inside the brackets, and the depth leaves room for it.
    rw [tokens, List.cons_append, run_cons]
    simp only [step, start, if_pos (show outer.length < greatestDepth by omega), Option.bind_some]
    exact run_itemTokens items outer (by omega) ts
  | object members =>
    simp only [depth] at hd
    rw [tokens, List.cons_append, run_cons]
    simp only [step, start, if_pos (show outer.length < greatestDepth by omega), Option.bind_some]
    exact run_memberTokens members outer (by omega) ts

theorem run_itemTokens (items : List Json) (outer : List Context)
    (hd : outer.length + 1 + depthItems items ≤ greatestDepth) (ts : List Token) :
    run (.firstItem outer) (itemTokens items ++ ts) = run (supply (.array items) outer) ts := by
  match items with
  | [] => simp [itemTokens, step]
  | j :: more =>
    simp only [depthItems] at hd
    rw [itemTokens, List.append_assoc, run_firstItem,
      run_tokens j _ (by simp only [List.length_cons]; omega), supply,
      run_moreItemTokens more [j] outer (by omega)]
    rfl

/-- The items before are held in reverse. -/
theorem run_moreItemTokens (items before : List Json) (outer : List Context)
    (hd : outer.length + 1 + depthItems items ≤ greatestDepth) (ts : List Token) :
    run (.afterItem before outer) (moreItemTokens items ++ ts) =
      run (supply (.array (before.reverse ++ items)) outer) ts := by
  match items with
  | [] => simp [moreItemTokens, step]
  | j :: more =>
    simp only [depthItems] at hd
    rw [moreItemTokens, List.cons_append, run_cons]
    simp only [step, Option.bind_some]
    rw [List.append_assoc, run_tokens j _ (by simp only [List.length_cons]; omega), supply,
      run_moreItemTokens more (j :: before) outer (by omega)]
    simp

theorem run_memberTokens (members : List (String × Json)) (outer : List Context)
    (hd : outer.length + 1 + depthMembers members ≤ greatestDepth) (ts : List Token) :
    run (.firstKey outer) (memberTokens members ++ ts) =
      run (supply (.object members) outer) ts := by
  match members with
  | [] => simp [memberTokens, step]
  | (k, j) :: more =>
    simp only [depthMembers] at hd
    rw [memberTokens, List.cons_append, run_cons, List.cons_append]
    simp only [step, Option.bind_some, run_cons]
    rw [List.append_assoc, run_tokens j _ (by simp only [List.length_cons]; omega), supply,
      run_moreMemberTokens more [(k, j)] outer (by omega)]
    rfl

theorem run_moreMemberTokens (members before : List (String × Json)) (outer : List Context)
    (hd : outer.length + 1 + depthMembers members ≤ greatestDepth) (ts : List Token) :
    run (.afterMember before outer) (moreMemberTokens members ++ ts) =
      run (supply (.object (before.reverse ++ members)) outer) ts := by
  match members with
  | [] => simp [moreMemberTokens, step]
  | (k, j) :: more =>
    simp only [depthMembers] at hd
    rw [moreMemberTokens, List.cons_append, run_cons, List.cons_append, List.cons_append]
    simp only [step, Option.bind_some, run_cons]
    rw [List.append_assoc, run_tokens j _ (by simp only [List.length_cons]; omega), supply,
      run_moreMemberTokens more ((k, j) :: before) outer (by omega)]
    simp

end

/-! ## Values that are nested too deeply -/

mutual

/-- **The tokens of a value are refused** if too much would be open inside it. -/
theorem run_tokens_deep (j : Json) (outer : List Context) (ho : outer.length ≤ greatestDepth)
    (hd : greatestDepth < outer.length + j.depth) (ts : List Token) :
    run (.value outer) (j.tokens ++ ts) = none := by
  cases j with
  | scalar s =>
    simp only [depth] at hd
    omega
  | array items =>
    simp only [depth] at hd
    rw [tokens, List.cons_append, run_cons]
    -- The bracket is refused itself, or leaves the value inside one level less.
    by_cases hl : outer.length < greatestDepth
    · simp only [step, start, if_pos hl, Option.bind_some]
      exact run_itemTokens_deep items outer hl (by omega) ts
    · simp only [step, start, if_neg hl, Option.bind_none]
  | object members =>
    simp only [depth] at hd
    rw [tokens, List.cons_append, run_cons]
    by_cases hl : outer.length < greatestDepth
    · simp only [step, start, if_pos hl, Option.bind_some]
      exact run_memberTokens_deep members outer hl (by omega) ts
    · simp only [step, start, if_neg hl, Option.bind_none]

theorem run_itemTokens_deep (items : List Json) (outer : List Context)
    (ho : outer.length < greatestDepth)
    (hd : greatestDepth < outer.length + 1 + depthItems items) (ts : List Token) :
    run (.firstItem outer) (itemTokens items ++ ts) = none := by
  match items with
  | [] =>
    simp only [depthItems] at hd
    omega
  | j :: more =>
    simp only [depthItems] at hd
    rw [itemTokens, List.append_assoc, run_firstItem]
    -- The first item is too deep, or it is read and a further one is.
    by_cases hj : greatestDepth < outer.length + 1 + j.depth
    · exact run_tokens_deep j (.array [] :: outer) ho hj _
    · rw [run_tokens j _ (by simp only [List.length_cons]; omega), supply]
      exact run_moreItemTokens_deep more [j] outer ho (by omega) ts

theorem run_moreItemTokens_deep (items before : List Json) (outer : List Context)
    (ho : outer.length < greatestDepth)
    (hd : greatestDepth < outer.length + 1 + depthItems items) (ts : List Token) :
    run (.afterItem before outer) (moreItemTokens items ++ ts) = none := by
  match items with
  | [] =>
    simp only [depthItems] at hd
    omega
  | j :: more =>
    simp only [depthItems] at hd
    rw [moreItemTokens, List.cons_append, run_cons]
    simp only [step, Option.bind_some]
    rw [List.append_assoc]
    by_cases hj : greatestDepth < outer.length + 1 + j.depth
    · exact run_tokens_deep j (.array before :: outer) ho hj _
    · rw [run_tokens j _ (by simp only [List.length_cons]; omega), supply]
      exact run_moreItemTokens_deep more (j :: before) outer ho (by omega) ts

theorem run_memberTokens_deep (members : List (String × Json)) (outer : List Context)
    (ho : outer.length < greatestDepth)
    (hd : greatestDepth < outer.length + 1 + depthMembers members) (ts : List Token) :
    run (.firstKey outer) (memberTokens members ++ ts) = none := by
  match members with
  | [] =>
    simp only [depthMembers] at hd
    omega
  | (k, j) :: more =>
    simp only [depthMembers] at hd
    rw [memberTokens, List.cons_append, run_cons, List.cons_append]
    simp only [step, Option.bind_some, run_cons]
    rw [List.append_assoc]
    by_cases hj : greatestDepth < outer.length + 1 + j.depth
    · exact run_tokens_deep j (.object [] k :: outer) ho hj _
    · rw [run_tokens j _ (by simp only [List.length_cons]; omega), supply]
      exact run_moreMemberTokens_deep more [(k, j)] outer ho (by omega) ts

theorem run_moreMemberTokens_deep (members before : List (String × Json)) (outer : List Context)
    (ho : outer.length < greatestDepth)
    (hd : greatestDepth < outer.length + 1 + depthMembers members) (ts : List Token) :
    run (.afterMember before outer) (moreMemberTokens members ++ ts) = none := by
  match members with
  | [] =>
    simp only [depthMembers] at hd
    omega
  | (k, j) :: more =>
    simp only [depthMembers] at hd
    rw [moreMemberTokens, List.cons_append, run_cons, List.cons_append, List.cons_append]
    simp only [step, Option.bind_some, run_cons]
    rw [List.append_assoc]
    by_cases hj : greatestDepth < outer.length + 1 + j.depth
    · exact run_tokens_deep j (.object before k :: outer) ho hj _
    · rw [run_tokens j _ (by simp only [List.length_cons]; omega), supply]
      exact run_moreMemberTokens_deep more ((k, j) :: before) outer ho (by omega) ts

end

/-! ## Values -/

theorem parse?_write_eq {j : Json} (hj : j.IsWhole) :
    parse? j.write = (run (.value []) (j.tokens ++ [])).bind Reading.value? := by
  -- Nothing follows the value.
  have hl := lex_tokens j hj stops_nil
  simp only [List.append_nil] at hl ⊢
  rw [parse?, show j.write = spell j.tokens from rfl, hl, lex, Option.map_some, List.append_nil,
    Option.bind_some, ofTokens?]

/-- **A written value is read back**, if its numbers are whole and it is not nested too deeply. -/
theorem parse?_write {j : Json} (hj : j.IsWhole) (hd : j.depth ≤ greatestDepth) :
    parse? j.write = some j := by
  -- Nothing is open around the value.
  rw [parse?_write_eq hj, run_tokens j [] (by simpa using hd) []]
  rfl

/-- A written value is refused if it is nested too deeply. -/
theorem parse?_write_deep {j : Json} (hj : j.IsWhole) (hd : greatestDepth < j.depth) :
    parse? j.write = none := by
  rw [parse?_write_eq hj, run_tokens_deep j [] (Nat.zero_le _) (by simpa using hd) []]
  rfl

/-- **A written value holds no control character.** -/
theorem le_of_mem_write {j : Json} (hj : j.IsWhole) {c : Char} (hc : c ∈ j.write) :
    0x20 ≤ c.toNat := by
  obtain ⟨t, ht, hc⟩ := List.mem_flatMap.1 hc
  exact Token.le_of_mem_text (hj t ht) hc

end SuitePool.Json
