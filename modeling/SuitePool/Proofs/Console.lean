import Mathlib.Data.List.Basic
import Mathlib.Tactic.Common
import SuitePool.Console
import SuitePool.Proofs.Json.Lexing
import SuitePool.Proofs.Text.Joining

/-!
# What a printed report tells

A report is printed line by line, and already the first character of a line tells what kind of line
it is: a summary, a banner, a header, a rule, or a line of a message, which is indented.  So no
message can pass for another line or hide one, whatever it says, and a printed report tells how many
cases were run and which problems there were.

## Main definitions

* `LineKind`, `kindOf`: the kinds of lines, and how to tell them.
* `headerLine`: the line that a problem starts with.
* `CaseFailure.shown`: what is printed of a problem.
* `Report.IsShownBy`: which lines a report is printed as.
* `IsEndOf`: the ends of lines.

## Main results

* `parts_unlines`: a printed text is cut into its lines.
* `messageLines_flatMap`: the lines of a message are those that it is made of.
* `shown_of_problemLines`: the lines about problems tell the problems.
* `isShownBy_reportLines`: the lines that are printed show the report.
* `printReport_laws`
-/

namespace SuitePool

open Text Decimal

/-! ## Numbers -/

namespace Decimal

theorem not_mem_digits {c : Char} (hc : isDigit c = false) (n : Nat) : c ∉ digits n := by
  intro h
  rw [isDigit_of_mem_digits n c h] at hc
  cases hc

theorem digits_injective : Function.Injective digits :=
  Function.LeftInverse.injective ofDigits_digits

/-- A number with decimal places is made of digits and a point. -/
theorem isDigit_or_point_of_mem_fixed {places : Nat} {x : Magnitude} {c : Char}
    (h : c ∈ fixed places x) : isDigit c = true ∨ c = '.' := by
  have hpadded : ∀ m n, ∀ c ∈ NumberFormat.zeros m ++ digits n, isDigit c = true := by
    intro m n c hc
    rcases List.mem_append.1 hc with hc | hc
    · rw [List.eq_of_mem_replicate hc]
      rfl
    · exact isDigit_of_mem_digits n c hc
  simp only [fixed] at h
  split_ifs at h
  · exact .inl (hpadded _ _ c h)
  · rw [List.mem_append, List.mem_cons] at h
    rcases h with h | h | h
    · exact .inl (hpadded _ _ c (List.mem_of_mem_take h))
    · exact .inr h
    · exact .inl (hpadded _ _ c (List.mem_of_mem_drop h))

end Decimal

/-! ## Texts of one line -/

/-- **Is a text of one line only?** -/
def IsLine (s : String) : Prop := '\n' ∉ s.toList

instance (s : String) : Decidable (IsLine s) := inferInstanceAs (Decidable ('\n' ∉ s.toList))

theorem isLine_append {a b : String} : IsLine (a ++ b) ↔ IsLine a ∧ IsLine b := by
  simp [IsLine]

theorem isLine_text (n : Nat) : IsLine (text n) := by
  rw [IsLine, text, String.toList_ofList]
  exact not_mem_digits rfl n

theorem isLine_secondsText (nanoseconds : Nat) : IsLine (secondsText nanoseconds) := by
  rw [secondsText]
  split
  · rw [IsLine, String.toList_ofList]
    intro h
    rcases isDigit_or_point_of_mem_fixed h with h | h <;> cases h
  · decide

/-! ### Messages -/

namespace Locale

theorem say_english_summary (count : Nat) (seconds : String) :
    english.say (.summary count seconds) =
      "Ran " ++ text count ++ " tests in " ++ seconds ++ "s" :=
  rfl

theorem say_chinese_summary (count : Nat) (seconds : String) :
    chinese.say (.summary count seconds) =
      "在 " ++ seconds ++ " 秒内运行了 " ++ text count ++ " 个测试" :=
  rfl

theorem say_english_problemCount (count : Nat) :
    english.say (.problemCount count) = "FAILURES (" ++ text count ++ ")" :=
  rfl

theorem say_chinese_problemCount (count : Nat) :
    chinese.say (.problemCount count) = "失败 (" ++ text count ++ ")" :=
  rfl

end Locale

theorem isLine_summary (locale : Locale) (count : Nat) {seconds : String} (hs : IsLine seconds) :
    IsLine (locale.say (.summary count seconds)) := by
  cases locale <;>
  · simp only [Locale.say_english_summary, Locale.say_chinese_summary, isLine_append, isLine_text,
      hs, and_true]
    decide

theorem isLine_problemCount (locale : Locale) (count : Nat) :
    IsLine (locale.say (.problemCount count)) := by
  cases locale <;>
  · simp only [Locale.say_english_problemCount, Locale.say_chinese_problemCount, isLine_append,
      isLine_text, and_true]
    decide

theorem isLine_label (locale : Locale) (r : Reason) : IsLine (locale.say (.reason r)) := by
  cases locale <;> cases r <;> decide

theorem mem_of_mem_dropReturn {c : Char} {line : List Char} (h : c ∈ dropReturn line) :
    c ∈ line := by
  rw [dropReturn] at h
  split at h
  · next r hr =>
    rw [← List.mem_reverse, hr]
    exact List.mem_cons_of_mem _ (List.mem_reverse.1 h)
  · exact h

/-! ### The lines of a message -/

theorem dropReturn_append (line : List Char) : dropReturn (line ++ ['\r']) = line := by
  simp [dropReturn]

theorem dropReturn_of_getLast? {line : List Char} (h : line.getLast? ≠ some '\r') :
    dropReturn line = line := by
  rw [dropReturn]
  split
  · next r hr =>
    rw [← List.head?_reverse, hr] at h
    exact absurd rfl h
  · rfl

/-- A line feed ends a line, and a carriage return directly before it goes with it. -/
theorem messageLines_append {line : List Char} (h : '\n' ∉ line) (rest : List Char) :
    messageLines (line ++ '\n' :: rest) = dropReturn line :: messageLines rest := by
  obtain ⟨part, more, hparts⟩ : ∃ part more, parts '\n' rest = part :: more := ⟨_, _, rfl⟩
  simp only [messageLines, parts_append_sep h, hparts, List.dropLast_cons_cons,
    List.getLast?_cons_cons, List.map_cons]
  cases (part :: more).getLast? with
  | none => rfl
  | some last => cases last <;> rfl

/-- What follows the last line feed is a line as it stands, unless it is empty. -/
theorem messageLines_of_not_mem {line : List Char} (h : '\n' ∉ line) :
    messageLines line = if line = [] then [] else [line] := by
  rw [messageLines, parts_of_not_mem h]
  cases line <;> rfl

/-- **Is this the end of a line?**  A line feed alone does not end a line whose last character is a
carriage return. -/
def IsEndOf (line ending : List Char) : Prop :=
  ending = ['\n'] ∧ line.getLast? ≠ some '\r' ∨ ending = ['\r', '\n']

/-- An ended line and what stands behind it. -/
theorem messageLines_ended {line ending : List Char} (h : '\n' ∉ line) (he : IsEndOf line ending)
    (rest : List Char) : messageLines (line ++ ending ++ rest) = line :: messageLines rest := by
  rcases he with ⟨rfl, hlast⟩ | rfl
  · rw [List.append_assoc, List.singleton_append, messageLines_append h,
      dropReturn_of_getLast? hlast]
  · have hreturn : '\n' ∉ line ++ ['\r'] := by simp [h]
    have hcut := messageLines_append hreturn rest
    rw [dropReturn_append] at hcut
    simpa using hcut

/-- **The lines of a message are those that it is made of**, each with its end, and what stands
behind them. -/
theorem messageLines_flatMap {ended : List (List Char × List Char)} {last : List Char}
    (h : ∀ e ∈ ended, '\n' ∉ e.1 ∧ IsEndOf e.1 e.2) (hlast : '\n' ∉ last) :
    messageLines (ended.flatMap (fun e => e.1 ++ e.2) ++ last) =
      ended.map (·.1) ++ if last = [] then [] else [last] := by
  induction ended with
  | nil => exact messageLines_of_not_mem hlast
  | cons e ended ih =>
    rw [List.forall_mem_cons] at h
    rw [List.flatMap_cons, List.append_assoc, messageLines_ended h.1.1 h.1.2, ih h.2]
    rfl

/-- The lines of a message are lines. -/
theorem not_mem_of_mem_messageLines {cs line : List Char} (h : line ∈ messageLines cs) :
    '\n' ∉ line := by
  have hended : ∀ line ∈ (parts '\n' cs).dropLast.map dropReturn, '\n' ∉ line := by
    intro line hline hc
    obtain ⟨part, hpart, rfl⟩ := List.mem_map.1 hline
    exact not_mem_of_mem_parts (List.dropLast_subset _ hpart) (mem_of_mem_dropReturn hc)
  simp only [messageLines] at h
  split at h
  · exact hended line h
  · next last hlast =>
    rcases List.mem_append.1 h with h | h
    · exact hended line h
    · rw [List.mem_singleton.1 h]
      exact not_mem_of_mem_parts (List.mem_of_getLast? hlast)
  · exact hended line h

theorem isLine_of_mem_messageBlock {message line : String} (h : line ∈ messageBlock message) :
    IsLine line := by
  obtain ⟨cs, hcs, rfl⟩ := List.mem_map.1 h
  refine isLine_append.2 ⟨by decide, ?_⟩
  rw [IsLine, String.toList_ofList]
  exact not_mem_of_mem_messageLines hcs

/-! ## The lines of a report -/

/-- The line that a problem starts with, the one with a number out of `count`. -/
def headerLine (locale : Locale) (count number : Nat) (f : CaseFailure) : String :=
  "[" ++ text number ++ "/" ++ text count ++ "] " ++ locale.say (.reason f.reason) ++ " '"
    ++ f.id.text ++ "'"

/-- A block without colours: a header, an indented message and a rule. -/
theorem problemBlock_eq (locale : Locale) (count number : Nat) (f : CaseFailure) :
    problemBlock false locale count number f =
      headerLine locale count number f :: messageBlock f.message ++ [rule] :=
  rfl

/-- The blocks are those of the problems with their numbers. -/
theorem problemBlocks_eq (colours : Bool) (locale : Locale) (count number : Nat)
    (fs : List CaseFailure) :
    problemBlocks colours locale count number fs =
      (fs.zipIdx number).flatMap fun p => problemBlock colours locale count p.2 p.1 := by
  induction fs generalizing number with
  | nil => rfl
  | cons f fs ih => rw [problemBlocks, ih, List.zipIdx_cons, List.flatMap_cons]

/-- **Every line of a report is one line**, if the ids are. -/
theorem isLine_of_mem_reportLines {locale : Locale} {r : Report}
    (hr : ∀ f ∈ r.problems, IsLine f.id.text) :
    ∀ line ∈ reportLines false locale r, IsLine line := by
  have hrule : IsLine rule := by decide
  have hblock : ∀ count number, ∀ f ∈ r.problems,
      ∀ line ∈ problemBlock false locale count number f, IsLine line := by
    intro count number f hf line hline
    rw [problemBlock_eq, List.cons_append, List.mem_cons, List.mem_append,
      List.mem_singleton] at hline
    rcases hline with rfl | hline | rfl
    · simp only [headerLine, isLine_append, isLine_text, isLine_label, hr f hf, and_true]
      decide
    · exact isLine_of_mem_messageBlock hline
    · exact hrule
  intro line hline
  rw [reportLines, List.mem_cons, problemLines] at hline
  rcases hline with rfl | hline
  · exact isLine_summary locale _ (isLine_secondsText _)
  · split_ifs at hline
    · cases hline
    · rw [List.mem_cons, List.mem_cons, List.mem_cons, problemBlocks_eq, List.mem_flatMap] at hline
      rcases hline with rfl | rfl | rfl | ⟨p, hp, hline⟩
      · decide
      · exact isLine_problemCount locale _
      · exact hrule
      · exact hblock _ _ p.1 (List.fst_mem_of_mem_zipIdx hp) line hline

/-! ## Cutting a text into lines -/

/-- **A printed text is cut into its lines.** -/
theorem parts_unlines {lines : List String} (h : ∀ line ∈ lines, IsLine line) :
    parts '\n' (unlines lines).toList = lines.map String.toList ++ [[]] := by
  induction lines with
  | nil => rfl
  | cons line lines ih =>
    rw [List.forall_mem_cons] at h
    have hcons : (unlines (line :: lines)).toList =
        line.toList ++ '\n' :: (unlines lines).toList := by
      simp [unlines]
    rw [hcons, parts_append_sep h.1, ih h.2, List.map_cons, List.cons_append]

/-- A printed text tells its lines. -/
theorem unlines_injective {lines lines' : List String} (h : ∀ line ∈ lines, IsLine line)
    (h' : ∀ line ∈ lines', IsLine line) (he : unlines lines = unlines lines') :
    lines = lines' := by
  have hparts := parts_unlines h
  rw [he, parts_unlines h'] at hparts
  exact (List.map_injective_iff.2 (fun _ _ => String.toList_inj.1)
    (List.append_cancel_right hparts)).symm

/-! ## Kinds of lines -/

/-- The kinds of lines in a printed report. -/
inductive LineKind where
  | blank
  | summary
  | banner
  | rule
  | header
  | message
  | other
  deriving DecidableEq

/-- What a summary starts with. -/
def Locale.summaryMark : Locale → Char
  | english => 'R'
  | chinese => '在'

/-- What a banner starts with. -/
def Locale.bannerMark : Locale → Char
  | english => 'F'
  | chinese => '失'

/-- **The kind of a line**, which its first character tells. -/
def kindOf (locale : Locale) (line : String) : LineKind :=
  match line.toList.head? with
  | none => .blank
  | some c =>
    if c = ' ' then .message
    else if c = '[' then .header
    else if c = '-' then .rule
    else if c = locale.bannerMark then .banner
    else if c = locale.summaryMark then .summary
    else .other

/-- What a line starts with tells its kind. -/
theorem kindOf_append (locale : Locale) {a : String} (ha : a ≠ "") (b : String) :
    kindOf locale (a ++ b) = kindOf locale a := by
  have hne : a.toList ≠ [] := by simpa using ha
  rw [kindOf, String.toList_append, List.head?_append_of_ne_nil _ hne, kindOf]

theorem kindOf_summary (locale : Locale) (count : Nat) (seconds : String) :
    kindOf locale (locale.say (.summary count seconds)) = .summary := by
  cases locale <;>
  · simp only [Locale.say_english_summary, Locale.say_chinese_summary, String.append_assoc]
    rw [kindOf_append _ (by decide)]
    rfl

theorem kindOf_banner (locale : Locale) (count : Nat) :
    kindOf locale (locale.say (.problemCount count)) = .banner := by
  cases locale <;>
  · simp only [Locale.say_english_problemCount, Locale.say_chinese_problemCount,
      String.append_assoc]
    rw [kindOf_append _ (by decide)]
    rfl

theorem kindOf_rule (locale : Locale) : kindOf locale rule = .rule := by
  cases locale <;> decide

theorem kindOf_headerLine (locale : Locale) (count number : Nat) (f : CaseFailure) :
    kindOf locale (headerLine locale count number f) = .header := by
  simp only [headerLine, String.append_assoc]
  rw [kindOf_append _ (by decide)]
  cases locale <;> rfl

/-- **Every line of a message is indented**, so it is told from other lines. -/
theorem kindOf_of_mem_messageBlock {locale : Locale} {message line : String}
    (h : line ∈ messageBlock message) : kindOf locale line = .message := by
  obtain ⟨cs, -, rfl⟩ := List.mem_map.1 h
  rw [kindOf_append _ (by decide)]
  cases locale <;> rfl

/-- There are no lines of other kinds in a message. -/
theorem filter_messageBlock {locale : Locale} {k : LineKind} (hk : k ≠ .message)
    (message : String) : (messageBlock message).filter (kindOf locale · = k) = [] := by
  refine List.filter_eq_nil_iff.2 fun line hline => ?_
  rw [kindOf_of_mem_messageBlock hline, decide_eq_true_eq]
  exact hk.symm

/-- **A block has one header.** -/
theorem filter_header_problemBlock (locale : Locale) (count number : Nat) (f : CaseFailure) :
    (problemBlock false locale count number f).filter (kindOf locale · = .header) =
      [headerLine locale count number f] := by
  rw [problemBlock_eq, List.cons_append, List.filter_cons_of_pos, List.filter_append,
    filter_messageBlock (by decide), List.nil_append, List.filter_cons_of_neg, List.filter_nil]
  · rw [kindOf_rule]
    decide
  · rw [kindOf_headerLine]
    decide

/-- A block has lines of three kinds only. -/
theorem filter_problemBlock {locale : Locale} {k : LineKind} (hm : k ≠ .message) (hh : k ≠ .header)
    (hr : k ≠ .rule) (count number : Nat) (f : CaseFailure) :
    (problemBlock false locale count number f).filter (kindOf locale · = k) = [] := by
  rw [problemBlock_eq, List.cons_append, List.filter_cons_of_neg, List.filter_append,
    filter_messageBlock hm, List.nil_append, List.filter_cons_of_neg, List.filter_nil]
  · rw [kindOf_rule, decide_eq_true_eq]
    exact hr.symm
  · rw [kindOf_headerLine, decide_eq_true_eq]
    exact hh.symm

/-! ## What lines tell -/

/-- **A summary tells how many cases were run.** -/
theorem count_of_summary {locale : Locale} {count count' : Nat} {seconds seconds' : String}
    (h : locale.say (.summary count seconds) = locale.say (.summary count' seconds')) :
    count = count' := by
  have hspace (n : Nat) : ' ' ∉ digits n := not_mem_digits rfl n
  cases locale with
  | english =>
    -- The number ends at the first space behind it.
    have hl := congrArg String.toList h
    simp only [Locale.say_english_summary, String.toList_append, List.append_assoc, text,
      String.toList_ofList, List.append_cancel_left_eq,
      show " tests in ".toList = ' ' :: "tests in ".toList by decide, List.cons_append] at hl
    exact digits_injective (append_sep_inj (hspace count) (hspace count') hl).1
  | chinese =>
    -- The number starts behind the last space before it.
    have hsay (n : Nat) (s : String) : (Locale.chinese.say (.summary n s)).toList =
        ("在 " ++ s ++ " 秒内运行了").toList ++ ' ' :: digits n ++ " 个测试".toList := by
      rw [Locale.say_chinese_summary, show " 秒内运行了 " = " 秒内运行了" ++ " " by decide]
      simp [text]
    have hl := congrArg String.toList h
    rw [hsay, hsay, List.append_cancel_right_eq] at hl
    have hsplit := congrArg (splitLast ' ') hl
    rw [splitLast_append (hspace count), splitLast_append (hspace count'), Option.some.injEq,
      Prod.mk.injEq] at hsplit
    exact digits_injective hsplit.2

/-- **A banner tells how many problems there are.** -/
theorem count_of_banner {locale : Locale} {count count' : Nat}
    (h : locale.say (.problemCount count) = locale.say (.problemCount count')) :
    count = count' := by
  have hl := congrArg String.toList h
  cases locale <;>
  · simp only [Locale.say_english_problemCount, Locale.say_chinese_problemCount,
      String.toList_append, text, String.toList_ofList, List.append_cancel_left_eq,
      List.append_cancel_right_eq] at hl
    exact digits_injective hl

/-- The labels of reasons start differently. -/
theorem label_injective (locale : Locale) :
    Function.Injective fun r => (locale.say (.reason r)).toList.head? := by
  intro r r' h
  revert h
  cases locale <;> cases r <;> cases r' <;> decide

/-- **A header tells the reason and the id of a problem.** -/
theorem eq_of_headerLine {locale : Locale} {count number : Nat} {f f' : CaseFailure}
    (h : headerLine locale count number f = headerLine locale count number f') :
    f.id = f'.id ∧ f.reason = f'.reason := by
  have hl := congrArg String.toList h
  simp only [headerLine, String.toList_append, List.append_cancel_right_eq] at hl
  simp only [List.append_assoc, List.append_cancel_left_eq] at hl
  have hne (r : Reason) : (locale.say (.reason r)).toList ≠ [] := by
    cases locale <;> cases r <;> decide
  have hhead := congrArg List.head? hl
  rw [List.head?_append_of_ne_nil _ (hne _), List.head?_append_of_ne_nil _ (hne _)] at hhead
  have hreason : f.reason = f'.reason := label_injective locale hhead
  rw [hreason, List.append_cancel_left_eq, List.append_cancel_left_eq, String.toList_inj] at hl
  exact ⟨congrArg TestId.mk hl, hreason⟩

/-- The indented lines of a message tell its lines. -/
theorem lines_of_messageBlock {message message' : String}
    (h : messageBlock message = messageBlock message') :
    messageLines message.toList = messageLines message'.toList := by
  refine List.map_injective_iff.2 (fun cs cs' hcs => ?_) h
  have hl := congrArg String.toList hcs
  rwa [String.toList_append, String.toList_append, List.append_cancel_left_eq,
    String.toList_ofList, String.toList_ofList] at hl

theorem rule_not_mem_messageBlock (message : String) : rule ∉ messageBlock message := by
  intro h
  have hk : kindOf .english rule = .message := kindOf_of_mem_messageBlock h
  rw [kindOf_rule] at hk
  cases hk

/-- What is printed of a problem besides its number: the id, the reason and the lines of the
message. -/
def CaseFailure.shown (f : CaseFailure) : TestId × Reason × List (List Char) :=
  (f.id, f.reason, messageLines f.message.toList)

/-- **Blocks tell the problems.** -/
theorem shown_of_problemBlocks {locale : Locale} {count number : Nat} {fs fs' : List CaseFailure}
    (h : problemBlocks false locale count number fs =
      problemBlocks false locale count number fs') :
    fs.map CaseFailure.shown = fs'.map CaseFailure.shown := by
  induction fs generalizing number fs' with
  | nil =>
    cases fs' with
    | nil => rfl
    | cons f' fs' => cases h
  | cons f fs ih =>
    cases fs' with
    | nil => cases h
    | cons f' fs' =>
      simp only [problemBlocks, problemBlock_eq, List.cons_append, List.append_assoc,
        List.nil_append, List.cons.injEq] at h
      obtain ⟨hheader, hrest⟩ := h
      -- The first rule ends the message.
      obtain ⟨hmessage, hblocks⟩ := append_sep_inj (rule_not_mem_messageBlock _)
        (rule_not_mem_messageBlock _) hrest
      obtain ⟨hid, hreason⟩ := eq_of_headerLine hheader
      rw [List.map_cons, List.map_cons, ih hblocks, CaseFailure.shown, CaseFailure.shown, hid,
        hreason, lines_of_messageBlock hmessage]

/-- **The lines about problems tell the problems.** -/
theorem shown_of_problemLines {locale : Locale} {fs fs' : List CaseFailure}
    (h : problemLines false locale fs = problemLines false locale fs') :
    fs.map CaseFailure.shown = fs'.map CaseFailure.shown := by
  simp only [problemLines, List.isEmpty_iff] at h
  split_ifs at h with he he' he'
  · rw [he, he']
  · simp only [List.cons.injEq, true_and] at h
    have hcount := count_of_banner h.1
    rw [hcount] at h
    exact shown_of_problemBlocks h.2

/-! ## Printed reports -/

/-- **Do these lines show a report?**  There is one summary and, if there are problems, one banner
with their number; there is one header for each problem, failures before errors and numbered from
one; and every line of a message is indented, in the block of its problem. -/
structure Report.IsShownBy (locale : Locale) (r : Report) (lines : List String) : Prop where
  summary : lines.filter (kindOf locale · = .summary) =
    [locale.say (.summary r.testsRun.toNat (secondsText r.duration))]
  banner : lines.filter (kindOf locale · = .banner) =
    if r.problems = [] then [] else [locale.say (.problemCount r.problems.length)]
  headers : lines.filter (kindOf locale · = .header) =
    ((r.failures ++ r.errors).zipIdx 1).map fun p =>
      headerLine locale r.problems.length p.2 p.1
  layout : lines =
    locale.say (.summary r.testsRun.toNat (secondsText r.duration)) ::
      if r.problems = [] then []
      else
        "" :: locale.say (.problemCount r.problems.length) :: rule ::
          ((r.failures ++ r.errors).zipIdx 1).flatMap fun p =>
            headerLine locale r.problems.length p.2 p.1 ::
              (messageLines p.1.message.toList).map (fun line => "  " ++ String.ofList line) ++
                [rule]

theorem summaryLine_eq (locale : Locale) (r : Report) :
    summaryLine false locale r =
      locale.say (.summary r.testsRun.toNat (secondsText r.duration)) :=
  rfl

/-- The lines about problems, if there are any. -/
theorem problemLines_of_ne_nil (locale : Locale) {fs : List CaseFailure} (h : fs ≠ []) :
    problemLines false locale fs = "" :: locale.say (.problemCount fs.length) :: rule ::
      (fs.zipIdx 1).flatMap fun p => problemBlock false locale fs.length p.2 p.1 := by
  rw [problemLines, if_neg (by simpa using h), problemBlocks_eq]
  rfl

/-- The lines of one kind among those about problems. -/
theorem filter_problemLines (locale : Locale) {k : LineKind} (hblank : k ≠ .blank)
    (hrule : k ≠ .rule) (fs : List CaseFailure) :
    (problemLines false locale fs).filter (kindOf locale · = k) =
      (if k = .banner ∧ fs ≠ [] then [locale.say (.problemCount fs.length)] else []) ++
        (fs.zipIdx 1).flatMap fun p =>
          (problemBlock false locale fs.length p.2 p.1).filter (kindOf locale · = k) := by
  by_cases h : fs = []
  · simp [h, problemLines]
  · have hb : kindOf locale "" = .blank := rfl
    rw [problemLines_of_ne_nil locale h]
    simp only [List.filter_cons, hb, kindOf_banner, kindOf_rule, hblank.symm, hrule.symm,
      List.filter_flatMap, decide_false, Bool.false_eq_true, if_false, decide_eq_true_eq]
    by_cases hk : k = .banner
    · simp [hk, h]
    · simp [hk, Ne.symm hk]

/-- **A report is shown by the lines that are printed.** -/
theorem isShownBy_reportLines (locale : Locale) (r : Report) :
    r.IsShownBy locale (reportLines false locale r) where
  summary := by
    rw [reportLines, summaryLine_eq, List.filter_cons_of_pos (by simp [kindOf_summary]),
      filter_problemLines locale (by decide) (by decide)]
    simp [filter_problemBlock]
  banner := by
    rw [reportLines, summaryLine_eq, List.filter_cons_of_neg (by simp [kindOf_summary]),
      filter_problemLines locale (by decide) (by decide)]
    simp [filter_problemBlock]
  headers := by
    rw [reportLines, summaryLine_eq, List.filter_cons_of_neg (by simp [kindOf_summary]),
      filter_problemLines locale (by decide) (by decide)]
    simp only [filter_header_problemBlock, List.map_eq_flatMap]
    rfl
  layout := by
    rw [reportLines, summaryLine_eq]
    split_ifs with hp
    · rw [hp]
      rfl
    · rw [problemLines_of_ne_nil locale hp]
      rfl

/-- **What a printed report tells.**  Reports whose ids are lines tell, if they are printed without
colours as the same text, of equally many cases and of the same problems, up to how the lines of
messages end.  The text of such a report is made of lines of which, whatever messages say, one is a
summary and one is a banner with the number of problems, if there are any, and which have one block
for each problem: a header with its number, the indented lines of its message, and a rule. -/
theorem printReport_laws (locale : Locale) {r r' : Report}
    (hr : ∀ f ∈ r.problems, '\n' ∉ f.id.text.toList)
    (hr' : ∀ f ∈ r'.problems, '\n' ∉ f.id.text.toList) :
    (printReport false locale r = printReport false locale r' →
      r.testsRun = r'.testsRun ∧
        r.problems.map CaseFailure.shown = r'.problems.map CaseFailure.shown) ∧
    ∃ lines : List String,
      parts '\n' (printReport false locale r).toList = lines.map String.toList ++ [[]] ∧
        r.IsShownBy locale lines := by
  have hlines : ∀ line ∈ reportLines false locale r, IsLine line := isLine_of_mem_reportLines hr
  refine ⟨fun he => ?_, reportLines false locale r, parts_unlines hlines,
    isShownBy_reportLines locale r⟩
  obtain ⟨hsummary, hproblems⟩ :=
    List.cons.inj (unlines_injective hlines (isLine_of_mem_reportLines hr') he)
  exact ⟨UInt64.toNat.inj (count_of_summary hsummary), shown_of_problemLines hproblems⟩

/-- A problem whose message looks like the end of its block and a further one. -/
def mimicReport : Report where
  testsRun := 2
  failures := [⟨⟨"m.S.one"⟩, .failed, "no\n" ++ rule ++ "\n[2/2] Failed 'm.S.two'\nno"⟩]
  errors := []
  duration := 0

/-- The problems that the message makes up. -/
def mimickedReport : Report where
  testsRun := 2
  failures := [⟨⟨"m.S.one"⟩, .failed, "no"⟩, ⟨⟨"m.S.two"⟩, .failed, "no"⟩]
  errors := []
  duration := 0

/-- The message deceives nobody. -/
theorem printReport_laws_mimic :
    (∀ f ∈ mimicReport.problems, '\n' ∉ f.id.text.toList) ∧
      (∀ f ∈ mimickedReport.problems, '\n' ∉ f.id.text.toList) ∧
      printReport false .english mimicReport ≠ printReport false .english mimickedReport ∧
      ∃ lines : List String,
        parts '\n' (printReport false .english mimicReport).toList =
            lines.map String.toList ++ [[]] ∧
          mimicReport.IsShownBy .english lines := by
  have hr : ∀ f ∈ mimicReport.problems, '\n' ∉ f.id.text.toList := by decide
  have hr' : ∀ f ∈ mimickedReport.problems, '\n' ∉ f.id.text.toList := by decide
  obtain ⟨htells, hshown⟩ := printReport_laws .english hr hr'
  have hne : mimicReport.problems.map CaseFailure.shown ≠
      mimickedReport.problems.map CaseFailure.shown :=
    fun h => absurd (congrArg List.length h) (by decide)
  exact ⟨hr, hr', fun he => hne (htells he).2, hshown⟩

end SuitePool
