import Mathlib.Data.List.Basic
import Mathlib.Tactic.Common
import SuitePool.Proofs.Loop.Steady
import SuitePool.Proofs.Pool.Isolation

/-!
# The worker loop answers line by line

Each line of a worker's input is a request: a blank one, a task, a text that holds no task, or bytes
that are no text.  The loop answers the requests in their order and writes one frame for each that
is not blank.  It stops before its input ends at the first line that is no text, at the first reply
that the stream refuses, or at a task that is never answered, because suite code ends the process or
a panic leaves a case; nothing behind that line is done.

## Main definitions

* `requests`: what the lines of an input ask for.
* `Request.reply?`, `replies`, `framed`: the replies that are due, and their frames.
* `Request.seen`, `seen`: all that is seen while requests are served.
* `Request.IsServed`, `Request.BreaksOff`: the loop goes on behind the request, or does not.
* `Sink.Takes`, `Sink.TakesAll`: a stream that refuses no part of a reply, or of several.
* `AnswersLines`: how a loop over an input proceeds and ends.

## Main results

* `Text.taskLines_line`, `Text.taskLines_last`: how an input is cut into lines.
* `shows_foldlM_served`: requests that are served are answered in their order.
* `found_framed`: the frames of replies, cut into lines, are read as these replies.
* `answersLines_serve`: the loop over any input answers line by line.
-/

namespace SuitePool

open Text

variable {σ ε α β : Type}

/-! ## Lines -/

namespace Text

theorem byteLines_line {l : Bytes} (hl : lineFeed ∉ l) (rest : Bytes) :
    byteLines (l ++ lineFeed :: rest) = (l ++ [lineFeed]) :: byteLines rest := by
  obtain ⟨b, bs, hb⟩ : ∃ b bs, l ++ lineFeed :: rest = b :: bs :=
    List.exists_cons_of_ne_nil (by simp)
  rw [hb, byteLines, ← hb, cutLine_append_lineFeed hl]

/-- **A line feed ends a line**, and a carriage return directly before it goes with it. -/
theorem taskLines_line {l : Bytes} (hl : lineFeed ∉ l) (rest : Bytes) :
    taskLines (l ++ lineFeed :: rest) =
      (if l.getLast? = some carriageReturn then l.dropLast else l) :: taskLines rest := by
  have hline : taskLine (l ++ [lineFeed]) =
      if l.getLast? = some carriageReturn then l.dropLast else l := by
    rw [taskLine, List.reverse_append, List.reverse_singleton, List.singleton_append]
    rcases List.eq_nil_or_concat l with rfl | ⟨l, c, rfl⟩
    · rfl
    · simp
  rw [taskLines, byteLines_line hl, List.map_cons, hline, taskLines]

/-- What follows the last line feed is a line as it stands, unless it is empty. -/
theorem taskLines_last {l : Bytes} (hl : lineFeed ∉ l) (hne : l ≠ []) : taskLines l = [l] := by
  obtain ⟨b, bs, rfl⟩ := List.exists_cons_of_ne_nil hne
  rw [taskLines, byteLines, cutLine_of_not_mem hl, byteLines, List.map_singleton, taskLine]
  obtain ⟨c, cs, hc⟩ := List.exists_cons_of_ne_nil (List.reverse_ne_nil_iff.2 hne)
  have hlast : c ≠ lineFeed := by
    rintro rfl
    exact hl (List.mem_reverse.1 (hc ▸ List.mem_cons_self ..))
  rw [hc]
  simp only [if_neg hlast]

end Text

/-! ## Requests -/

namespace Request

theorem ofLine_eq_unreadable_iff {line : Bytes} :
    ofLine line = .unreadable ↔ Utf8.decode? line = none := by
  unfold ofLine
  cases Utf8.decode? line with
  | none => simp
  | some cs =>
    dsimp only
    split_ifs
    · simp
    · cases Task.parse? cs <;> simp

variable [Wording] (site : Site σ)

/-- **The reply that is due**: none to a blank line, nor if the process ends instead. -/
def reply? : Request → Option Reply
  | unreadable | blank => none
  | malformed text => some (malformedTask text)
  | task t => t.reply? site

/-- What is seen before the reply is written. -/
def events : Request → List Event
  | task t => (t.run site).events
  | _ => []

/-- **Does the loop go on behind the request?** -/
def IsServed (q : Request) : Prop := q = .blank ∨ (q.reply? site).isSome

instance (q : Request) : Decidable (q.IsServed site) := inferInstanceAs (Decidable (_ ∨ _))

/-- **Is the request never answered**, because suite code ends the process or a panic is not
caught? -/
def BreaksOff (e : Ending Empty Empty) (q : Request) : Prop :=
  ∃ t, q = .task t ∧ (t.run site).ending = e.ofEmpty

variable {site}

/-- A request that is served comes to its reply, or to none. -/
theorem shows_answer {q : Request} (h : q.IsServed site) :
    (q.answer site).Shows (q.events site) (.finished (q.reply? site)) := by
  cases q with
  | unreadable => rcases h with h | h <;> cases h
  | blank => exact ⟨rfl, rfl⟩
  | malformed => exact ⟨rfl, rfl⟩
  | task t =>
    rcases h with h | h
    · cases h
    · obtain ⟨r, hr⟩ := Option.isSome_iff_exists.1 h
      have hrun : (t.run site).Shows (t.run site).events (.finished r) :=
        ⟨rfl, Task.finished_of_reply? hr⟩
      rw [hr, ← List.append_nil (events site _)]
      exact hrun.bind ⟨rfl, rfl⟩

/-- **A line of text is served, or is never answered**, and that because of a panic only if a panic
leaves a case. -/
theorem isServed_or_breaksOff (hg : site.registry.HasSteadyGetters site.host) {q : Request}
    (hq : q ≠ .unreadable) :
    q.IsServed site ∨ ∃ e, q.BreaksOff site e ∧
      (site.registry.LeaksNoPanic site.host → e.isPanic = false) := by
  cases q with
  | unreadable => exact absurd rfl hq
  | blank => exact .inl (.inl rfl)
  | malformed => exact .inl (.inr rfl)
  | task t =>
    rcases Task.ending_run hg t with ⟨r, hr⟩ | ⟨code, hc⟩ | ⟨message, hm, -, hleaks⟩
    · refine .inl (.inr ?_)
      rw [reply?, Task.reply?, hr]
      rfl
    · exact .inr ⟨.exited code, ⟨t, rfl, hc⟩, fun _ => rfl⟩
    · exact .inr ⟨.panicked message, ⟨t, rfl, hm⟩, fun hl => absurd hl hleaks⟩

/-- **A line of text is served** if all code of the suites is tame. -/
theorem isServed_of_isTameIn (hr : site.registry.IsTameIn site.host) {q : Request}
    (hq : q ≠ .unreadable) : q.IsServed site := by
  cases q with
  | unreadable => exact absurd rfl hq
  | blank => exact .inl rfl
  | malformed => exact .inr rfl
  | task t => exact .inr (Task.isSome_reply? hr t)

/-- Every reply can be read back. -/
theorem isStored_of_reply? {q : Request} {r : Reply} (h : q.reply? site = some r) :
    r.IsStored := by
  cases q with
  | unreadable | blank => cases h
  | malformed =>
    cases h
    exact trivial
  | task t => exact Task.isStored_of_reply? h

end Request

/-! ## Replies and their frames -/

/-- The frames of replies, each on a line of its own. -/
def framed (rs : List Reply) : Bytes := rs.flatMap Reply.line

/-- What is seen while a reply is written. -/
def Reply.writes (r : Reply) : List Event :=
  [.wrote [lineFeed], .wrote r.frameBytes, .wrote [lineFeed]]

theorem Reply.writtenBytes_writes (r : Reply) : writtenBytes r.writes = r.line := by
  simp [Reply.writes, writtenBytes, Reply.line]

/-- The replies that are due to requests. -/
def replies [Wording] (site : Site σ) (qs : List Request) : List Reply :=
  qs.filterMap (·.reply? site)

/-- What is seen while a request is served. -/
def Request.seen [Wording] (site : Site σ) (q : Request) : List Event :=
  q.events site ++ (q.reply? site).toList.flatMap Reply.writes

/-- **All that is seen while requests are served.** -/
def seen [Wording] (site : Site σ) (qs : List Request) : List Event := qs.flatMap (·.seen site)

/-- Nothing is written while a request is answered. -/
theorem Request.writtenBytes_events (site : Site σ) (q : Request) :
    writtenBytes (q.events site) = [] := by
  cases q with
  | task t => exact Task.writtenBytes_run site t
  | _ => rfl

theorem framed_append (rs ss : List Reply) : framed (rs ++ ss) = framed rs ++ framed ss :=
  List.flatMap_append

theorem replies_cons [Wording] (site : Site σ) (q : Request) (qs : List Request) :
    replies site (q :: qs) = (q.reply? site).toList ++ replies site qs :=
  Pool.filterMap_cons_toList ..

/-- **What is written are the frames of the replies**, and nothing else. -/
theorem writtenBytes_seen [Wording] (site : Site σ) (qs : List Request) :
    writtenBytes (seen site qs) = framed (replies site qs) := by
  induction qs with
  | nil => rfl
  | cons q qs ih =>
    have hq : writtenBytes (q.seen site) = framed (q.reply? site).toList := by
      rw [Request.seen, writtenBytes_append, q.writtenBytes_events, List.nil_append]
      cases q.reply? site with
      | none => rfl
      | some r => simp [framed, r.writtenBytes_writes]
    rw [seen, List.flatMap_cons, writtenBytes_append, ← seen, ih, hq, replies_cons, framed_append]

/-- **The frames of replies, cut into lines, are read as these replies**, each behind a blank
line. -/
theorem found_framed {rs : List Reply} (h : ∀ r ∈ rs, r.IsStored) :
    (byteLines (framed rs)).map (fun line => Reply.decode (shownLine line)) =
      rs.flatMap fun r => [.text, .reply r] := by
  induction rs with
  | nil => simp [framed, byteLines]
  | cons r rs ih =>
    rw [List.forall_mem_cons] at h
    have hcut : byteLines (framed (r :: rs)) =
        [lineFeed] :: (r.frameBytes ++ [lineFeed]) :: byteLines (framed rs) := by
      calc byteLines (framed (r :: rs))
          = byteLines ([] ++ lineFeed :: (r.frameBytes ++ lineFeed :: framed rs)) := by
            simp [framed, Reply.line]
        _ = _ := by
            rw [byteLines_line List.not_mem_nil,
              byteLines_line (Reply.lineFeed_not_mem_frameBytes h.1), List.nil_append]
    have htext : Reply.decode (shownLine [lineFeed]) = .text :=
      decode_shownLine_eq_text_iff.2 (by decide)
    have hreply : Reply.decode (shownLine (r.frameBytes ++ [lineFeed])) = .reply r := by
      rw [Reply.frameBytes, shownLine_encode fun _ hc => Reply.endsLine_of_mem_frame h.1.isExact hc,
        Reply.decode_frame h.1]
    rw [hcut, List.map_cons, List.map_cons, htext, hreply, ih h.2]
    rfl

/-! ## Streams that take replies -/

namespace Sink

/-- **Does a stream refuse no part of a reply**, nor to be flushed behind it? -/
def Takes (sink : Sink) (taken : Bytes) (r : Reply) : Prop :=
  sink.refusesWrite taken [lineFeed] = none ∧
  sink.refusesWrite (taken ++ [lineFeed]) r.frameBytes = none ∧
  sink.refusesWrite (taken ++ [lineFeed] ++ r.frameBytes) [lineFeed] = none ∧
  sink.refusesFlush (taken ++ r.line) = none

/-- Does a stream take all of these replies, one behind the other? -/
def TakesAll (sink : Sink) : (taken : Bytes) → List Reply → Prop
  | _, [] => True
  | taken, r :: rs => sink.Takes taken r ∧ sink.TakesAll (taken ++ r.line) rs

/-- A stream that never refuses anything takes all replies. -/
theorem takesAll_open (taken : Bytes) (rs : List Reply) : Sink.open.TakesAll taken rs := by
  induction rs generalizing taken with
  | nil => trivial
  | cons r rs ih => exact ⟨⟨rfl, rfl, rfl, rfl⟩, ih _⟩

theorem takesAll_append {sink : Sink} {taken : Bytes} {rs ss : List Reply} :
    sink.TakesAll taken (rs ++ ss) ↔
      sink.TakesAll taken rs ∧ sink.TakesAll (taken ++ framed rs) ss := by
  induction rs generalizing taken with
  | nil => simp [TakesAll, framed]
  | cons r rs ih =>
    have hf : taken ++ framed (r :: rs) = taken ++ r.line ++ framed rs := by simp [framed]
    rw [List.cons_append, TakesAll, TakesAll, ih, hf, and_assoc]

variable {sink : Sink} {taken more : Bytes}

theorem shows_write (h : sink.refusesWrite taken more = none) :
    (sink.write taken more).Shows [.wrote more] (.finished (taken ++ more)) := by
  rw [write, h]
  exact ⟨rfl, rfl⟩

theorem shows_write_refused {cause : String} (h : sink.refusesWrite taken more = some cause) :
    (sink.write taken more).Shows [] (.failed (.unwritten cause)) := by
  rw [write, h]
  exact ⟨rfl, rfl⟩

end Sink

section Send

variable {sink : Sink} {taken : Bytes} {r : Reply}

/-- **A reply that is taken** is written as a whole. -/
theorem shows_sendReply (h : sink.Takes taken r) :
    (sendReply sink taken r).Shows r.writes (.finished (taken ++ r.line)) := by
  obtain ⟨hbefore, hframe, hafter, hflush⟩ := h
  have hline : taken ++ [lineFeed] ++ r.frameBytes ++ [lineFeed] = taken ++ r.line := by
    simp [Reply.line]
  refine (Sink.shows_write hbefore).bind ((Sink.shows_write hframe).bind
    ((Sink.shows_write hafter).bind ?_))
  rw [hline]
  simp only [hflush]
  exact ⟨rfl, rfl⟩

/-- **A reply that is not taken** ends the loop; at most a part of it is written. -/
theorem shows_sendReply_refused (h : ¬ sink.Takes taken r) :
    ∃ es e, es <+: r.writes ∧ e ≠ .unreadable ∧
      (sendReply sink taken r).Shows es (.failed e) := by
  have hline : taken ++ [lineFeed] ++ r.frameBytes ++ [lineFeed] = taken ++ r.line := by
    simp [Reply.line]
  unfold sendReply
  -- The first part that is refused decides.
  cases hbefore : sink.refusesWrite taken [lineFeed] with
  | some cause => exact ⟨[], _, List.nil_prefix, by simp,
      (Sink.shows_write_refused hbefore).bind_failed⟩
  | none =>
  cases hframe : sink.refusesWrite (taken ++ [lineFeed]) r.frameBytes with
  | some cause => exact ⟨[.wrote [lineFeed]], _, ⟨_, rfl⟩, by simp,
      (Sink.shows_write hbefore).bind (Sink.shows_write_refused hframe).bind_failed⟩
  | none =>
  cases hafter : sink.refusesWrite (taken ++ [lineFeed] ++ r.frameBytes) [lineFeed] with
  | some cause => exact ⟨[.wrote [lineFeed], .wrote r.frameBytes], _, ⟨_, rfl⟩, by simp,
      (Sink.shows_write hbefore).bind
        ((Sink.shows_write hframe).bind (Sink.shows_write_refused hafter).bind_failed)⟩
  | none =>
  cases hflush : sink.refusesFlush (taken ++ r.line) with
  | none => exact absurd ⟨hbefore, hframe, hafter, hflush⟩ h
  | some cause =>
    refine ⟨r.writes, .unflushed cause, List.prefix_rfl, by simp, (Sink.shows_write hbefore).bind
      ((Sink.shows_write hframe).bind ((Sink.shows_write hafter).bind ?_))⟩
    rw [hline]
    simp only [hflush]
    exact ⟨rfl, rfl⟩

end Send

/-! ## The loop -/

/-- **What the lines of an input ask for.** -/
def requests (input : Bytes) : List Request := (taskLines input).map Request.ofLine

/-- Serves one request. -/
def serveRequest [Wording] (site : Site σ) (sink : Sink) (taken : Bytes) (q : Request) :
    Exec ServeError Bytes := do
  match ← q.answer site with
  | none => pure taken
  | some r => sendReply sink taken r

/-- The loop serves the requests of its input. -/
theorem serve_eq [Wording] (site : Site σ) (sink : Sink) (input : Bytes) :
    serve site sink input = (requests input).foldlM (serveRequest site sink) [] := by
  rw [serve, requests, taskLines, List.foldlM_map, List.foldlM_map]
  congr 1
  funext taken line
  rw [serveLine, Request.answerLine_eq]
  rfl

section Serve

variable [Wording] {site : Site σ} {sink : Sink} {taken : Bytes}

/-- A request whose reply is taken is served. -/
theorem shows_serveRequest {q : Request} (h : q.IsServed site)
    (ht : sink.TakesAll taken (q.reply? site).toList) :
    (serveRequest site sink taken q).Shows (q.seen site)
      (.finished (taken ++ framed (q.reply? site).toList)) := by
  refine (Request.shows_answer h).bind ?_
  cases hr : q.reply? site with
  | none => exact ⟨rfl, by simp [framed, pure, Exec.ofEnding]⟩
  | some r =>
    rw [hr] at ht
    simpa [framed] using shows_sendReply ht.1

/-- **Requests that are served are answered in their order**, each with its reply. -/
theorem shows_foldlM_served {qs : List Request} (h : ∀ q ∈ qs, q.IsServed site)
    (ht : sink.TakesAll taken (replies site qs)) :
    (qs.foldlM (serveRequest site sink) taken).Shows (seen site qs)
      (.finished (taken ++ framed (replies site qs))) := by
  induction qs generalizing taken with
  | nil => exact ⟨rfl, by simp [replies, framed, pure, Exec.ofEnding]⟩
  | cons q qs ih =>
    rw [List.forall_mem_cons] at h
    rw [replies_cons, Sink.takesAll_append] at ht
    rw [List.foldlM_cons, seen, List.flatMap_cons, replies_cons, framed_append,
      ← List.append_assoc]
    exact (shows_serveRequest h.1 ht.1).bind (ih h.2 ht.2)

/-- **The loop serves what comes before a request, and then the request.** -/
theorem shows_serve {input : Bytes} {before after : List Request} {q : Request}
    (hi : requests input = before ++ q :: after) (h : ∀ q ∈ before, q.IsServed site)
    (ht : sink.TakesAll [] (replies site before)) {es : List Event} {e : Ending ServeError Bytes}
    (hq : (serveRequest site sink (framed (replies site before)) q >>= fun taken =>
      after.foldlM (serveRequest site sink) taken).Shows es e) :
    (serve site sink input).Shows (seen site before ++ es) e := by
  rw [serve_eq, hi, List.foldlM_append]
  refine (shows_foldlM_served h ht).bind ?_
  rw [List.nil_append, List.foldlM_cons]
  exact hq

end Serve

/-- **The loop over an input answers line by line.** -/
structure AnswersLines [Wording] (site : Site σ) (sink : Sink) (input : Bytes) : Prop where
  /-- Each line of text is served, unless suite code ends the process or a panic leaves a case. -/
  served : ∀ q ∈ requests input, q ≠ .unreadable →
    q.IsServed site ∨ ∃ e, q.BreaksOff site e ∧
      (site.registry.LeaksNoPanic site.host → e.isPanic = false)
  /-- Each line of text is served if no suite code ends the process and no panic leaves it. -/
  tame : site.registry.IsTameIn site.host →
    ∀ q ∈ requests input, q ≠ .unreadable → q.IsServed site
  /-- If all lines are served and their replies taken, the frames of the replies are all that is
  written, and they are read as these replies, each behind a blank line. -/
  whole : (∀ q ∈ requests input, q.IsServed site) →
    sink.TakesAll [] (replies site (requests input)) →
      (serve site sink input).ending = .finished (framed (replies site (requests input))) ∧
      (serve site sink input).events = seen site (requests input) ∧
      writtenBytes (serve site sink input).events = framed (replies site (requests input)) ∧
      (byteLines (framed (replies site (requests input)))).map
          (fun line => Reply.decode (shownLine line)) =
        (replies site (requests input)).flatMap fun r => [.text, .reply r]
  /-- A line that is not UTF-8 ends the loop: only the lines before it were served. -/
  unreadable : ∀ before after, requests input = before ++ .unreadable :: after →
    (∀ q ∈ before, q.IsServed site) → sink.TakesAll [] (replies site before) →
      (serve site sink input).ending = .failed .unreadable ∧
      (serve site sink input).events = seen site before ∧
      writtenBytes (serve site sink input).events = framed (replies site before)
  /-- A reply that is refused ends the loop: its line was the last one to be served. -/
  refused : ∀ before q after r, requests input = before ++ q :: after →
    (∀ q ∈ before, q.IsServed site) → q.reply? site = some r →
    sink.TakesAll [] (replies site before) → ¬ sink.Takes (framed (replies site before)) r →
      ∃ es e, es <+: r.writes ∧ e ≠ .unreadable ∧
        (serve site sink input).ending = .failed e ∧
        (serve site sink input).events = seen site before ++ (q.events site ++ es)
  /-- A line that is never answered ends the loop: the lines before it were served, and nothing is
  written for it. -/
  brokenOff : ∀ before q after e, requests input = before ++ q :: after →
    (∀ q ∈ before, q.IsServed site) → q.BreaksOff site e →
    sink.TakesAll [] (replies site before) →
      (serve site sink input).ending = e.ofEmpty ∧
      (serve site sink input).events = seen site before ++ q.events site ∧
      writtenBytes (serve site sink input).events = framed (replies site before)

/-- **Every worker loop whose getters do not panic answers line by line.** -/
theorem answersLines_serve [Wording] {site : Site σ} (hg : site.registry.HasSteadyGetters site.host)
    (sink : Sink) (input : Bytes) : AnswersLines site sink input where
  served _ _ hq := Request.isServed_or_breaksOff hg hq
  tame hr _ _ hq := Request.isServed_of_isTameIn hr hq
  whole h ht := by
    have hs : (serve site sink input).Shows _ _ :=
      serve_eq site sink input ▸ shows_foldlM_served h ht
    refine ⟨hs.ending, hs.events, hs.events ▸ writtenBytes_seen site _,
      found_framed fun r hr => ?_⟩
    obtain ⟨q, -, hq⟩ := List.mem_filterMap.1 hr
    exact Request.isStored_of_reply? hq
  unreadable before after hi h ht := by
    have hfails : (serveRequest site sink (framed (replies site before)) .unreadable).Shows []
        (.failed .unreadable) := Exec.Shows.bind_failed ⟨rfl, rfl⟩
    have hs := shows_serve hi h ht hfails.bind_failed
    rw [List.append_nil] at hs
    exact ⟨hs.ending, hs.events, hs.events ▸ writtenBytes_seen site before⟩
  refused before q after r hi h hr ht hn := by
    obtain ⟨es, e, hpart, he, hsend⟩ := shows_sendReply_refused hn
    have hserved : q.IsServed site := .inr (hr ▸ rfl)
    have hanswer := Request.shows_answer hserved
    rw [hr] at hanswer
    have hs := shows_serve hi h ht (hanswer.bind hsend).bind_failed
    exact ⟨es, e, hpart, he, hs.ending, hs.events⟩
  brokenOff before q after e hi h hq ht := by
    obtain ⟨t, rfl, hends⟩ := hq
    have hrun : (t.run site).Shows (t.run site).events e.ofEmpty := ⟨rfl, hends⟩
    have hs := shows_serve hi h ht (hrun.bind_ofEmpty.bind_ofEmpty.bind_ofEmpty)
    refine ⟨hs.ending, hs.events, ?_⟩
    rw [hs.events, writtenBytes_append, writtenBytes_seen, Task.writtenBytes_run, List.append_nil]

/-! ## A suite with one body, in the loop -/

theorem hasSteadyGetters_soloSite (printed : Bytes) (ending : Ending Failure Unit) (h : Host) :
    (soloSite printed ending).registry.HasSteadyGetters h := by
  intro s hs name resolve hm
  rw [hasSuite_soloSite hs] at hm
  cases List.mem_singleton.1 hm

/-- The line of the solo task, a blank line, and a line that holds no task. -/
def soloInput : Bytes := Utf8.encode (soloTask.toJson.write ++ ['\n']) ++ utf8 "\r\nx"

open scoped Terse in
/-- A body that fails is answered with its report, and the line that holds no task is answered,
too. -/
theorem serve_soloInput :
    requests soloInput = [.task soloTask, .blank, .malformed "x".toList] ∧
      (serve (soloSite (utf8 "one") (.failed ["boom"])) .open soloInput).ending =
        .finished (framed (replies (soloSite (utf8 "one") (.failed ["boom"]))
          [.task soloTask, .blank, .malformed "x".toList])) := by
  have hr : requests soloInput = [.task soloTask, .blank, .malformed "x".toList] := by
    decide +kernel
  have hwhole := (answersLines_serve (hasSteadyGetters_soloSite (utf8 "one") (.failed ["boom"]) _)
    .open soloInput).whole
  rw [hr] at hwhole
  exact ⟨hr, (hwhole (by decide +kernel) (Sink.takesAll_open _ _)).1⟩

/-- The line of the solo task, and that of a run of no ids. -/
def twoTasks : Bytes :=
  Utf8.encode (soloTask.toJson.write ++ ['\n']) ++
    Utf8.encode ((Task.runTestIds []).toJson.write ++ ['\n'])

open scoped Terse in
/-- **A body that ends its process ends the loop**: two tasks are sent, no getter panics, and no
reply is written. -/
theorem serve_twoTasks_exits :
    exitingSite.registry.HasSteadyGetters exitingSite.host ∧
      requests twoTasks = [.task soloTask, .task (.runTestIds [])] ∧
      (serve exitingSite .open twoTasks).ending = .exited 3 ∧
      writtenBytes (serve exitingSite .open twoTasks).events = [] :=
  ⟨hasSteadyGetters_soloSite _ _ _, by decide +kernel, by decide +kernel, by decide +kernel⟩

end SuitePool
