/-
**One look at the logs.**

A look at the logs asks for the events from a moment on, page by page, writes those that are due,
each on a line, and moves the moment on.  Which events are due is said here without sorting
anything: they are in the order of time, and of any one moment they are the events that were
returned for it, in the order in which they were returned.

What a look does is written down as a grammar of its journal.  The host may answer as it likes, so
the grammar has a rule for each way in which a look can be cut short.

Main definitions:

* `Cutover.Service.Due` — the events that are due among those that were returned;
* `Cutover.Service.Advances` — the moment from which on events are new, after a look;
* `Cutover.Service.Reads`, `Cutover.Service.Tails` — the journal of a reading and of a look.

Main results:

* `Cutover.Service.due_iff` — what a reading returns is what is due, and nothing else is;
* `Cutover.Service.eventsSince_reads`, `Cutover.Service.tailLogs_tails` — every reading and every
  look follow the grammar;
* `Cutover.Service.Tails.complete` — a look that is not cut short has written exactly what is due;
* `Cutover.Service.Tails.sorted`, `Cutover.Service.Tails.moves` — what is written is not older than
  the moment before the look and older than the moment after it;
* `Cutover.Service.Tails.asks`, `Cutover.Service.Tails.lines` — what is asked for and written.
-/
import Mathlib.Data.List.Basic
import Cutover.Proofs.Run.Pages
import Cutover.Proofs.Sorting
import Cutover.Service.Deploy

set_option autoImplicit false

namespace Cutover.Service

variable {σ : Type} {group : String} {streams : List String} {start next : Int} {rounds : Nat}
  {returned due written : List LogEvent} {t : List Entry} {h : Host σ} {w w' : World σ}

/-! ### What is due -/

/-- The events that are due from a moment on, among those that were returned. -/
structure Due (start : Int) (returned due : List LogEvent) : Prop where
  /-- They are in the order of time. -/
  sorted : due.Pairwise (·.timestamp ≤ ·.timestamp)
  /-- Those of one moment are all that were returned for it, in their order, unless they are old. -/
  ties : ∀ n, due.filter (·.timestamp = n) =
    if start ≤ n then returned.filter (·.timestamp = n) else []

/-- The events that are due are those that are not old. -/
theorem Due.mem_iff (hdue : Due start returned due) {e : LogEvent} :
    e ∈ due ↔ e ∈ returned ∧ start ≤ e.timestamp := by
  have hties := hdue.ties e.timestamp
  have hmem : e ∈ due ↔ e ∈ due.filter (·.timestamp = e.timestamp) := by simp
  rw [hmem, hties]
  split
  · rename_i hle
    simp [hle]
  · rename_i hle
    simp [hle]

/-- What is due is determined by what was returned. -/
theorem Due.unique {due' : List LogEvent} (hdue : Due start returned due)
    (hdue' : Due start returned due') : due = due' := by
  have hfilter : ∀ n, due.filter (·.timestamp = n) = due'.filter (·.timestamp = n) := by
    intro n
    rw [hdue.ties, hdue'.ties]
  have hsorted := hdue.sorted
  have hsorted' := hdue'.sorted
  clear hdue hdue'
  induction due generalizing due' with
  | nil =>
      cases due' with
      | nil => rfl
      | cons e' rest' => simpa using hfilter e'.timestamp
  | cons e rest ih =>
      cases due' with
      | nil => simpa using hfilter e.timestamp
      | cons e' rest' =>
          obtain ⟨hle, hrest⟩ := List.pairwise_cons.1 hsorted
          obtain ⟨hle', hrest'⟩ := List.pairwise_cons.1 hsorted'
          -- each of the two first events is somewhere in the other list
          have htime : e.timestamp = e'.timestamp := by
            have hmem : e ∈ (e' :: rest').filter (·.timestamp = e.timestamp) := by
              rw [← hfilter]
              simp
            have hmem' : e' ∈ (e :: rest).filter (·.timestamp = e'.timestamp) := by
              rw [hfilter]
              simp
            simp only [List.mem_filter, List.mem_cons] at hmem hmem'
            rcases hmem.1 with rfl | hmem
            · rfl
            rcases hmem'.1 with rfl | hmem'
            · rfl
            have h₁ := hle e' hmem'
            have h₂ := hle' e hmem
            omega
          have hheads := hfilter e.timestamp
          simp only [htime, decide_true, List.filter_cons_of_pos] at hheads
          obtain ⟨rfl, -⟩ := List.cons.inj hheads
          congr 1
          refine ih (fun n => ?_) hrest hrest'
          have hn := hfilter n
          by_cases hne : e.timestamp = n
          · simpa [hne] using hn
          · simpa [hne] using hn

/-- Filtering and sorting by time gives what is due. -/
theorem due_sinceInOrder (start : Int) (returned : List LogEvent) :
    Due start returned (sinceInOrder start returned) := by
  have htrans : ∀ a b c : LogEvent, decide (a.timestamp ≤ b.timestamp) = true →
      decide (b.timestamp ≤ c.timestamp) = true → decide (a.timestamp ≤ c.timestamp) = true := by
    simp only [decide_eq_true_eq]
    intro a b c hab hbc
    omega
  have htotal : ∀ a b : LogEvent,
      (decide (a.timestamp ≤ b.timestamp) || decide (b.timestamp ≤ a.timestamp)) = true := by
    simp only [Bool.or_eq_true, decide_eq_true_eq]
    intro a b
    omega
  constructor
  · have hsorted := List.pairwise_mergeSort htrans htotal
      (returned.filter fun e => start ≤ e.timestamp)
    exact hsorted.imp fun hab => by simpa using hab
  · intro n
    -- the sort keeps the events of one moment in their order
    have hmoment : (sinceInOrder start returned).filter (·.timestamp = n) =
        (returned.filter fun e => start ≤ e.timestamp).filter (·.timestamp = n) := by
      refine filter_mergeSort htrans htotal (fun a b ha hb => ?_) _
      simp only [decide_eq_true_eq] at ha hb ⊢
      omega
    rw [hmoment, List.filter_filter]
    split
    · rename_i hle
      refine List.filter_congr fun e _ => ?_
      by_cases hn : e.timestamp = n <;> simp [hn, hle]
    · rename_i hle
      refine List.filter_eq_nil_iff.2 fun e _ => ?_
      simp only [Bool.and_eq_true, decide_eq_true_eq, not_and]
      intro hn
      omega

/-- Being due says the same as filtering and sorting by time. -/
theorem due_iff : Due start returned due ↔ due = sinceInOrder start returned := by
  constructor
  · intro hdue
    exact hdue.unique (due_sinceInOrder start returned)
  · rintro rfl
    exact due_sinceInOrder start returned

/-! ### The moment from which on events are new -/

/-- The moment from which on events are new: it stays where it was if nothing was written, and is
one more than the largest time that was written otherwise. -/
structure Advances (start : Int) (written : List LogEvent) (next : Int) : Prop where
  silent : written = [] → next = start
  above : ∀ e ∈ written, e.timestamp + 1 ≤ next
  reached : written ≠ [] → ∃ e ∈ written, next = e.timestamp + 1

/-- Behind events in the order of time, the last of them decides. -/
theorem advances_nextStart (hsorted : written.Pairwise (·.timestamp ≤ ·.timestamp)) :
    Advances start written (nextStart start written) := by
  rcases List.eq_nil_or_concat written with rfl | ⟨front, last, rfl⟩
  · exact ⟨fun _ => rfl, by simp, by simp⟩
  rw [List.concat_eq_append] at hsorted ⊢
  have hnext : nextStart start (front ++ [last]) = last.timestamp + 1 := by
    simp [nextStart]
  rw [hnext]
  constructor
  · simp
  · intro e he
    rcases List.mem_append.1 he with he | he
    · have := (List.pairwise_append.1 hsorted).2.2 e he last (by simp)
      omega
    · obtain rfl := List.mem_singleton.1 he
      omega
  · intro _
    exact ⟨last, by simp, rfl⟩

/-! ### A reading -/

/-- The request for a page of the events of streams from a moment on, with its answer. -/
def asksForEvents (group : String) (streams : List String) (start : Int) (token : Option String)
    (answer : Except Failure (Page LogEvent)) : Entry :=
  .call (.filterLogEvents group streams start token) answer

/-- The events are asked for page by page. -/
theorem fetches_events (group : String) (streams : List String) (start : Int) :
    Run.Fetches (asksForEvents group streams start) (fun token =>
      (Run.call (.filterLogEvents group streams start token) : Run σ _)) :=
  fun _ h w => ⟨_, _, Run.call_answered _ h w, Prompt.single h w _⟩

/-- The journal of a reading, which asks for so many pages at most, and what it ends with.  It is
not finished only if it has asked for all of them and there are still more. -/
def Reads (group : String) (streams : List String) (start : Int) (rounds : Nat) (t : List Entry)
    (o : Outcome (List LogEvent)) : Prop :=
  Run.Lists (asksForEvents group streams start) rounds none t o

/-- A reading returns what is due. -/
theorem eventsSince_reads (group : String) (streams : List String) (start : Int) (h : Host σ)
    (w : World σ) :
    ∃ t o w', eventsSince group streams start h w = (o.map (sinceInOrder start), w') ∧
      Prompt h w t w' ∧ Reads group streams start h.rounds t o := by
  obtain ⟨t, o, w', hall, hprompt, hlists⟩ :=
    Run.listAll_lists (fetches_events group streams start) h w
  exact ⟨t, o, w', Run.bind_pure_eq hall _, hprompt, hlists⟩

/-! ### A look -/

/-- The request that writes an event, granted. -/
def wrote (e : LogEvent) : Entry := .call (.writeLine (formatEvent e)) (.ok ())

/-- Events are written up to the first that cannot be. -/
theorem writeEvents_prompt (events : List LogEvent) (h : Host σ) (w : World σ) :
    (∃ w', writeEvents events h w = (.ok (), w') ∧ Prompt h w (events.map wrote) w') ∨
      ∃ written e rest f w', events = written ++ e :: rest ∧
        writeEvents events h w = (.failed f, w') ∧
        Prompt h w (written.map wrote ++ [.call (.writeLine (formatEvent e)) (.error f)]) w' := by
  induction events generalizing w with
  | nil => exact .inl ⟨w, rfl, .refl⟩
  | cons e rest ih =>
      have hprompt := Prompt.single h w (.writeLine (formatEvent e))
      rw [writeEvents]
      rcases hanswer : (h.answer (.writeLine (formatEvent e)) w.state).result with f | ⟨⟩
      · rw [hanswer] at hprompt
        rw [Run.bind_failed (Run.call_error hanswer)]
        exact .inr ⟨[], e, rest, f, _, rfl, rfl, hprompt⟩
      · rw [hanswer] at hprompt
        rw [Run.bind_ok (Run.call_ok hanswer)]
        rcases ih (w.after h _) with
          ⟨w', hrun, hrest⟩ | ⟨written, e', rest', f, w', rfl, hrun, hrest⟩
        · exact .inl ⟨w', hrun, hprompt.trans hrest⟩
        · exact .inr ⟨e :: written, e', rest', f, w', rfl, hrun, hprompt.trans hrest⟩

/-- The journal of a look at the logs from a moment on, which reads so many pages at most, the
events that it writes, and what the look ends with, which is the next such moment unless the look is
cut short. -/
inductive Tails (group : String) (streams : List String) (start : Int) (rounds : Nat) :
    List Entry → List LogEvent → Outcome Int → Prop
  /-- Without streams there is nothing to look at. -/
  | off : streams = [] → Tails group streams start rounds [] [] (.ok start)
  | unread {t : List Entry} {e : Failure} : streams ≠ [] →
      Reads group streams start rounds t (.failed e) →
      Tails group streams start rounds t [] (.failed e)
  | endless {t : List Entry} : streams ≠ [] →
      Reads group streams start rounds t .unfinished →
      Tails group streams start rounds t [] .unfinished
  | silent {t : List Entry} {returned : List LogEvent} : streams ≠ [] →
      Reads group streams start rounds t (.ok returned) → Due start returned [] →
      Tails group streams start rounds t [] (.ok start)
  /-- A line is refused, after those in front of it. -/
  | unwritten {t : List Entry} {returned written rest : List LogEvent} {e : LogEvent}
      {f : Failure} : streams ≠ [] →
      Reads group streams start rounds t (.ok returned) →
      Due start returned (written ++ e :: rest) →
      Tails group streams start rounds
        (t ++ (written.map wrote ++ [.call (.writeLine (formatEvent e)) (.error f)]))
        written (.failed f)
  | unflushed {t : List Entry} {returned due : List LogEvent} {f : Failure} : streams ≠ [] →
      Reads group streams start rounds t (.ok returned) → Due start returned due →
      Tails group streams start rounds (t ++ (due.map wrote ++ [.call .flushOutput (.error f)]))
        due (.failed f)
  | written {t : List Entry} {returned due : List LogEvent} {next : Int} : streams ≠ [] →
      Reads group streams start rounds t (.ok returned) → Due start returned due →
      due ≠ [] → Advances start due next →
      Tails group streams start rounds (t ++ (due.map wrote ++ [.call .flushOutput (.ok ())]))
        due (.ok next)

/-- Every look follows the grammar. -/
theorem tailLogs_tails (group : String) (streams : List String) (start : Int) (h : Host σ)
    (w : World σ) :
    ∃ t written o w', tailLogs group streams start h w = (o, w') ∧ Prompt h w t w' ∧
      Tails group streams start h.rounds t written o := by
  rw [tailLogs]
  by_cases hstreams : streams = []
  · subst hstreams
    exact ⟨[], [], _, _, rfl, .refl, .off rfl⟩
  have hsome : streams.isEmpty = false := by simpa using hstreams
  simp only [hsome, Bool.false_eq_true, ↓reduceIte]
  obtain ⟨t, o, w₁, hrun, hread, hreads⟩ := eventsSince_reads group streams start h w
  rcases o with returned | e | _
  · rw [Run.bind_ok hrun]
    have hdue := due_sinceInOrder start returned
    by_cases hnone : sinceInOrder start returned = []
    · rw [hnone] at hdue ⊢
      exact ⟨t, [], _, _, rfl, hread, .silent hstreams hreads hdue⟩
    have hempty : (sinceInOrder start returned).isEmpty = false := by simpa using hnone
    simp only [hempty, Bool.false_eq_true, ↓reduceIte]
    rcases writeEvents_prompt (sinceInOrder start returned) h w₁ with
      ⟨w₂, hwrite, hprompt⟩ | ⟨written, e, rest, f, w₂, hsplit, hwrite, hprompt⟩
    · rw [Run.bind_ok hwrite]
      have hflush := Prompt.single h w₂ .flushOutput
      rcases hanswer : (h.answer .flushOutput w₂.state).result with f | ⟨⟩
      · rw [hanswer] at hflush
        rw [Run.bind_failed (Run.call_error hanswer)]
        exact ⟨_, _, _, _, rfl, hread.trans (hprompt.trans hflush),
          .unflushed hstreams hreads hdue⟩
      · rw [hanswer] at hflush
        rw [Run.bind_ok (Run.call_ok hanswer)]
        exact ⟨_, _, _, _, rfl, hread.trans (hprompt.trans hflush),
          .written hstreams hreads hdue hnone (advances_nextStart hdue.sorted)⟩
    · rw [Run.bind_failed hwrite]
      rw [hsplit] at hdue
      exact ⟨_, _, _, _, rfl, hread.trans hprompt, .unwritten hstreams hreads hdue⟩
  · rw [Run.bind_failed hrun]
    exact ⟨t, [], _, _, rfl, hread, .unread hstreams hreads⟩
  · rw [Run.bind_unfinished hrun]
    exact ⟨t, [], _, _, rfl, hread, .endless hstreams hreads⟩

/-- A look that is not cut short has written exactly what is due of all pages, and moves the moment
on accordingly. -/
theorem Tails.complete (htails : Tails group streams start rounds t written (.ok next))
    (hstreams : streams ≠ []) :
    ∃ read returned flushed, t = read ++ (written.map wrote ++ flushed) ∧
      Reads group streams start rounds read (.ok returned) ∧ Due start returned written ∧
      Advances start written next := by
  cases htails with
  | off hnone => exact absurd hnone hstreams
  | silent _ hreads hdue =>
      exact ⟨t, _, [], by simp, hreads, hdue, fun _ => rfl, by simp, by simp⟩
  | written _ hreads hdue _ hadvances => exact ⟨_, _, _, rfl, hreads, hdue, hadvances⟩

/-- What a look writes, cut short or not, is in the order of time and not older than the moment from
which on events are asked for. -/
theorem Tails.sorted {o : Outcome Int} (htails : Tails group streams start rounds t written o) :
    written.Pairwise (·.timestamp ≤ ·.timestamp) ∧ ∀ e ∈ written, start ≤ e.timestamp := by
  have hall : ∀ {returned due : List LogEvent}, Due start returned due →
      due.Pairwise (·.timestamp ≤ ·.timestamp) ∧ ∀ e ∈ due, start ≤ e.timestamp :=
    fun hdue => ⟨hdue.sorted, fun e he => (hdue.mem_iff.1 he).2⟩
  cases htails with
  | off | unread | endless | silent => simp
  | unwritten _ _ hdue =>
      obtain ⟨hsorted, hnew⟩ := hall hdue
      exact ⟨(List.pairwise_append.1 hsorted).1, fun e he => hnew e (List.mem_append_left _ he)⟩
  | unflushed _ _ hdue => exact hall hdue
  | written _ _ hdue _ _ => exact hall hdue

/-- Behind a look that is not cut short the moment is not earlier than before, and everything that
was written lies in front of it. -/
theorem Tails.moves (htails : Tails group streams start rounds t written (.ok next)) :
    start ≤ next ∧ ∀ e ∈ written, e.timestamp < next := by
  have hnew := htails.sorted.2
  cases htails with
  | off | silent => simp
  | written _ _ _ hsome hadvances =>
      constructor
      · obtain ⟨e, he, rfl⟩ := hadvances.reached hsome
        have := hnew e he
        omega
      · intro e he
        have := hadvances.above e he
        omega

/-- A look asks for the events of the streams from its moment on, and for no others. -/
theorem Tails.asks {o : Outcome Int} (htails : Tails group streams start rounds t written o)
    {g : String} {s : List String} {n : Int} {token : Option String}
    {x : Except Failure (Page LogEvent)}
    (hx : Entry.call (.filterLogEvents g s n token) x ∈ t) :
    g = group ∧ s = streams ∧ n = start := by
  have hread : ∀ {t : List Entry} {o : Outcome (List LogEvent)},
      Reads group streams start rounds t o → Entry.call (.filterLogEvents g s n token) x ∈ t →
        g = group ∧ s = streams ∧ n = start := by
    intro t o hreads hx
    obtain ⟨token', result, heq⟩ := hreads.request hx
    cases heq
    exact ⟨rfl, rfl, rfl⟩
  cases htails with
  | off => cases hx
  | unread _ hreads | endless _ hreads | silent _ hreads _ => exact hread hreads hx
  | unwritten _ hreads _ | unflushed _ hreads _ | written _ hreads _ _ _ =>
      refine hread hreads ((List.mem_append.1 hx).resolve_right fun hx => ?_)
      -- behind the reading, lines are written and flushed
      simp only [List.mem_append, List.mem_map, List.mem_singleton, wrote] at hx
      rcases hx with ⟨e, -, he⟩ | he <;> cases he

/-- The lines that were written, among entries. -/
def linesIn (t : List Entry) : List String := t.filterMap fun
  | .call (.writeLine line) (.ok _) => some line
  | _ => none

@[simp] theorem linesIn_append (t t' : List Entry) : linesIn (t ++ t') = linesIn t ++ linesIn t' :=
  List.filterMap_append

@[simp] theorem linesIn_wrote (events : List LogEvent) :
    linesIn (events.map wrote) = events.map formatEvent := by
  induction events with
  | nil => rfl
  | cons e rest ih => exact congrArg (formatEvent e :: ·) ih

theorem Reads.lines {o : Outcome (List LogEvent)} (hreads : Reads group streams start rounds t o) :
    linesIn t = [] := by
  refine List.filterMap_eq_nil_iff.2 fun x hx => ?_
  obtain ⟨token, result, rfl⟩ := hreads.request hx
  rfl

/-- The lines of a look are those of the events that it writes. -/
theorem Tails.lines {o : Outcome Int} (htails : Tails group streams start rounds t written o) :
    linesIn t = written.map formatEvent := by
  cases htails with
  | off => rfl
  | unread _ hreads | endless _ hreads | silent _ hreads _ => exact hreads.lines
  | unwritten _ hreads _ | unflushed _ hreads _ | written _ hreads _ _ _ =>
      rw [linesIn_append, hreads.lines, linesIn_append, linesIn_wrote]
      simp [linesIn]

end Cutover.Service
