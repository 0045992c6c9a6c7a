/-
**One pass over the streams of a log group.**

A pass asks for one stream after the other, each by a request of its own, for at most one name.  An
answer shows the stream if the name is there.  A refusal that says that the group or the stream is
not there counts like an answer without the name; every other refusal ends the pass.

A request for a stream asks for names that start with the text of it, and of these the host may
return the first only.  That is enough where names are returned in the order of their bytes: no text
is in front of its own beginnings, so a stream comes before all whose names extend its own.

Main definitions:

* `Cutover.Service.Query` — a request for a stream with its answer, which may show the stream
  (`Query.Shows`) or end everything (`Query.Fatal`);
* `Cutover.Service.Unseen` — the streams that no answer has shown;
* `Cutover.Service.Passes` — the requests of a pass, and what it ends with;
* `Cutover.Service.ListsByPrefix` — a host that lists names in order by how they start.

Main results:

* `Cutover.Service.missingStreams_passes` — **every pass follows these rules**;
* `Cutover.Service.Unseen.step` — a whole pass leaves what is still unseen behind it;
* `Cutover.Service.ListsByPrefix.shows_iff` — where names are listed in order, **a stream is shown
  exactly if it is there**.
-/
import Mathlib.Data.List.Nodup
import Cutover.Proofs.Run.Path
import Cutover.Proofs.Text.ByteOrder
import Cutover.Service.Logs

set_option autoImplicit false

namespace Cutover.Service

variable {σ : Type} {h : Host σ} {group : String} {streams missing left : List String}

/-! ### Requests for streams -/

/-- A request for a stream, with its answer. -/
structure Query where
  stream : String
  answer : Except Failure (List String)

namespace Query

/-- A request for a stream in the journal. -/
def entry (group : String) (q : Query) : Entry :=
  .call (.describeLogStreams group q.stream 1) q.answer

/-- An answer that has the name of the stream. -/
def Shows (q : Query) : Prop := ∃ found, q.answer = .ok found ∧ q.stream ∈ found

/-- A refusal, other than that the group or the stream is not there. -/
def Fatal (q : Query) (e : Failure) : Prop :=
  q.answer = .error e ∧ e.code? ≠ some "ResourceNotFoundException"

theorem Fatal.not_shows {q : Query} {e : Failure} (hq : q.Fatal e) : ¬ q.Shows := by
  rintro ⟨found, hfound, -⟩
  cases hq.1.symm.trans hfound

end Query

/-- Whether a stream is there is asked once, and known unless the refusal is fatal. -/
theorem isStreamPresent_asks (group stream : String) (h : Host σ) (w : World σ) :
    ∃ (q : Query) (w' : World σ), q.stream = stream ∧ Prompt h w [q.entry group] w' ∧
      ((∃ e, q.Fatal e ∧ isStreamPresent group stream h w = (.failed e, w')) ∨
        (∀ e, ¬ q.Fatal e) ∧ ∃ present, isStreamPresent group stream h w = (.ok present, w') ∧
          (present = true ↔ q.Shows)) := by
  have hprompt := Prompt.single h w (.describeLogStreams group stream 1)
  rcases hanswer : (h.answer (.describeLogStreams group stream 1) w.state).result with e | found
  · rw [hanswer] at hprompt
    refine ⟨⟨stream, .error e⟩, _, rfl, hprompt, ?_⟩
    have hrun : isStreamPresent group stream h w =
        (if e.code? = some notFoundCode then pure false else Run.fail e : Run σ Bool) h
          (w.after h _) :=
      Run.bind_ok (Run.attempt_failed (Run.call_error hanswer))
    by_cases hcode : e.code? = some notFoundCode
    · rw [if_pos hcode] at hrun
      refine .inr ⟨fun e' he => ?_, false, hrun, nofun, fun ⟨found, hfound, _⟩ => nomatch hfound⟩
      cases he.1
      exact he.2 hcode
    · rw [if_neg hcode] at hrun
      exact .inl ⟨e, ⟨rfl, hcode⟩, hrun⟩
  · rw [hanswer] at hprompt
    let names : List String := found
    have hshows : names.contains stream = true ↔ Query.Shows ⟨stream, .ok names⟩ := by
      simp [Query.Shows]
    refine ⟨⟨stream, .ok names⟩, _, rfl, hprompt, .inr ⟨fun e he => ?_, _, ?_, hshows⟩⟩
    · cases he.1
    · exact Run.bind_ok (Run.attempt_ok (Run.call_ok hanswer))

/-! ### A pass -/

/-- The requests of a pass over streams, and what it ends with: the streams that are still missing,
unless a refusal is fatal. -/
inductive Passes : List String → List Query → Outcome (List String) → Prop
  | done : Passes [] [] (.ok [])
  | seen {q : Query} {rest : List String} {queries : List Query} {o : Outcome (List String)} :
      q.Shows → Passes rest queries o → Passes (q.stream :: rest) (q :: queries) o
  | unseen {q : Query} {rest : List String} {queries : List Query} {o : Outcome (List String)} :
      ¬ q.Shows → (∀ e, ¬ q.Fatal e) → Passes rest queries o →
      Passes (q.stream :: rest) (q :: queries) (o.map (q.stream :: ·))
  | fatal {q : Query} {rest : List String} {e : Failure} : q.Fatal e →
      Passes (q.stream :: rest) [q] (.failed e)

/-- **Every pass follows the rules.** -/
theorem missingStreams_passes (group : String) (missing : List String) (h : Host σ) (w : World σ) :
    ∃ queries o w', missingStreams group missing h w = (o, w') ∧
      Prompt h w (queries.map (Query.entry group)) w' ∧ Passes missing queries o := by
  induction missing generalizing w with
  | nil => exact ⟨[], _, w, rfl, .refl, .done⟩
  | cons stream rest ih =>
      obtain ⟨q, w₁, rfl, hprompt, hasked⟩ := isStreamPresent_asks group stream h w
      rcases hasked with ⟨e, hfatal, hrun⟩ | ⟨hmild, present, hrun, hpresent⟩
      · exact ⟨[q], _, w₁, Run.bind_failed hrun, hprompt, .fatal hfatal⟩
      obtain ⟨queries, o, w', hrest, hprompt', hpasses⟩ := ih w₁
      have hentries := hprompt.trans hprompt'
      cases present with
      | true =>
          have hall : missingStreams group (q.stream :: rest) h w =
              (o.map (fun left => left), w') :=
            (Run.bind_ok hrun).trans (Run.bind_pure_eq hrest _)
          rw [Outcome.map_id] at hall
          exact ⟨q :: queries, o, w', hall, hentries, .seen (hpresent.1 rfl) hpasses⟩
      | false =>
          have hall : missingStreams group (q.stream :: rest) h w =
              (o.map (q.stream :: ·), w') :=
            (Run.bind_ok hrun).trans (Run.bind_pure_eq hrest _)
          exact ⟨q :: queries, _, w', hall, hentries,
            .unseen (fun hshows => nomatch hpresent.2 hshows) hmild hpasses⟩

namespace Passes

variable {queries : List Query} {o : Outcome (List String)}

/-- A pass asks for the streams in their order, as far as it goes. -/
theorem asked (hpasses : Passes missing queries o) : queries.map (·.stream) <+: missing := by
  induction hpasses with
  | done => exact List.nil_prefix
  | seen _ _ ih => exact List.cons_prefix_cons.2 ⟨rfl, ih⟩
  | unseen _ _ _ ih => exact List.cons_prefix_cons.2 ⟨rfl, ih⟩
  | fatal _ => exact List.cons_prefix_cons.2 ⟨rfl, List.nil_prefix⟩

/-- A pass ends by itself. -/
theorem ne_unfinished (hpasses : Passes missing queries o) : o ≠ .unfinished := by
  induction hpasses with
  | done | fatal => simp
  | seen _ _ ih => exact ih
  | @unseen _ _ _ o _ _ _ ih => rcases o with left | e | _ <;> simp_all [Outcome.map]

/-- A whole pass has asked for every stream, without a fatal refusal. -/
theorem whole (hpasses : Passes missing queries (.ok left)) :
    queries.map (·.stream) = missing ∧ ∀ q ∈ queries, ∀ e, ¬ q.Fatal e := by
  generalize ho : Outcome.ok left = o at hpasses
  induction hpasses generalizing left with
  | done => simp
  | @seen q _ _ o hshows _ ih =>
      obtain ⟨hall, hmild⟩ := ih ho
      refine ⟨by rw [List.map_cons, hall], fun q' hq => ?_⟩
      rcases List.mem_cons.1 hq with rfl | hq
      · exact fun e he => he.not_shows hshows
      · exact hmild q' hq
  | @unseen q _ _ o _ hq _ ih =>
      rcases o with left' | e | _ <;> cases ho
      obtain ⟨hall, hmild⟩ := ih rfl
      exact ⟨by rw [List.map_cons, hall], List.forall_mem_cons.2 ⟨hq, hmild⟩⟩
  | fatal => cases ho

/-- A whole pass leaves the streams that it has not been shown, in their order. -/
theorem leaves (hpasses : Passes missing queries (.ok left)) :
    left.Sublist missing ∧ ∀ s, s ∈ left ↔ ∃ q ∈ queries, q.stream = s ∧ ¬ q.Shows := by
  generalize ho : Outcome.ok left = o at hpasses
  induction hpasses generalizing left with
  | done =>
      cases ho
      simp
  | @seen q _ _ o hshows _ ih =>
      obtain ⟨hsublist, hmem⟩ := ih ho
      refine ⟨hsublist.cons _, fun s => ?_⟩
      simp [hmem, hshows]
  | @unseen q _ _ o hshows _ _ ih =>
      rcases o with left' | e | _ <;> cases ho
      obtain ⟨hsublist, hmem⟩ := ih rfl
      refine ⟨hsublist.cons_cons _, fun s => ?_⟩
      simp [hmem, hshows, eq_comm]
  | fatal => cases ho

/-- A pass that fails does so at its last request, the only one with a fatal refusal. -/
theorem cut {e : Failure} (hpasses : Passes missing queries (.failed e)) :
    ∃ front q, queries = front ++ [q] ∧ q.Fatal e ∧ ∀ q' ∈ front, ∀ e, ¬ q'.Fatal e := by
  generalize ho : Outcome.failed e = o at hpasses
  induction hpasses with
  | done => cases ho
  | @seen q _ _ o hshows _ ih =>
      obtain ⟨front, last, rfl, hlast, hfront⟩ := ih ho
      refine ⟨q :: front, last, rfl, hlast, List.forall_mem_cons.2 ⟨?_, hfront⟩⟩
      exact fun e he => he.not_shows hshows
  | @unseen q _ _ o _ hq _ ih =>
      rcases o with left' | e' | _ <;> cases ho
      obtain ⟨front, last, rfl, hlast, hfront⟩ := ih rfl
      exact ⟨q :: front, last, rfl, hlast, List.forall_mem_cons.2 ⟨hq, hfront⟩⟩
  | @fatal q _ _ hq =>
      cases ho
      exact ⟨[], q, rfl, hq, by simp⟩

/-- A pass without a fatal refusal has asked for every stream. -/
theorem asked_all (hpasses : Passes missing queries o)
    (hmild : ∀ q ∈ queries, ∀ e, ¬ q.Fatal e) : queries.map (·.stream) = missing := by
  rcases o with left | e | _
  · exact hpasses.whole.1
  · obtain ⟨front, q, rfl, hq, -⟩ := hpasses.cut
    exact absurd hq (hmild q (by simp) e)
  · exact absurd rfl hpasses.ne_unfinished

end Passes

/-! ### What is unseen -/

/-- The streams that no answer has shown, in the order of their bytes, each of them once. -/
structure Unseen (streams : List String) (asked : List Query) (unseen : List String) : Prop where
  sorted : unseen.Pairwise fun a b => Text.bytes a < Text.bytes b
  mem_iff : ∀ s, s ∈ unseen ↔ s ∈ streams ∧ ∀ q ∈ asked, q.stream = s → ¬ q.Shows

/-- In the beginning every stream is unseen. -/
theorem unseen_sortedSet (streams : List String) :
    Unseen streams [] (Text.sortedSet streams) :=
  ⟨(Text.sortedSet_sorted streams).imp Text.lt_iff_bytes.1, by simp⟩

namespace Unseen

variable {asked queries : List Query}

theorem nodup (hunseen : Unseen streams asked missing) : missing.Nodup :=
  hunseen.sorted.imp fun hlt heq => absurd (heq ▸ hlt) (List.lt_irrefl _)

/-- A whole pass leaves what is still unseen behind it. -/
theorem step (hunseen : Unseen streams asked missing)
    (hpasses : Passes missing queries (.ok left)) : Unseen streams (asked ++ queries) left := by
  obtain ⟨hall, -⟩ := hpasses.whole
  obtain ⟨hsublist, hleft⟩ := hpasses.leaves
  refine ⟨hunseen.sorted.sublist hsublist, fun s => ?_⟩
  have hs := hunseen.mem_iff s
  rw [hleft]
  constructor
  · rintro ⟨q, hq, rfl, hshows⟩
    obtain ⟨hstream, hbefore⟩ := hs.1 (hall ▸ List.mem_map_of_mem hq)
    refine ⟨hstream, fun q' hq' hsame => ?_⟩
    rcases List.mem_append.1 hq' with hq' | hq'
    · exact hbefore q' hq' hsame
    · -- no stream is asked for twice
      have hnodup : (queries.map (·.stream)).Nodup := hall ▸ hunseen.nodup
      rwa [List.inj_on_of_nodup_map hnodup hq' hq hsame]
  · rintro ⟨hstream, hnone⟩
    have hmissing : s ∈ missing :=
      hs.2 ⟨hstream, fun q hq => hnone q (List.mem_append_left _ hq)⟩
    rw [← hall] at hmissing
    obtain ⟨q, hq, rfl⟩ := List.mem_map.1 hmissing
    exact ⟨q, hq, rfl, hnone q (List.mem_append_right _ hq) rfl⟩

/-- The stream of a fatal refusal stays unseen. -/
theorem of_cut {q : Query} {front : List Query} {e : Failure}
    (hunseen : Unseen streams asked missing) (hpasses : Passes missing (front ++ [q]) (.failed e))
    (hq : q.Fatal e) :
    q.stream ∈ streams ∧ ∀ q' ∈ asked ++ (front ++ [q]), q'.stream = q.stream → ¬ q'.Shows := by
  have hmissing : q.stream ∈ missing := hpasses.asked.subset (by simp)
  obtain ⟨hstream, hbefore⟩ := (hunseen.mem_iff _).1 hmissing
  refine ⟨hstream, fun q' hq' hsame => ?_⟩
  rcases List.mem_append.1 hq' with hq' | hq'
  · exact hbefore q' hq' hsame
  · have hnodup : ((front ++ [q]).map (·.stream)).Nodup :=
      hunseen.nodup.sublist hpasses.asked.sublist
    rw [List.inj_on_of_nodup_map hnodup hq' (by simp) hsame]
    exact hq.not_shows

end Unseen

/-! ### Names that are listed in order -/

/-- A host that lists the names of a group in the order of their bytes, from those that start with a
text as many as are asked for. -/
structure ListsByPrefix (h : Host σ) (group : String) (live : σ → List String) : Prop where
  sorted : ∀ s, (live s).Pairwise fun a b => Text.bytes a < Text.bytes b
  answer : ∀ start limit s, (h.answer (.describeLogStreams group start limit) s).result =
    .ok (((live s).filter fun name => start.toList.isPrefixOf name.toList).take limit.toNat)

/-- Among the names that start with a text, the text itself is the first. -/
theorem mem_take_one {names : List String}
    (hsorted : names.Pairwise fun a b => Text.bytes a < Text.bytes b) (s : String) :
    s ∈ (names.filter fun name => s.toList.isPrefixOf name.toList).take 1 ↔ s ∈ names := by
  have hitself : s ∈ names ↔ s ∈ names.filter fun name => s.toList.isPrefixOf name.toList := by
    simp
  rw [hitself]
  refine ⟨List.mem_of_mem_take, fun hs => ?_⟩
  have hfiltered := hsorted.filter fun name => s.toList.isPrefixOf name.toList
  rcases hlist : names.filter fun name => s.toList.isPrefixOf name.toList with _ | ⟨first, rest⟩
  · rw [hlist] at hs
    cases hs
  have hfirst : first ∈ names.filter fun name => s.toList.isPrefixOf name.toList := by
    rw [hlist]
    exact List.mem_cons_self
  have hprefix : s.toList <+: first.toList :=
    List.isPrefixOf_iff_prefix.1 (List.mem_filter.1 hfirst).2
  rw [hlist] at hs hfiltered ⊢
  rcases List.mem_cons.1 hs with rfl | hs
  · exact List.mem_cons_self
  · have hlt : first < s := Text.lt_iff_bytes.2 ((List.pairwise_cons.1 hfiltered).1 s hs)
    exact absurd (String.lt_iff_toList_lt.1 hlt) (List.not_lt.2 hprefix.le)

/-- **A stream is shown exactly if it is there**, even if other names extend its own. -/
theorem ListsByPrefix.shows_iff {live : σ → List String} {q : Query} {s : σ}
    (hlists : ListsByPrefix h group live)
    (hanswer : (h.answer (.describeLogStreams group q.stream 1) s).result = q.answer) :
    q.Shows ↔ q.stream ∈ live s := by
  rw [hlists.answer] at hanswer
  rw [← mem_take_one (hlists.sorted s), Query.Shows, ← hanswer]
  refine ⟨fun ⟨found, hfound, hmem⟩ => ?_, fun hmem => ⟨_, rfl, hmem⟩⟩
  cases hfound
  exact hmem

/-- Among requests that follow each other, every one shows its stream exactly if the stream is there
when it is asked for. -/
theorem ListsByPrefix.exists_shows_iff {live : σ → List String} {w w' : World σ}
    {queries before after : List Query} {q : Query} (hlists : ListsByPrefix h group live)
    (hpath : Path h w (queries.map (Query.entry group)) w')
    (hsplit : queries = before ++ q :: after) :
    ∃ v, Path h w (before.map (Query.entry group)) v ∧ (q.Shows ↔ q.stream ∈ live v.state) := by
  have hentries : queries.map (Query.entry group) = before.map (Query.entry group) ++
      .call (.describeLogStreams group q.stream 1) q.answer ::
        after.map (Query.entry group) := by
    rw [hsplit, List.map_append, List.map_cons]
    rfl
  obtain ⟨v, hv, hanswer⟩ := hpath.asked_in hentries
  exact ⟨v, hv, hlists.shows_iff hanswer⟩

end Cutover.Service
