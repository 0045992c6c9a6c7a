/-
**Names of the log streams of tasks.**

Every container of a task writes to a stream of its own.  The name of the stream holds that of the
container and, behind a slash, what the name of the task ends in behind its last slash.  There may
be slashes in the name of the container too, but there are none in what stands behind it.  So the
slash between the two is always the last one in the name of the stream, and the name can be taken
apart in one way only.

Main definitions:

* `Cutover.Service.EndsIn` — what a text ends in behind its last slash.

Main results:

* `Cutover.Service.taskId_eq_iff` — the id of a task is what its name ends in;
* `Cutover.Service.eq_logStream_iff` — the name of a stream can be taken apart in one way only;
* `Cutover.Service.getElem?_expectedLogStreams` — the streams are in order, task by task;
* `Cutover.Service.nodup_expectedLogStreams_iff` — no two streams share a name unless a container or
  an id is there twice;
* `Cutover.Service.expectedLogStreams_exact` — **there is one stream for every container in every
  task, and its name tells which ones they are**.
-/
import Mathlib.Data.List.DropRight
import Mathlib.Data.List.Nodup
import Cutover.Service.Names

set_option autoImplicit false

namespace Cutover.Service

variable {text part arn arn' c c' id s : String} {tasks containers : List String}

/-! ### What stands behind the last slash -/

/-- A text ends in a part behind its last slash: the part holds no slash, and there is one in front
of it or nothing at all. -/
structure EndsIn (text part : String) : Prop where
  slashless : '/' ∉ part.toList
  whole_or_behind : text = part ∨ ∃ front, text = front ++ "/" ++ part

theorem toList_taskId (text : String) :
    (taskId text).toList = text.toList.rtakeWhile (· != '/') :=
  String.toList_ofList

theorem slash_not_mem_taskId (text : String) : '/' ∉ (taskId text).toList := by
  intro hslash
  rw [toList_taskId] at hslash
  have hother := List.mem_rtakeWhile_imp hslash
  exact absurd hother (by decide)

theorem ne_slash (hpart : '/' ∉ part.toList) : ∀ x ∈ part.toList, (x != '/') = true := by
  intro x hx
  simpa using fun heq : x = '/' => hpart (heq ▸ hx)

/-- A text without a slash ends in the whole of it. -/
theorem taskId_of_slashless (hpart : '/' ∉ part.toList) : taskId part = part := by
  rw [← String.toList_inj, toList_taskId, List.rtakeWhile_eq_self_iff]
  exact ne_slash hpart

/-- What stands in front of the last slash does not matter. -/
theorem taskId_behind (front : String) (hpart : '/' ∉ part.toList) :
    taskId (front ++ "/" ++ part) = part := by
  have hothers : ∀ x ∈ part.toList.reverse, (x != '/') = true :=
    fun x hx => ne_slash hpart x (List.mem_reverse.1 hx)
  have hlist : (front ++ "/" ++ part).toList = front.toList ++ '/' :: part.toList := by
    simp [String.toList_append]
  have hreverse : (front.toList ++ '/' :: part.toList).reverse =
      part.toList.reverse ++ '/' :: front.toList.reverse := by
    simp
  rw [← String.toList_inj, toList_taskId, hlist, List.rtakeWhile, hreverse,
    List.takeWhile_append_of_pos hothers, List.takeWhile_cons_of_neg (by decide), List.append_nil,
    List.reverse_reverse]

theorem endsIn_taskId (text : String) : EndsIn text (taskId text) where
  slashless := slash_not_mem_taskId text
  whole_or_behind := by
    have hsplit : text.toList.rdropWhile (· != '/') ++ (taskId text).toList = text.toList := by
      rw [toList_taskId]
      exact List.rdropWhile_append_rtakeWhile
    by_cases hfront : text.toList.rdropWhile (· != '/') = []
    · rw [hfront, List.nil_append] at hsplit
      exact .inl (String.toList_inj.1 hsplit.symm)
    · -- what is left in front of the part was left because of the slash at its end
      have hlast : (text.toList.rdropWhile (· != '/')).getLast hfront = '/' := by
        simpa using List.rdropWhile_last_not (· != '/') text.toList hfront
      rw [← List.dropLast_append_getLast hfront, hlast] at hsplit
      refine .inr ⟨String.ofList (text.toList.rdropWhile (· != '/')).dropLast, ?_⟩
      rw [← String.toList_inj, String.toList_append, String.toList_append, String.toList_ofList]
      exact hsplit.symm

/-- The id of a task is what its name ends in. -/
theorem taskId_eq_iff : taskId text = part ↔ EndsIn text part := by
  constructor
  · rintro rfl
    exact endsIn_taskId text
  · rintro ⟨hpart, rfl | ⟨front, rfl⟩⟩
    · exact taskId_of_slashless hpart
    · exact taskId_behind front hpart

/-! ### Names of streams -/

/-- A stream ends in the id of its task. -/
theorem taskId_logStream (c arn : String) : taskId (logStream c arn) = taskId arn :=
  taskId_behind ("platform/" ++ c) (slash_not_mem_taskId arn)

/-- The name of a stream can be taken apart in one way only. -/
theorem eq_logStream_iff :
    '/' ∉ id.toList ∧ logStream c arn = "platform/" ++ c' ++ "/" ++ id ↔
      c' = c ∧ id = taskId arn := by
  constructor
  · rintro ⟨hid, heq⟩
    have hsame : id = taskId arn := by
      rw [← taskId_logStream c arn, heq, taskId_behind _ hid]
    rw [logStream, hsame, String.append_left_inj, String.append_left_inj,
      String.append_right_inj] at heq
    exact ⟨heq.symm, hsame⟩
  · rintro ⟨rfl, rfl⟩
    exact ⟨slash_not_mem_taskId arn, rfl⟩

/-- Two streams have one name just if they are of one container and one id. -/
theorem logStream_eq_iff : logStream c arn = logStream c' arn' ↔ c' = c ∧ taskId arn' = taskId arn :=
  (and_iff_right (slash_not_mem_taskId arn')).symm.trans eq_logStream_iff

/-! ### The streams of all tasks -/

@[simp] theorem expectedLogStreams_nil (containers : List String) :
    expectedLogStreams [] containers = [] := rfl

@[simp] theorem expectedLogStreams_cons (arn : String) (tasks containers : List String) :
    expectedLogStreams (arn :: tasks) containers =
      containers.map (logStream · arn) ++ expectedLogStreams tasks containers :=
  List.flatMap_cons

theorem length_expectedLogStreams (tasks containers : List String) :
    (expectedLogStreams tasks containers).length = tasks.length * containers.length := by
  induction tasks with
  | nil => rw [expectedLogStreams_nil, List.length_nil, Nat.zero_mul]
  | cons arn tasks ih =>
      rw [expectedLogStreams_cons, List.length_append, List.length_map, ih, List.length_cons,
        Nat.succ_mul, Nat.add_comm]

/-- The streams are in order, task by task: as many places belong to every task as there are
containers. -/
theorem getElem?_expectedLogStreams (tasks containers : List String) (k : Nat) (s : String) :
    (expectedLogStreams tasks containers)[k]? = some s ↔
      ∃ arn c, tasks[k / containers.length]? = some arn ∧
        containers[k % containers.length]? = some c ∧ s = logStream c arn := by
  rcases Nat.eq_zero_or_pos containers.length with hnone | hsome
  · have hempty : (expectedLogStreams tasks containers).length = 0 := by
      rw [length_expectedLogStreams, hnone, Nat.mul_zero]
    rw [List.length_eq_zero_iff.1 hempty, List.length_eq_zero_iff.1 hnone]
    simp
  · induction tasks generalizing k with
    | nil => simp
    | cons arn tasks ih =>
        rw [expectedLogStreams_cons]
        by_cases hk : k < containers.length
        · rw [List.getElem?_append_left (by rwa [List.length_map]), List.getElem?_map,
            Option.map_eq_some_iff, Nat.div_eq_of_lt hk, Nat.mod_eq_of_lt hk]
          constructor
          · rintro ⟨c, hc, rfl⟩
            exact ⟨arn, c, rfl, hc, rfl⟩
          · rintro ⟨_, c, ⟨⟩, hc, rfl⟩
            exact ⟨c, hc, rfl⟩
        · -- behind the streams of the first task stand those of the others
          have hlen : containers.length ≤ k := Nat.not_lt.1 hk
          rw [List.getElem?_append_right (by rwa [List.length_map]), List.length_map, ih,
            Nat.div_eq_sub_div hsome hlen, List.getElem?_cons_succ, Nat.mod_eq_sub_mod hlen]

theorem mem_expectedLogStreams :
    s ∈ expectedLogStreams tasks containers ↔
      ∃ arn ∈ tasks, ∃ c ∈ containers, logStream c arn = s := by
  rw [expectedLogStreams, List.mem_flatMap]
  simp only [List.mem_map]

/-- The streams of one task are apart just if the containers are. -/
theorem nodup_streams_iff (arn : String) :
    (containers.map (logStream · arn)).Nodup ↔ containers.Nodup :=
  List.nodup_map_iff fun _ _ heq => (logStream_eq_iff.1 heq).1.symm

/-- The streams of two tasks are apart just if the ids are, or there are no containers. -/
theorem disjoint_streams_iff :
    (containers.map (logStream · arn)).Disjoint (containers.map (logStream · arn')) ↔
      containers = [] ∨ taskId arn ≠ taskId arn' := by
  constructor
  · intro hapart
    refine or_iff_not_imp_left.2 fun hsome hsame => ?_
    obtain ⟨c, hc⟩ := List.exists_mem_of_ne_nil containers hsome
    have hboth : logStream c arn' = logStream c arn := logStream_eq_iff.2 ⟨rfl, hsame⟩
    exact hapart (List.mem_map_of_mem hc) (List.mem_map.2 ⟨c, hc, hboth⟩)
  · rintro (rfl | hids) s hs hs'
    · cases hs
    · obtain ⟨c, -, rfl⟩ := List.mem_map.1 hs
      obtain ⟨c', -, heq⟩ := List.mem_map.1 hs'
      exact hids (logStream_eq_iff.1 heq).2

/-- No two streams share a name just if no container and no id is there twice.  Where there are no
containers, or no tasks, there are no streams that could. -/
theorem nodup_expectedLogStreams_iff :
    (expectedLogStreams tasks containers).Nodup ↔
      (tasks = [] ∨ containers.Nodup) ∧ (containers = [] ∨ (tasks.map taskId).Nodup) := by
  have hwithin : (∀ arn ∈ tasks, (containers.map (logStream · arn)).Nodup) ↔
      tasks = [] ∨ containers.Nodup := by
    constructor
    · intro hall
      refine or_iff_not_imp_left.2 fun hsome => ?_
      obtain ⟨arn, harn⟩ := List.exists_mem_of_ne_nil tasks hsome
      exact (nodup_streams_iff arn).1 (hall arn harn)
    · rintro (rfl | hnodup) arn harn
      · cases harn
      · exact (nodup_streams_iff arn).2 hnodup
  have hbetween : (tasks.Pairwise fun arn arn' =>
      (containers.map (logStream · arn)).Disjoint (containers.map (logStream · arn'))) ↔
      containers = [] ∨ (tasks.map taskId).Nodup := by
    rw [List.Nodup, List.pairwise_map]
    simp only [disjoint_streams_iff]
    by_cases hnone : containers = []
    · exact iff_of_true (List.pairwise_of_forall fun _ _ => .inl hnone) (.inl hnone)
    · simp only [hnone, false_or]
  rw [expectedLogStreams, List.nodup_flatMap]
  exact and_congr hwithin hbetween

/-- **There is one stream for every container in every task, and its name tells which ones they
are.**  The streams come task by task, and of each task container by container.  If no container and
no id is there twice then no two streams share a name, and only then, unless there are no streams at
all.  Every name can be taken apart into a container and an id without a slash, in one way only, and
they are among those given. -/
theorem expectedLogStreams_exact (tasks containers : List String) :
    (∀ arn id, taskId arn = id ↔ EndsIn arn id) ∧
      (expectedLogStreams tasks containers).length = tasks.length * containers.length ∧
      (∀ k s, (expectedLogStreams tasks containers)[k]? = some s ↔
        ∃ arn c, tasks[k / containers.length]? = some arn ∧
          containers[k % containers.length]? = some c ∧
          s = "platform/" ++ c ++ "/" ++ taskId arn) ∧
      ((expectedLogStreams tasks containers).Nodup ↔
        (tasks = [] ∨ containers.Nodup) ∧ (containers = [] ∨ (tasks.map taskId).Nodup)) ∧
      ∀ s ∈ expectedLogStreams tasks containers, ∃ c ∈ containers, ∃ id ∈ tasks.map taskId,
        ∀ c' id', '/' ∉ id'.toList ∧ s = "platform/" ++ c' ++ "/" ++ id' ↔ c' = c ∧ id' = id := by
  refine ⟨fun arn id => taskId_eq_iff, length_expectedLogStreams tasks containers,
    getElem?_expectedLogStreams tasks containers, nodup_expectedLogStreams_iff, fun s hs => ?_⟩
  obtain ⟨arn, harn, c, hc, rfl⟩ := mem_expectedLogStreams.1 hs
  exact ⟨c, hc, taskId arn, List.mem_map_of_mem harn, fun c' id' => eq_logStream_iff⟩

/-- A container may be named like another one with an id behind it. -/
theorem expectedLogStreams_exact_nested :
    (expectedLogStreams ["cluster/a", "cluster/a/b"] ["web", "web/a"]).Nodup ∧
      "platform/web/a/b" ∈ expectedLogStreams ["cluster/a", "cluster/a/b"] ["web", "web/a"] ∧
      ∀ c id, '/' ∉ id.toList ∧ "platform/web/a/b" = "platform/" ++ c ++ "/" ++ id ↔
        c = "web/a" ∧ id = "b" := by
  obtain ⟨-, -, -, hnodup, hapart⟩ :=
    expectedLogStreams_exact ["cluster/a", "cluster/a/b"] ["web", "web/a"]
  have hthere : "platform/web/a/b" ∈
      expectedLogStreams ["cluster/a", "cluster/a/b"] ["web", "web/a"] := by
    decide +kernel
  obtain ⟨c, -, id, -, honly⟩ := hapart "platform/web/a/b" hthere
  obtain ⟨rfl, rfl⟩ := (honly "web/a" "b").1 (by decide +kernel)
  exact ⟨hnodup.2 (by decide +kernel), hthere, honly⟩

end Cutover.Service
