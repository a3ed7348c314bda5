/-
Which threads an orderly shutdown joins.

The property: whatever fails in `collector_start` and for which GPUs, the joins of `shutdown_all` are the created
threads, each once, and no join is of a handle that was not initialised. It fails: `collector_stop` joins `ctx->thread`
without asking whether there is a thread, though its contract calls it safe after a failed start, and `main` goes on
after one (`unstarted_joined`).

`joins_iff`: for every number of GPUs and every answer of every call, shutdown joins exactly the created threads if and
only if every `collector_start` succeeds.
-/
import GpuHealth.ThreadLifecycle

namespace GpuHealth.ThreadJoins

open GpuHealth.ThreadLifecycle

/-! ## The property -/

def created (log : List ThreadCall) : List ℕ :=
  log.filterMap fun
    | .create tid => some tid
    | .join _ => none

def joined (log : List ThreadCall) : List (Option ℕ) :=
  log.filterMap fun
    | .create _ => none
    | .join thread => some thread

/-- each created thread is joined once, and nothing else is joined -/
def JoinsCreated (log : List ThreadCall) : Prop := (joined log).Perm ((created log).map some)

/-! ## The log -/

/-- the thread of a GPU, if it has one -/
def threadOf (a : StartAnswers) : Option ℕ := if a.Starts then some a.tid else none

theorem startOne_thread (a : StartAnswers) : (startOne a).1.thread = threadOf a := by
  unfold threadOf
  split_ifs with h
  · exact (startOne_starts h).1
  · exact (startOne_fails h).1

theorem startOne_calls (a : StartAnswers) : (startOne a).2 = (threadOf a).toList.map .create := by
  unfold threadOf
  split_ifs with h
  · exact (startOne_starts h).2
  · exact (startOne_fails h).2

theorem threadCalls_eq (answers : List StartAnswers) :
    threadCalls answers = (answers.filterMap threadOf).map .create ++ (answers.map threadOf).map .join := by
  have hstarts : ((answers.map startOne).map Prod.snd).flatten = (answers.filterMap threadOf).map .create := by
    induction answers with
    | nil => rfl
    | cons a answers ih =>
      rw [List.map_cons, List.map_cons, List.flatten_cons, ih, startOne_calls]
      cases hthread : threadOf a with
      | none => rw [List.filterMap_cons_none hthread, Option.toList_none, List.map_nil, List.nil_append]
      | some tid => rw [List.filterMap_cons_some hthread, List.map_cons]; rfl
  have hjoins : shutdownAll ((answers.map startOne).map Prod.fst) = (answers.map threadOf).map .join := by
    rw [shutdownAll_eq, List.map_map, List.map_map, List.map_map]
    exact List.map_congr_left fun a _ => congrArg ThreadCall.join (startOne_thread a)
  unfold threadCalls startCollectors
  rw [hstarts]
  dsimp only
  rw [hjoins]

theorem created_eq (answers : List StartAnswers) : created (threadCalls answers) = answers.filterMap threadOf := by
  rw [threadCalls_eq, created, List.filterMap_append, List.filterMap_map, List.filterMap_map]
  simp

theorem joined_eq (answers : List StartAnswers) : joined (threadCalls answers) = answers.map threadOf := by
  rw [threadCalls_eq, joined, List.filterMap_append, List.filterMap_map, List.filterMap_map]
  simp

/-! ## The condition -/

/-- **Shutdown joins what was created if and only if every start succeeds.** -/
theorem joins_iff (answers : List StartAnswers) :
    JoinsCreated (threadCalls answers) ↔ ∀ a ∈ answers, a.Starts := by
  rw [JoinsCreated, created_eq, joined_eq]
  refine ⟨fun hperm a ha => ?_, fun hall => ?_⟩
  · by_contra hfail
    have hnone : none ∈ answers.map threadOf := List.mem_map.2 ⟨a, ha, if_neg hfail⟩
    obtain ⟨tid, -, hsome⟩ := List.mem_map.1 (hperm.mem_iff.1 hnone)
    cases hsome
  · have hsome : answers.filterMap threadOf = answers.map StartAnswers.tid := by
      rw [← List.filterMap_eq_map]
      exact List.filterMap_congr fun a ha => if_pos (hall a ha)
    have hthreads : answers.map threadOf = answers.map (some ∘ StartAnswers.tid) :=
      List.map_congr_left fun a ha => if_pos (hall a ha)
    rw [hsome, List.map_map, hthreads]

/-! ## A handle that was not initialised -/

/-- The second of two GPUs has no memory for its ring, and its handle is joined. -/
theorem unstarted_joined :
    threadCalls [⟨true, true, 0, 7⟩, ⟨false, true, 0, 8⟩] = [.create 7, .join (some 7), .join none] ∧
    ¬ JoinsCreated (threadCalls [⟨true, true, 0, 7⟩, ⟨false, true, 0, 8⟩]) := by
  refine ⟨by decide, fun h => ?_⟩
  exact absurd h.length_eq (by decide)

end GpuHealth.ThreadJoins
