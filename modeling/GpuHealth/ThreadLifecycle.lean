/-
The poll threads from startup to shutdown (`collector_start` and `collector_stop` of `src/collector.c`, the start loop of
`main` and `shutdown_all` of `src/main.c`).

A run is the log of its `pthread_create` calls that succeed and its `pthread_join` calls. The contexts come from
`calloc`; a `pthread_t` that `pthread_create` has not written is none. What a failed `pthread_create` leaves in it is
unspecified, so it counts as not written. Only `collector_start` writes it, so what happens between the start loop and
`shutdown_all` is left out.
-/
import Mathlib.Tactic

namespace GpuHealth.ThreadLifecycle

inductive ThreadCall where
  | create (tid : ℕ)
  | join (thread : Option ℕ)
deriving DecidableEq, Repr

/-- the members of `gpu_ctx_t` that the starting and the stopping use -/
structure ThreadCtx where
  /-- `ring.samples` is not NULL -/
  samples : Bool
  ready : ℤ
  stop : ℤ
  thread : Option ℕ
deriving DecidableEq, Repr

def ThreadCtx.zeroed : ThreadCtx := ⟨false, 0, 0, none⟩

/-- what `collector_start` asks of its environment -/
structure StartAnswers where
  /-- `calloc` serves the ring -/
  ring : Bool
  /-- `malloc` serves the arguments -/
  args : Bool
  pthreadCreate : ℤ
  /-- the new thread -/
  tid : ℕ
deriving DecidableEq, Repr

/-- the context, the return value, and the calls -/
def collectorStart (ctx : ThreadCtx) (a : StartAnswers) : ThreadCtx × ℤ × List ThreadCall :=
  let ctx := { ctx with samples := a.ring }
  if a.ring = false then (ctx, -1, [])
  else
    let ctx := { ctx with ready := 0, stop := 0 }
    if a.args = false then ({ ctx with samples := false }, -1, [])
    else if a.pthreadCreate ≠ 0 then ({ ctx with samples := false }, -1, [])
    else ({ ctx with thread := some a.tid }, 0, [.create a.tid])

def collectorStop (ctx : ThreadCtx) : ThreadCtx × List ThreadCall := ({ ctx with stop := 1 }, [.join ctx.thread])

/-- the body of the start loop -/
def startOne (a : StartAnswers) : ThreadCtx × List ThreadCall :=
  let (ctx, ret, calls) := collectorStart .zeroed a
  (if ret < 0 then { ctx with ready := 1 } else ctx, calls)

/-- the start loop over all GPUs -/
def startCollectors (answers : List StartAnswers) : List ThreadCtx × List ThreadCall :=
  ((answers.map startOne).map Prod.fst, ((answers.map startOne).map Prod.snd).flatten)

/-- the two loops of `shutdown_all` -/
def shutdownAll (gpus : List ThreadCtx) : List ThreadCall :=
  let gpus := gpus.map fun ctx => { ctx with stop := 1 }
  (gpus.map fun ctx => (collectorStop ctx).2).flatten

/-- the start loop, and `shutdown_all` wherever `main` calls it -/
def threadCalls (answers : List StartAnswers) : List ThreadCall :=
  let (gpus, calls) := startCollectors answers
  calls ++ shutdownAll gpus

/-! ## What one GPU contributes -/

/-- `collector_start` returns 0 -/
def StartAnswers.Starts (a : StartAnswers) : Prop := a.ring = true ∧ a.args = true ∧ a.pthreadCreate = 0

instance (a : StartAnswers) : Decidable a.Starts := inferInstanceAs (Decidable (_ ∧ _ ∧ _))

theorem startOne_starts {a : StartAnswers} (h : a.Starts) :
    (startOne a).1.thread = some a.tid ∧ (startOne a).2 = [.create a.tid] := by
  obtain ⟨hring, hargs, hcreate⟩ := h
  simp [startOne, collectorStart, hring, hargs, hcreate]

theorem startOne_fails {a : StartAnswers} (h : ¬ a.Starts) :
    (startOne a).1.thread = none ∧ (startOne a).2 = [] := by
  unfold StartAnswers.Starts at h
  unfold startOne collectorStart
  split_ifs <;> simp_all [ThreadCtx.zeroed]

theorem shutdownAll_eq (gpus : List ThreadCtx) : shutdownAll gpus = gpus.map fun ctx => .join ctx.thread := by
  unfold shutdownAll
  induction gpus with
  | nil => rfl
  | cons ctx gpus ih =>
    dsimp only at ih ⊢
    rw [List.map_cons, List.map_cons, List.flatten_cons, ih]
    rfl

end GpuHealth.ThreadLifecycle
