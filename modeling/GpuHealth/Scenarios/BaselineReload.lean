/-
Lost baseline reloads, over every interleaving of the poll threads.

The property: once every thread has completed a full successful cycle that began after the last change of a
GPU's baseline file, the GPU's baseline is, up to driver_mismatch, what `baseline_load` returns for the file
(`NoLostReload`). The descriptor is shared and read destructively, and a thread reloads only its own GPU's file.

- `drained_by_neighbour`: two GPUs. The file of GPU 1 changes, thread 0 drains the event and reloads its own file,
  then both threads complete a cycle. GPU 1 keeps its old baseline.
- `no_lost_reload`: in every run in which a thread drains the queue only when every other GPU with a queued event is
  up to date or about to reload (`DrainsOwn`), no reload is lost.
Witness `no_lost_reload_alone`: the thread whose file has changed drains first.

Invariant of the run (`Covered`): each GPU is up to date, or the event of its file is queued, or its thread is between
its drain and its reload.

Premise: the descriptor exists (baseline_inotify_fd is not negative).
-/
import GpuHealth.PollThreads

namespace GpuHealth.BaselineReload

open GpuHealth.State GpuHealth.PollThreads GpuHealth.Runs
open GpuHealth.Collector hiding step

variable {K : Type} [Arith K] {n : ℕ}

/-! ## The property -/

/-- `b` without its driver_mismatch -/
def upToDriver (b : GpuBaseline K) : GpuBaseline K := { b with driverMismatch := 0 }

/-- the baseline in use is that of the current file -/
def Current (files : CStr → Option CStr) (t : Thread K) : Prop :=
  upToDriver t.baseline = upToDriver (baselineLoad (files t.serial) t.serial)

/-- thread `j` begins a cycle, its sensors respond, and it completes the cycle -/
def CompletesCycle (exp : Exporter K) (s : System K n) (l : List (Op n)) (j : Fin n) : Prop :=
  ∃ a env b c, l = a ++ .poll j env :: (b ++ .publish j :: c) ∧
    ((run (step exp) s a).threads j).place = .idle ∧
    ((run (step exp) s (a ++ [.poll j env])).threads j).place = .polled ∧
    ((run (step exp) s (a ++ .poll j env :: b)).threads j).place = .checked

/-- every thread completes a cycle after the last change of the file `name` -/
def Settled (exp : Exporter K) (s : System K n) (l : List (Op n)) (name : CStr) : Prop :=
  ∃ pre post, l = pre ++ post ∧ (∀ content, .change name content ∉ post) ∧
    ∀ j, CompletesCycle exp (run (step exp) s pre) post j

def NoLostReload (exp : Exporter K) (s : System K n) (l : List (Op n)) : Prop :=
  ∀ i, Settled exp s l ((run (step exp) s l).threads i).serial →
    Current (run (step exp) s l).files ((run (step exp) s l).threads i)

/-! ## The condition -/

/-- a drain finds no event another GPU still needs: each other GPU whose event it removes is up to date or about to
reload -/
def DrainsOwn (s : System K n) : Op n → Prop
  | .check j => (s.threads j).place = .polled → ∀ i ≠ j, (s.threads i).serial ∈ s.queue →
      Current s.files (s.threads i) ∨ (s.threads i).place = .reload
  | _ => True

instance (files : CStr → Option CStr) (t : Thread K) : Decidable (Current files t) :=
  inferInstanceAs (Decidable (_ = _))

instance (s : System K n) (op : Op n) : Decidable (DrainsOwn s op) :=
  match op with
  | .check j => inferInstanceAs (Decidable (_ → ∀ i ≠ j, _ → _ ∨ _))
  | .change _ _ => isTrue trivial
  | .poll _ _ => isTrue trivial
  | .load _ => isTrue trivial
  | .publish _ => isTrue trivial

/-! ## One step -/

/-- up to date, or told, or about to reload -/
def Covered (s : System K n) (i : Fin n) : Prop :=
  Current s.files (s.threads i) ∨ (s.threads i).serial ∈ s.queue ∨ (s.threads i).place = .reload

/-- in a cycle that has not reached its reload yet -/
def Heading (s : System K n) (i : Fin n) : Prop :=
  Current s.files (s.threads i) ∨ (s.threads i).place = .polled ∨ (s.threads i).place = .reload

theorem Current.of_same {files : CStr → Option CStr} {t' t : Thread K} (h : Current files t) (hs : SameBaseline t' t) :
    Current files t' := by
  unfold Current
  rw [hs.1, hs.2]
  exact h

theorem Current.of_files {files files' : CStr → Option CStr} {t : Thread K} (h : Current files t)
    (hf : files' t.serial = files t.serial) : Current files' t := by
  unfold Current
  rw [hf]
  exact h

/-- a reload brings the thread up to date -/
theorem current_reloaded {files : CStr → Option CStr} {t' t : Thread K} (hs : t'.serial = t.serial)
    (hb : t'.baseline = reloadedBaseline t.st.ctx (files t.serial)) : Current files t' := by
  unfold Current
  rw [hb, hs]
  rfl

section Step

variable {exp : Exporter K} (hfd : exp.baselineInotifyFd ≥ 0)

include hfd

theorem step_serial (s : System K n) (op : Op n) (i : Fin n) :
    ((step exp s op).threads i).serial = (s.threads i).serial := by
  rcases step_thread hfd s op i with h | ⟨-, h⟩ | ⟨-, -, h, -⟩ | ⟨-, -, h, -⟩ | ⟨-, h⟩
  · rw [h]
  · exact h.2
  · exact h.2
  · exact h
  · exact h.2

/-- what is up to date stays so, but for a change of its file -/
theorem step_current {s : System K n} {op : Op n} {i : Fin n} (h : Current s.files (s.threads i))
    (hop : ∀ content, op ≠ .change (s.threads i).serial content) :
    Current (step exp s op).files ((step exp s op).threads i) := by
  have hthread : Current s.files ((step exp s op).threads i) := by
    rcases step_thread hfd s op i with heq | ⟨-, hs⟩ | ⟨-, -, hs, -⟩ | ⟨-, -, hs, hb⟩ | ⟨-, hs⟩
    · rw [heq]; exact h
    · exact h.of_same hs
    · exact h.of_same hs
    · exact current_reloaded hs hb
    · exact h.of_same hs
  apply hthread.of_files
  rw [step_serial hfd]
  exact step_files exp s op hop

/-- a thread about to reload stays so until it has the current file -/
theorem step_reload {s : System K n} {op : Op n} {i : Fin n} (h : (s.threads i).place = .reload) :
    ((step exp s op).threads i).place = .reload ∨ Current (step exp s op).files ((step exp s op).threads i) := by
  rcases step_thread hfd s op i with heq | ⟨hp, -⟩ | ⟨-, hp, -⟩ | ⟨rfl, -, hs, hb⟩ | ⟨hp, -⟩
  · exact Or.inl (heq ▸ h)
  · exact absurd (h.symm.trans hp) (by decide)
  · exact absurd (h.symm.trans hp) (by decide)
  · exact Or.inr (current_reloaded hs hb)
  · exact absurd (h.symm.trans hp) (by decide)

/-- its own drain finds the event -/
theorem step_drain {s : System K n} {i : Fin n} (hp : (s.threads i).place = .polled) (hq : s.queue ≠ []) :
    ((step exp s (.check i)).threads i).place = .reload := by
  have hth : (step exp s (.check i)).threads i = (checkThread exp s.queue (s.threads i)).1 := Function.update_self ..
  rcases checkThread_cases hfd s.queue (s.threads i) with ⟨-, hne⟩ | ⟨-, -, hplace, -⟩
  · exact absurd hp hne
  · rw [hth, hplace, if_neg hq]

theorem step_covered {s : System K n} {op : Op n} (hok : DrainsOwn s op) (h : ∀ i, Covered s i) (i : Fin n) :
    Covered (step exp s op) i := by
  have hserial := step_serial hfd s op i
  by_cases hchange : ∃ content, op = .change (s.threads i).serial content
  · obtain ⟨content, rfl⟩ := hchange
    exact Or.inr (Or.inl (List.mem_append_right _ (List.mem_singleton.2 rfl)))
  have hkeep : ∀ content, op ≠ .change (s.threads i).serial content := fun content heq => hchange ⟨content, heq⟩
  -- what the step does to a GPU that is up to date or about to reload
  have hsafe : Current s.files (s.threads i) ∨ (s.threads i).place = .reload → Covered (step exp s op) i := by
    intro hcase
    rcases hcase with hc | hp
    · exact Or.inl (step_current hfd hc hkeep)
    · exact (step_reload hfd hp).elim (fun h => Or.inr (Or.inr h)) Or.inl
  rcases h i with hc | hq | hp
  · exact hsafe (Or.inl hc)
  · rcases step_queue hfd s op hq with hq' | ⟨j, rfl, hp⟩
    · exact Or.inr (Or.inl (hserial ▸ hq'))
    · by_cases hij : i = j
      · subst hij
        exact Or.inr (Or.inr (step_drain hfd hp (List.ne_nil_of_mem hq)))
      · exact hsafe (hok hp i hij hq)
  · exact hsafe (Or.inr hp)

theorem step_heading {s : System K n} {op : Op n} {i : Fin n} (hcov : Covered s i) (h : Heading s i)
    (hop : ∀ content, op ≠ .change (s.threads i).serial content) : Heading (step exp s op) i := by
  rcases h with hc | hp | hp
  · exact Or.inl (step_current hfd hc hop)
  · rcases step_thread hfd s op i with heq | ⟨hp', -⟩ | ⟨rfl, -, hs, -⟩ | ⟨-, hp', -⟩ | ⟨hp', -⟩
    · exact Or.inr (Or.inl (heq ▸ hp))
    · exact absurd (hp.symm.trans hp') (by decide)
    · by_cases hq : s.queue = []
      · rcases hcov with hc | hmem | hp'
        · exact Or.inl (step_current hfd hc hop)
        · exact absurd hmem (by simp [hq])
        · exact absurd (hp.symm.trans hp') (by decide)
      · exact Or.inr (Or.inr (step_drain hfd hp hq))
    · exact absurd (hp.symm.trans hp') (by decide)
    · exact absurd (hp.symm.trans hp') (by decide)
  · exact (step_reload hfd hp).elim (fun h => Or.inr (Or.inr h)) Or.inl

/-! ## A run -/

theorem run_serial (s : System K n) (l : List (Op n)) (i : Fin n) :
    ((run (step exp) s l).threads i).serial = (s.threads i).serial := by
  have hstep : ∀ (s' : System K n) (op : Op n), (s'.threads i).serial = (s.threads i).serial →
      ((step exp s' op).threads i).serial = (s.threads i).serial := by
    intro s' op h
    exact (step_serial hfd s' op i).trans h
  exact run_inv hstep l rfl

theorem run_covered {s : System K n} {l : List (Op n)} (hok : ∀ v ∈ visits (step exp) s l, DrainsOwn v.1 v.2)
    (h : ∀ i, Covered s i) : ∀ i, Covered (run (step exp) s l) i := by
  have hstep : ∀ (s : System K n) (op : Op n), DrainsOwn s op → (∀ i, Covered s i) → ∀ i, Covered (step exp s op) i := by
    intro s op hop hs
    exact step_covered hfd hop hs
  exact run_inv_of hstep hok h

/-- while its file stays, a GPU that is up to date stays so -/
theorem run_current {s : System K n} {l : List (Op n)} {i : Fin n}
    (hkeep : ∀ content, .change (s.threads i).serial content ∉ l) (h : Current s.files (s.threads i)) :
    Current (run (step exp) s l).files ((run (step exp) s l).threads i) := by
  have hstep : ∀ (s' : System K n) (op : Op n), (∀ content, op ≠ .change (s.threads i).serial content) →
      ((s'.threads i).serial = (s.threads i).serial ∧ Current s'.files (s'.threads i)) →
      (((step exp s' op).threads i).serial = (s.threads i).serial ∧
        Current (step exp s' op).files ((step exp s' op).threads i)) := by
    intro s' op hne h'
    obtain ⟨hs, hc⟩ := h'
    exact ⟨(step_serial hfd s' op i).trans hs, step_current hfd hc (hs ▸ hne)⟩
  refine (run_inv_of hstep ?_ ⟨rfl, h⟩).2
  intro v hv content heq
  exact hkeep content (heq ▸ mem_of_visits _ hv)

/-- while its file stays, a GPU whose thread heads for its reload gets there or is still heading -/
theorem run_heading {s : System K n} {l : List (Op n)} {i : Fin n}
    (hok : ∀ v ∈ visits (step exp) s l, DrainsOwn v.1 v.2) (hcov : ∀ i, Covered s i)
    (hkeep : ∀ content, .change (s.threads i).serial content ∉ l) (h : Heading s i) :
    Heading (run (step exp) s l) i := by
  have hstep : ∀ (s' : System K n) (op : Op n),
      (DrainsOwn s' op ∧ ∀ content, op ≠ .change (s.threads i).serial content) →
      ((∀ i, Covered s' i) ∧ (s'.threads i).serial = (s.threads i).serial ∧ Heading s' i) →
      ((∀ i, Covered (step exp s' op) i) ∧ ((step exp s' op).threads i).serial = (s.threads i).serial ∧
        Heading (step exp s' op) i) := by
    intro s' op hop h'
    obtain ⟨hop, hne⟩ := hop
    obtain ⟨hc, hs, hh⟩ := h'
    exact ⟨step_covered hfd hop hc, (step_serial hfd s' op i).trans hs, step_heading hfd (hc i) hh (hs ▸ hne)⟩
  refine (run_inv_of hstep ?_ ⟨hcov, rfl, h⟩).2.2
  intro v hv
  refine ⟨hok v hv, ?_⟩
  intro content heq
  exact hkeep content (heq ▸ mem_of_visits _ hv)

/-- a full cycle after the last change of its file brings a GPU up to date -/
theorem cycle_current {s : System K n} {l : List (Op n)} {i : Fin n}
    (hok : ∀ v ∈ visits (step exp) s l, DrainsOwn v.1 v.2) (hcov : ∀ i, Covered s i)
    (hkeep : ∀ content, .change (s.threads i).serial content ∉ l) (hcycle : CompletesCycle exp s l i) :
    Current (run (step exp) s l).files ((run (step exp) s l).threads i) := by
  obtain ⟨a, env, b, c, rfl, -, hpolled, hchecked⟩ := hcycle
  have hsplit : a ++ .poll i env :: (b ++ .publish i :: c) = (a ++ [.poll i env]) ++ (b ++ .publish i :: c) := by simp
  have hsplit' : a ++ .poll i env :: b = (a ++ [.poll i env]) ++ b := by simp
  rw [hsplit, visits_append (step exp) s, visits_append (step exp) _ b] at hok
  rw [hsplit] at hkeep ⊢
  rw [hsplit', run_append] at hchecked
  rw [run_append, run_append]
  set s₁ := run (step exp) s (a ++ [.poll i env]) with hs₁
  have hserial : (s₁.threads i).serial = (s.threads i).serial := run_serial hfd s _ i
  have hcov₁ : ∀ i, Covered s₁ i := by
    apply run_covered hfd _ hcov
    intro v hv
    exact hok v (List.mem_append_left _ hv)
  -- from the poll to the publish
  have hheading : Heading (run (step exp) s₁ b) i := by
    refine run_heading hfd ?_ hcov₁ ?_ (Or.inr (Or.inl hpolled))
    · intro v hv
      exact hok v (List.mem_append_right _ (List.mem_append_left _ hv))
    · intro content hmem
      apply hkeep content
      exact hserial ▸ List.mem_append_right _ (List.mem_append_left _ hmem)
  have hcurrent : Current (run (step exp) s₁ b).files ((run (step exp) s₁ b).threads i) := by
    rcases hheading with h | h | h
    · exact h
    · exact absurd (h.symm.trans hchecked) (by decide)
    · exact absurd (h.symm.trans hchecked) (by decide)
  refine run_current hfd ?_ hcurrent
  intro content hmem
  rw [run_serial hfd, hserial] at hmem
  exact hkeep content (List.mem_append_right _ (List.mem_append_right _ hmem))

end Step

theorem start_current (exp : Exporter K) (ctx : Fin n → GpuCtx K) (files probeFiles : CStr → Option CStr)
    (nowS : UInt64) (i : Fin n) :
    Current (start exp ctx files probeFiles nowS).files ((start exp ctx files probeFiles nowS).threads i) := by
  simp only [Current, Thread.baseline, Thread.serial, start, collectorStart]
  unfold mainLoadFiles
  dsimp only
  split_ifs <;> rfl

/-! ## Two GPUs -/

def watchingExporter : Exporter ℚ := { smallExporter with baselineInotifyFd := 3 }

/-- two GPUs with the serials A and B, without files at startup -/
def pair : System ℚ 2 :=
  start watchingExporter (fun i => { GpuCtx.zeroed with serial := if i = 0 then "A".toList else "B".toList })
    (fun _ => none) (fun _ => none) 0

/-- the file of GPU 1 is written -/
def writeB : Op 2 := .change "B".toList
  "serial=B\nperf_w_mean=10\nestablished_at=2026-03-15T14:22:00Z\nworkload=w\nsample_count=5\n".toList

/-- one whole cycle of thread `j` -/
def cycleOf (j : Fin 2) : List (Op 2) := [.poll j (quietEnv 0), .check j, .load j, .publish j]

/-! ## Runs in which no reload is lost -/

/-- **No reload is lost in a run whose drains meet the condition.** -/
theorem no_lost_reload {exp : Exporter K} (hfd : exp.baselineInotifyFd ≥ 0) (ctx : Fin n → GpuCtx K)
    (files probeFiles : CStr → Option CStr) (nowS : UInt64) (l : List (Op n))
    (hok : ∀ v ∈ visits (step exp) (start exp ctx files probeFiles nowS) l, DrainsOwn v.1 v.2) :
    NoLostReload exp (start exp ctx files probeFiles nowS) l := by
  intro i hsettled
  obtain ⟨pre, post, rfl, hkeep, hcycles⟩ := hsettled
  rw [visits_append] at hok
  rw [run_append] at hkeep ⊢
  have hcov : ∀ i, Covered (run (step exp) (start exp ctx files probeFiles nowS) pre) i := by
    apply run_covered hfd
    · intro v hv
      exact hok v (List.mem_append_left _ hv)
    · intro i
      exact Or.inl (start_current exp ctx files probeFiles nowS i)
  apply cycle_current hfd _ hcov _ (hcycles i)
  · intro v hv
    exact hok v (List.mem_append_right _ hv)
  · intro content hmem
    rw [run_serial hfd] at hkeep
    exact hkeep content hmem

theorem no_lost_reload_alone : NoLostReload watchingExporter pair (writeB :: (cycleOf 1 ++ cycleOf 0)) ∧
    ((run (step watchingExporter) pair (writeB :: (cycleOf 1 ++ cycleOf 0))).threads 1).baseline.available = 1 :=
  ⟨no_lost_reload (by decide) _ _ _ _ _ (by decide +kernel), by decide +kernel⟩

/-! ## A drain by the neighbour -/

/-- both threads complete a cycle after the change, and GPU 1 has no baseline -/
theorem drained_by_neighbour :
    Settled watchingExporter pair (writeB :: (cycleOf 0 ++ cycleOf 1)) "B".toList ∧
    ((run (step watchingExporter) pair (writeB :: (cycleOf 0 ++ cycleOf 1))).threads 1).baseline.available = 0 ∧
    ¬ NoLostReload watchingExporter pair (writeB :: (cycleOf 0 ++ cycleOf 1)) := by
  have hsettled : Settled watchingExporter pair (writeB :: (cycleOf 0 ++ cycleOf 1)) "B".toList := by
    refine ⟨[writeB], cycleOf 0 ++ cycleOf 1, rfl, by simp [cycleOf], ?_⟩
    intro j
    fin_cases j
    · exact ⟨[], quietEnv 0, [.check 0, .load 0], cycleOf 1, rfl, by decide +kernel, by decide +kernel,
        by decide +kernel⟩
    · exact ⟨cycleOf 0, quietEnv 0, [.check 1, .load 1], [], rfl, by decide +kernel, by decide +kernel,
        by decide +kernel⟩
  refine ⟨hsettled, by decide +kernel, ?_⟩
  intro h
  have hserial : ((run (step watchingExporter) pair (writeB :: (cycleOf 0 ++ cycleOf 1))).threads 1).serial =
      "B".toList := by decide +kernel
  exact absurd (h 1 (hserial ▸ hsettled)) (by decide +kernel)

end GpuHealth.BaselineReload
