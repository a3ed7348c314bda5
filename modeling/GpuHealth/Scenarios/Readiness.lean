/-
The HTTP child's state refines the history of received messages.

Abstractly the child is a map from GPU index to the last snapshot received for it (`lastWith`), and it is ready when
the map is total. `refines_history`: for every number of GPUs the child accepts and every sequence of messages, with
any indices, slot i is marked received exactly when some message had index i, and then holds the last such snapshot;
a message with an index out of range changes nothing; `g_all_ready` is 1, and /ready answers 200, exactly when every
index has occurred, and it never goes back.
Witness `refines_history_two`: two GPUs, a repeated report and a message out of range.

`Inv` is the simulation: the slot table is the abstract map, and the latch is its totality. The latch is recomputed
only while it is 0 and only after a message in range, which is when totality can change (`heard_snoc`).
-/
import GpuHealth.HttpChild
import GpuHealth.Core.LastWrite

namespace GpuHealth.Readiness

open GpuHealth.HttpChild GpuHealth.LastWrite GpuHealth.Runs

variable {K : Type} [Arith K]

/-! ## The history -/

def isFor (i : ℕ) (msg : GpuIpcMsg K) : Bool := msg.gpuIndex = i

/-- some message had index `i` -/
def Heard (msgs : List (GpuIpcMsg K)) (i : ℕ) : Prop := ∃ msg ∈ msgs, msg.gpuIndex = i

/-- every GPU has reported -/
def AllHeard (n : ℕ) (msgs : List (GpuIpcMsg K)) : Prop := ∀ i < n, Heard msgs i

instance (msgs : List (GpuIpcMsg K)) (i : ℕ) : Decidable (Heard msgs i) :=
  inferInstanceAs (Decidable (∃ msg ∈ msgs, msg.gpuIndex = i))

instance (n : ℕ) (msgs : List (GpuIpcMsg K)) : Decidable (AllHeard n msgs) :=
  inferInstanceAs (Decidable (∀ i < n, Heard msgs i))

/-- the slot of GPU `i` after the messages -/
def slotAfter (msgs : List (GpuIpcMsg K)) (i : ℕ) : HttpSlot K :=
  match lastWith (isFor i) msgs with
  | some msg => ⟨msg.snapshot, 1⟩
  | none => .zeroed

/-- what the child `g` should be after `msgs` -/
structure Refines (n : ℕ) (msgs : List (GpuIpcMsg K)) (g : ChildState K) : Prop where
  length : g.gSlots.length = n
  received : ∀ i (hi : i < g.gSlots.length), g.gSlots[i].received ≠ 0 ↔ ∃ msg ∈ msgs, msg.gpuIndex = i
  snap : ∀ i (hi : i < g.gSlots.length) (pre : List (GpuIpcMsg K)) (msg : GpuIpcMsg K) (post : List (GpuIpcMsg K)),
    msgs = pre ++ msg :: post → msg.gpuIndex = i → (∀ later ∈ post, later.gpuIndex ≠ i) →
      g.gSlots[i].snap = msg.snapshot
  outside : ∀ msg : GpuIpcMsg K, msg.gpuIndex < 0 ∨ n ≤ msg.gpuIndex → receive g msg = g
  ready : g.gAllReady = 1 ↔ ∀ i < n, ∃ msg ∈ msgs, msg.gpuIndex = i
  answer : ∀ metrics nowMs, (handleRequest g metrics nowMs "GET".toList "/ready".toList).status = 200 ↔
    ∀ i < n, ∃ msg ∈ msgs, msg.gpuIndex = i
  stays : ∀ more, g.gAllReady = 1 → (run receive g more).gAllReady = 1

/-! ## The simulation -/

structure Inv (n : ℕ) (msgs : List (GpuIpcMsg K)) (g : ChildState K) : Prop where
  num : g.gNumGpus = n
  slots : g.gSlots = (List.range n).map (slotAfter msgs)
  ready : g.gAllReady = if AllHeard n msgs then 1 else 0

theorem slotAfter_received (msgs : List (GpuIpcMsg K)) (i : ℕ) : (slotAfter msgs i).received ≠ 0 ↔ Heard msgs i := by
  have hheard : Heard msgs i ↔ (lastWith (isFor i) msgs).isSome = true := by
    rw [lastWith_isSome]
    simp only [Heard, isFor, decide_eq_true_eq]
  rw [hheard, slotAfter]
  cases lastWith (isFor i) msgs with
  | none => simp [HttpSlot.zeroed]
  | some msg => simp

theorem slotAfter_snoc (msgs : List (GpuIpcMsg K)) (msg : GpuIpcMsg K) (i : ℕ) :
    slotAfter (msgs ++ [msg]) i = if msg.gpuIndex = i then ⟨msg.snapshot, 1⟩ else slotAfter msgs i := by
  simp only [slotAfter, lastWith_snoc, isFor, decide_eq_true_eq]
  split_ifs <;> rfl

omit [Arith K] in
theorem heard_snoc (msgs : List (GpuIpcMsg K)) (msg : GpuIpcMsg K) (i : ℕ) :
    Heard (msgs ++ [msg]) i ↔ Heard msgs i ∨ msg.gpuIndex = i := by
  simp only [Heard, List.mem_append, List.mem_singleton, or_and_right, exists_or, exists_eq_left]

/-- a message out of range is no news -/
theorem slots_outside {n : ℕ} {msg : GpuIpcMsg K} (h : msg.gpuIndex < 0 ∨ msg.gpuIndex ≥ n) (msgs : List (GpuIpcMsg K)) :
    (List.range n).map (slotAfter (msgs ++ [msg])) = (List.range n).map (slotAfter msgs) := by
  apply List.map_congr_left
  intro i hi
  rw [List.mem_range] at hi
  rw [slotAfter_snoc, if_neg (by omega)]

omit [Arith K] in
theorem allHeard_outside {n : ℕ} {msg : GpuIpcMsg K} (h : msg.gpuIndex < 0 ∨ msg.gpuIndex ≥ n)
    (msgs : List (GpuIpcMsg K)) : AllHeard n (msgs ++ [msg]) ↔ AllHeard n msgs := by
  unfold AllHeard
  constructor
  · intro hall i hi
    rcases (heard_snoc msgs msg i).1 (hall i hi) with hold | hnew
    · exact hold
    · omega
  · intro hall i hi
    exact (heard_snoc msgs msg i).2 (Or.inl (hall i hi))

/-- a message in range overwrites its slot -/
theorem slots_inside {n : ℕ} {msg : GpuIpcMsg K} (h : ¬ (msg.gpuIndex < 0 ∨ msg.gpuIndex ≥ n))
    (msgs : List (GpuIpcMsg K)) :
    ((List.range n).map (slotAfter msgs)).set msg.gpuIndex.toNat ⟨msg.snapshot, 1⟩ =
      (List.range n).map (slotAfter (msgs ++ [msg])) := by
  apply List.ext_getElem
  · simp
  · intro i h1 h2
    simp only [List.length_map, List.length_range] at h2
    rw [List.getElem_set, List.getElem_map, List.getElem_map, List.getElem_range, slotAfter_snoc]
    have hiff : msg.gpuIndex.toNat = i ↔ msg.gpuIndex = i := by omega
    simp only [hiff]

/-- the scan of the abstract table is totality -/
theorem scan_slots (n : ℕ) (msgs : List (GpuIpcMsg K)) :
    scanReceived ((List.range n).map (slotAfter msgs)) ≠ 0 ↔ AllHeard n msgs := by
  rw [scanReceived_ne_zero, List.forall_mem_map]
  simp only [List.mem_range, slotAfter_received]
  exact Iff.rfl

theorem inv_start {n : ℕ} (h1 : 1 ≤ n) {pollIntervalS : ℤ} {g : ChildState K}
    (hg : childStart n pollIntervalS = some g) : Inv n [] g := by
  by_cases hbad : (n : ℤ) ≤ 0 ∨ (n : ℤ) > 256
  · rw [childStart, if_pos hbad] at hg
    exact absurd hg (by simp)
  · rw [childStart, if_neg hbad] at hg
    obtain rfl := Option.some.inj hg
    refine ⟨rfl, ?_, ?_⟩
    · apply List.ext_getElem
      · simp
      · intro i _ _
        simp [slotAfter]
    · have hnone : ¬ AllHeard n ([] : List (GpuIpcMsg K)) := by
        intro hall
        obtain ⟨msg, hmsg, -⟩ := hall 0 h1
        exact absurd hmsg List.not_mem_nil
      exact (if_neg hnone).symm

theorem step_inv {n : ℕ} {msgs : List (GpuIpcMsg K)} {g : ChildState K} (h : Inv n msgs g) (msg : GpuIpcMsg K) :
    Inv n (msgs ++ [msg]) (receive g msg) := by
  by_cases hout : msg.gpuIndex < 0 ∨ msg.gpuIndex ≥ g.gNumGpus
  · rw [receive_outside hout]
    rw [h.num] at hout
    refine ⟨h.num, h.slots.trans (slots_outside hout msgs).symm, ?_⟩
    rw [h.ready]
    exact if_congr (allHeard_outside hout msgs).symm rfl rfl
  · obtain ⟨hslots, hready⟩ := receive_inside hout
    rw [h.num] at hout
    rw [h.slots, slots_inside hout] at hslots hready
    refine ⟨(receive_gNumGpus g msg).trans h.num, hslots, ?_⟩
    rw [hready, h.ready]
    by_cases hall : AllHeard n msgs
    · -- the latch is set, and totality does not go back
      have hnext : AllHeard n (msgs ++ [msg]) := fun i hi => (heard_snoc msgs msg i).2 (Or.inl (hall i hi))
      rw [if_pos hall, if_pos hnext, if_neg one_ne_zero]
    · rw [if_neg hall, if_pos rfl]
      exact if_congr (scan_slots n (msgs ++ [msg])) rfl rfl

theorem inv_run {n : ℕ} (h1 : 1 ≤ n) {pollIntervalS : ℤ} {g : ChildState K} (hg : childStart n pollIntervalS = some g)
    (msgs : List (GpuIpcMsg K)) : Inv n msgs (run receive g msgs) := by
  induction msgs using List.reverseRecOn with
  | nil => exact inv_start h1 hg
  | append_singleton msgs msg ih =>
    rw [run_snoc]
    exact step_inv ih msg

omit [Arith K] in
/-- once 1, the latch stays 1 -/
theorem ready_stays (g : ChildState K) (more : List (GpuIpcMsg K)) (h : g.gAllReady = 1) :
    (run receive g more).gAllReady = 1 := by
  have hstep : ∀ (g : ChildState K) (msg : GpuIpcMsg K), g.gAllReady = 1 → (receive g msg).gAllReady = 1 := by
    intro g msg hg
    by_cases hout : msg.gpuIndex < 0 ∨ msg.gpuIndex ≥ g.gNumGpus
    · rw [receive_outside hout, hg]
    · rw [(receive_inside hout).2, hg, if_neg one_ne_zero]
  exact run_inv hstep more h

theorem refines_of_inv {n : ℕ} {msgs : List (GpuIpcMsg K)} {g : ChildState K} (h : Inv n msgs g) : Refines n msgs g where
  length := by rw [h.slots, List.length_map, List.length_range]
  received := fun i hi => by
    simp only [h.slots, List.getElem_map, List.getElem_range]
    exact slotAfter_received msgs i
  snap := fun i hi pre msg post hsplit hmsg hpost => by
    have hlast : lastWith (isFor i) msgs = some msg := by
      rw [hsplit]
      apply lastWith_eq_of_split
      · simpa [isFor] using hmsg
      · intro later hlater
        simpa [isFor] using hpost later hlater
    simp only [h.slots, List.getElem_map, List.getElem_range, slotAfter, hlast]
  outside := fun msg hout => receive_outside (by rw [h.num]; exact hout)
  ready := by
    rw [h.ready]
    change _ ↔ AllHeard n msgs
    split_ifs with hall <;> simp [hall]
  answer := fun metrics nowMs => by
    change _ ↔ AllHeard n msgs
    by_cases hall : AllHeard n msgs
    · simp [handleRequest, h.ready, hall, plain]
    · simp [handleRequest, h.ready, hall, plain]
  stays := ready_stays g

/-- **The child's state refines the message history.** -/
theorem refines_history (n : ℕ) (h1 : 1 ≤ n) (h256 : n ≤ 256) (pollIntervalS : ℤ) :
    ∃ g : ChildState K, childStart n pollIntervalS = some g ∧
      ∀ msgs : List (GpuIpcMsg K), Refines n msgs (run receive g msgs) := by
  have hvalid : ¬ ((n : ℤ) ≤ 0 ∨ (n : ℤ) > 256) := by omega
  refine ⟨_, if_neg hvalid, ?_⟩
  intro msgs
  exact refines_of_inv (inv_run h1 (if_neg hvalid) msgs)

/-- a message of GPU `i`, sent at `ms` -/
def report (i : ℤ) (ms : UInt64) : GpuIpcMsg ℚ := ⟨i, { GpuSnapshot.zeroed with lastPollMs := ms }⟩

/-- GPU 0 reports twice, GPU 1 once, and a message is out of range -/
theorem refines_history_two : ∃ g : ChildState ℚ, childStart 2 1 = some g ∧
    Refines 2 [report 0 1, report 7 2, report 0 3, report 1 4]
      (run receive g [report 0 1, report 7 2, report 0 3, report 1 4]) := by
  obtain ⟨g, hg, h⟩ := refines_history (K := ℚ) 2 (by decide) (by decide) 1
  exact ⟨g, hg, h _⟩

end GpuHealth.Readiness
