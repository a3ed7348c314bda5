/-
The sample ring: `ring_push` (`src/collector.c`) and the index formulas of its readers (`src/scorer.c`,
`src/snapshot.c`), and their refinement to the abstract window.

The source writes five formulas for a physical index. Each has its definition here: `sampleIdx` (`sample_field`),
`gateCur` and `gatePrev` (the completeness gate), `idxFirst` and `idxLast` (the ECC block of `score_gpu`), `latestIdx`
(`snapshot_update`). `%` is C's truncated remainder.

`RingWf` is what `ring_push` keeps; a well-formed ring is a `CyclicBuffer` (`toCyclic`), pushes commute with it
(`toCyclic_push`), and `window` is the cyclic buffer's window. So a push appends and evicts the oldest sample exactly
when the ring is full (`window_ringPush`), and each reader reads an element of the window at its logical index
(`sampleAt_sampleIdx`, `gateCur_eq`, `gatePrev_eq`, `idxFirst_eq`, `idxLast_eq`, `latestIdx_eq_idxLast`).
-/
import GpuHealth.Types
import GpuHealth.Core.CyclicBuffer
import GpuHealth.Core.Runs

namespace GpuHealth.Ring

variable {K : Type}

/-! ## The code -/

def ringPush (ring : GpuRing K) (s : GpuSample K) : GpuRing K where
  samples := ring.samples.set ring.head.toNat s
  head := (ring.head + 1).tmod ring.capacity
  count := if ring.count < ring.capacity then ring.count + 1 else ring.count
  capacity := ring.capacity

def sampleIdx (ring : GpuRing K) (i : ℤ) : ℤ := (ring.head - ring.count + i + ring.capacity).tmod ring.capacity

def gateCur (ring : GpuRing K) (i : ℤ) : ℤ := (ring.head - ring.count + i + 1 + ring.capacity).tmod ring.capacity

def gatePrev (ring : GpuRing K) (i : ℤ) : ℤ := (ring.head - ring.count + i + ring.capacity).tmod ring.capacity

def idxFirst (ring : GpuRing K) : ℤ := (ring.head - ring.count + ring.capacity).tmod ring.capacity

def idxLast (ring : GpuRing K) : ℤ := (ring.head - 1 + ring.capacity).tmod ring.capacity

def latestIdx (ring : GpuRing K) : ℤ := (ring.head - 1 + ring.capacity).tmod ring.capacity

section Read

variable [Zero K]

/-- `ring->samples[idx]` -/
def sampleAt (ring : GpuRing K) (idx : ℤ) : GpuSample K := ring.samples.getD idx.toNat .zeroed

/-- the double at `field` of the sample at logical index `i` -/
def sampleField (ring : GpuRing K) (i : ℤ) (field : GpuSample K → K) : K := field (sampleAt ring (sampleIdx ring i))

/-- the samples the readers see, oldest first -/
def window (ring : GpuRing K) : List (GpuSample K) :=
  (List.range ring.count.toNat).map fun i : ℕ => sampleAt ring (sampleIdx ring i)

end Read

/-! ## Well-formed rings are cyclic buffers -/

structure RingWf (ring : GpuRing K) : Prop where
  head_nonneg : 0 ≤ ring.head
  head_lt : ring.head < ring.capacity
  count_nonneg : 0 ≤ ring.count
  count_le : ring.count ≤ ring.capacity
  samples_length : (ring.samples.length : ℤ) = ring.capacity

variable {ring : GpuRing K}

/-- the cyclic buffer a well-formed ring is -/
def toCyclic (h : RingWf ring) : CyclicBuffer (GpuSample K) where
  store := ring.samples
  head := ring.head.toNat
  count := ring.count.toNat
  head_lt := by have := h.head_nonneg; have := h.head_lt; have := h.samples_length; omega
  count_le := by have := h.count_le; have := h.samples_length; omega

theorem toCyclic_cap (h : RingWf ring) : (toCyclic h).cap = ring.capacity.toNat := by
  have := h.samples_length
  simp only [toCyclic, CyclicBuffer.cap]; omega

theorem wf_push (h : RingWf ring) (s : GpuSample K) : RingWf (ringPush ring s) := by
  have h0 := h.head_nonneg
  have h1 := h.head_lt
  have h2 := h.count_nonneg
  have h3 := h.count_le
  refine ⟨Int.tmod_nonneg _ (by omega), Int.tmod_lt_of_pos _ (by omega), ?_, ?_, ?_⟩
  · simp only [ringPush]; split_ifs <;> omega
  · simp only [ringPush]; split_ifs <;> omega
  · simpa [ringPush] using h.samples_length

theorem wf_pushAll (h : RingWf ring) (xs : List (GpuSample K)) : RingWf (xs.foldl ringPush ring) := by
  apply Runs.run_inv _ xs h
  intro r s hr
  exact wf_push hr s

@[simp] theorem ringPush_capacity (s : GpuSample K) : (ringPush ring s).capacity = ring.capacity := rfl

@[simp] theorem pushAll_capacity (xs : List (GpuSample K)) :
    (xs.foldl ringPush ring).capacity = ring.capacity := by
  induction xs generalizing ring with
  | nil => rfl
  | cons s xs ih => exact ih

/-- **`ring_push` is the cyclic buffer's push.** -/
theorem toCyclic_push (h : RingWf ring) (s : GpuSample K) : toCyclic (wf_push h s) = (toCyclic h).push s := by
  have h0 := h.head_nonneg
  have h1 := h.head_lt
  have h2 := h.count_nonneg
  have h3 := h.count_le
  have hcap := toCyclic_cap h
  have hhead : ((ring.head + 1).tmod ring.capacity).toNat = (ring.head.toNat + 1) % (toCyclic h).cap := by
    rw [hcap, Int.tmod_eq_emod_of_nonneg (by omega), Int.toNat_emod (by omega) (by omega)]
    congr 1; omega
  have hcount : (if ring.count < ring.capacity then ring.count + 1 else ring.count).toNat =
      min (ring.count.toNat + 1) (toCyclic h).cap := by
    rw [hcap]; split_ifs <;> omega
  simp only [toCyclic, CyclicBuffer.push, ringPush, CyclicBuffer.mk.injEq, true_and]
  exact ⟨hhead, hcount⟩

theorem toCyclic_pushAll (h : RingWf ring) (xs : List (GpuSample K)) :
    toCyclic (wf_pushAll h xs) = (toCyclic h).pushAll xs := by
  induction xs generalizing ring with
  | nil => rfl
  | cons s xs ih =>
    have hpush := ih (wf_push h s)
    rw [toCyclic_push] at hpush
    exact hpush

/-! ## The index formulas -/

theorem sampleIdx_eq (h : RingWf ring) (i : ℕ) : sampleIdx ring i = ((toCyclic h).slot i : ℤ) := by
  have h0 := h.head_nonneg
  have h1 := h.head_lt
  have h2 := h.count_nonneg
  have h3 := h.count_le
  rw [CyclicBuffer.slot, toCyclic_cap h, sampleIdx, Int.tmod_eq_emod_of_nonneg (by omega), Int.natCast_emod]
  congr 1
  · simp only [toCyclic]; omega
  · omega

theorem gatePrev_eq (i : ℕ) : gatePrev ring i = sampleIdx ring i := rfl

theorem gateCur_eq (i : ℕ) : gateCur ring i = sampleIdx ring (i + 1 : ℕ) := by
  simp only [gateCur, sampleIdx]; congr 1; push_cast; ring

theorem idxFirst_eq : idxFirst ring = sampleIdx ring (0 : ℕ) := by
  simp only [idxFirst, sampleIdx]; congr 1; push_cast; ring

theorem latestIdx_eq_idxLast : latestIdx ring = idxLast ring := rfl

theorem idxLast_eq (hpos : 0 < ring.count) : idxLast ring = sampleIdx ring (ring.count.toNat - 1 : ℕ) := by
  simp only [idxLast, sampleIdx]; congr 1; omega

/-! ## What the readers read -/

variable [Zero K]

theorem window_eq (h : RingWf ring) : window ring = (toCyclic h).window := by
  apply List.ext_getElem
  · simp [window, toCyclic]
  · intro i h1 h2
    have hlt : (toCyclic h).slot i < ring.samples.length := (toCyclic h).slot_lt i
    rw [CyclicBuffer.window_getElem]
    simp only [window, List.getElem_map, List.getElem_range, sampleAt, sampleIdx_eq h, Int.toNat_natCast]
    rw [List.getD_eq_getElem?_getD, List.getElem?_eq_getElem hlt]; rfl

theorem window_length (h : RingWf ring) : ((window ring).length : ℤ) = ring.count := by
  have := h.count_nonneg
  simp only [window, List.length_map, List.length_range]; omega

/-- **The window after a push.** -/
theorem window_ringPush (h : RingWf ring) (s : GpuSample K) :
    window (ringPush ring s) = (window ring ++ [s]).rtake ring.capacity.toNat := by
  rw [window_eq (wf_push h s), toCyclic_push h s, CyclicBuffer.window_push, ← window_eq h, toCyclic_cap h]

/-- **The window after any pushes onto an empty ring is the last `capacity` pushed samples.** -/
theorem window_pushAll (h : RingWf ring) (h0 : ring.count = 0) (xs : List (GpuSample K)) :
    window (xs.foldl ringPush ring) = xs.rtake ring.capacity.toNat := by
  rw [window_eq (wf_pushAll h xs), toCyclic_pushAll h xs,
    CyclicBuffer.window_pushAll_empty _ (by simp [toCyclic, h0]), toCyclic_cap h]

theorem sampleAt_sampleIdx (i : ℕ) (hi : i < (window ring).length) :
    sampleAt ring (sampleIdx ring i) = (window ring)[i] := by
  simp only [window, List.getElem_map, List.getElem_range]

theorem sampleAt_idxFirst (hne : window ring ≠ []) : sampleAt ring (idxFirst ring) = (window ring).head hne := by
  rw [idxFirst_eq, sampleAt_sampleIdx 0 (List.length_pos_iff.2 hne), List.head_eq_getElem]

theorem sampleAt_idxLast (h : RingWf ring) (hne : window ring ≠ []) :
    sampleAt ring (idxLast ring) = (window ring).getLast hne := by
  have hlen := window_length h
  have hpos := List.length_pos_iff.2 hne
  rw [idxLast_eq (by omega), sampleAt_sampleIdx _ (by omega), List.getLast_eq_getElem]
  congr 1; omega

end GpuHealth.Ring
