/-
Every reader of the sample ring sees the last `capacity` samples, and nothing else.

The readers are those of `CheckedScorer`: none for an `int` expression outside 32 bits and for a store behind `deltas`.
From an empty ring of a capacity from 1 to 2^30, after any pushes `xs`, let W be the last `capacity` of `xs`:
- `readers_see_window`: head is in range, count is |W|, `sample_field` at logical index i reads W[i], the gate's
  `prev` and `cur` read W[i] and W[i+1], `idx_first` the first and `idx_last` and the snapshot's latest index the last
  element (`ReadsWindow`); `ring_mean`, `ring_stddev`, `ring_p95` and the whole result of `score_gpu` are functions of W
  (`FunctionsOfWindow`), so any other such ring whose pushes leave the same W has the same results (`SameResults`).
- `score_gpu` has a result for every W of at most 3601 samples, under a config whose divisors are in range.

Counterexample `index_and_deltas_overflow`, for both bounds:
- in a ring of 2^30 + 1 the index of `sample_field` leaves the `int`s before the ring is full;
- in a ring of 3602 the gate stores a 3601st step, and `deltas` has 3600 entries.
Witness `readers_see_window_wrapped`: a ring of two after three pushes against a ring of three after two.

What the arrays hold before and the answers of `malloc` are inputs, the same on both sides. `collector_start` computes
a capacity of at most 3600.
-/
import GpuHealth.CheckedScorer

namespace GpuHealth.WindowRefinement

open GpuHealth.Ring GpuHealth.WindowScore GpuHealth.CheckedScorer

variable {K : Type} [Arith K]

/-- head = 0, count = 0, any memory behind `samples` -/
structure EmptyRing (ring : GpuRing K) : Prop where
  capacity_pos : 1 ≤ ring.capacity
  head_zero : ring.head = 0
  count_zero : ring.count = 0
  samples_length : (ring.samples.length : ℤ) = ring.capacity

omit [Arith K] in
theorem EmptyRing.wf {ring : GpuRing K} (h : EmptyRing ring) : RingWf ring := by
  have h1 := h.capacity_pos
  have h2 := h.head_zero
  have h3 := h.count_zero
  exact ⟨by omega, by omega, by omega, by omega, h.samples_length⟩

/-- what every reader of `r` reads, when the readers should see `w` -/
structure ReadsWindow (r : GpuRing K) (w : List (GpuSample K)) : Prop where
  head_nonneg : 0 ≤ r.head
  head_lt : r.head < r.capacity
  count_eq : r.count = w.length
  field : ∀ i (hi : i < w.length) (field : GpuSample K → K), CheckedScorer.sampleField r i field = some (field w[i])
  gate : ∀ i (hi : i + 1 < w.length),
    (CheckedScorer.gatePrev r i).bind (CheckedScorer.sampleAt r) = some w[i] ∧
    (CheckedScorer.gateCur r i).bind (CheckedScorer.sampleAt r) = some w[i + 1]
  first : ∀ hne : w ≠ [], (CheckedScorer.idxFirst r).bind (CheckedScorer.sampleAt r) = some (w.head hne)
  last : ∀ hne : w ≠ [], (CheckedScorer.idxLast r).bind (CheckedScorer.sampleAt r) = some (w.getLast hne)
  latest : ∀ hne : w ≠ [], (CheckedScorer.latestIdx r).bind (CheckedScorer.sampleAt r) = some (w.getLast hne)

theorem readsWindow_of_bounded {r : GpuRing K} (h : Bounded r) : ReadsWindow r (window r) := by
  obtain ⟨hhead, hlt, hcount, hle, hcap⟩ := h.range
  have hlen := length_toNat h.wf
  have hnewest : ∀ hne : window r ≠ [],
      CheckedScorer.sampleAt r (Ring.idxLast r) = some ((window r).getLast hne) := by
    intro hne
    have hpos := List.length_pos_iff.2 hne
    rw [Ring.idxLast, sampleAt_checked h (by omega)]
    exact congrArg some (sampleAt_idxLast h.wf hne)
  refine ⟨hhead, hlt, hlen, ?_, ?_, ?_, ?_, ?_⟩
  · intro i hi field
    rw [sampleField_checked h (by omega), Ring.sampleField, sampleAt_sampleIdx i hi]
  · intro i hi
    rw [gatePrev_checked h (by omega), gateCur_checked h (by omega), Option.bind_some, Option.bind_some, Ring.gatePrev,
      Ring.gateCur, sampleAt_checked h (by omega), sampleAt_checked h (by omega)]
    exact ⟨congrArg some (sampleAt_sampleIdx i (by omega)),
      congrArg some ((congrArg _ (gateCur_eq i)).trans (sampleAt_sampleIdx (i + 1) hi))⟩
  · intro hne
    rw [idxFirst_checked h, Option.bind_some, Ring.idxFirst, sampleAt_checked h (by omega)]
    exact congrArg some (sampleAt_idxFirst hne)
  · intro hne
    rw [idxLast_checked h, Option.bind_some]
    exact hnewest hne
  · intro hne
    rw [latestIdx_checked h, Option.bind_some]
    exact hnewest hne

/-- the results computed from `r` as functions of `w` -/
structure FunctionsOfWindow (r : GpuRing K) (w : List (GpuSample K)) : Prop where
  mean : ∀ field, ringMean r field = some (windowMean (w.map field))
  stddev : ∀ field, ringStddev r field = some (windowStddev (w.map field))
  p95 : ∀ (mem : P95Memory K) field,
    ringP95 mem r field = some (windowP95 (mem.malloc w.length).isSome (w.map field))
  score : ∀ mem state baseline probe cfg, scoreGpu mem r state baseline probe cfg =
    definedScore (mem.served w.length) w state baseline probe cfg
  scored : w.length ≤ 3601 → ∀ mem state baseline probe cfg, SafeConfig cfg →
    scoreGpu mem r state baseline probe cfg = some (scoreWindow (mem.served w.length) w state baseline probe cfg)

theorem functionsOfWindow_of_bounded {r : GpuRing K} (h : Bounded r) : FunctionsOfWindow r (window r) := by
  have hlen := length_toNat h.wf
  have hscore : ∀ mem state baseline probe cfg, scoreGpu mem r state baseline probe cfg =
      definedScore (mem.served (window r).length) (window r) state baseline probe cfg := by
    intro mem state baseline probe cfg
    rw [scoreGpu_window h, hlen]
  refine ⟨?_, ?_, ?_, hscore, ?_⟩
  · intro field
    rw [ringMean_checked h, ringMean_eq h.wf]
  · intro field
    rw [ringStddev_checked h, ringStddev_eq h.wf]
  · intro mem field
    rw [ringP95_checked h, ringP95_eq h.wf, hlen, Int.toNat_natCast]
  · intro hfits mem state baseline probe cfg hcfg
    rw [hscore, definedScore_eq hcfg hfits]

/-- two rings with the same results -/
structure SameResults (r r' : GpuRing K) : Prop where
  mean : ∀ field, ringMean r field = ringMean r' field
  stddev : ∀ field, ringStddev r field = ringStddev r' field
  p95 : ∀ mem field, ringP95 mem r field = ringP95 mem r' field
  score : ∀ mem state baseline probe cfg,
    scoreGpu mem r state baseline probe cfg = scoreGpu mem r' state baseline probe cfg

theorem FunctionsOfWindow.same {r r' : GpuRing K} {w : List (GpuSample K)} (h : FunctionsOfWindow r w)
    (h' : FunctionsOfWindow r' w) : SameResults r r' where
  mean := fun field => by rw [h.mean, h'.mean]
  stddev := fun field => by rw [h.stddev, h'.stddev]
  p95 := fun mem field => by rw [h.p95, h'.p95]
  score := fun mem state baseline probe cfg => by rw [h.score, h'.score]

/-- the readers and the results of the pushes `xs` onto an empty ring -/
theorem window_of_pushes {ring : GpuRing K} (h : EmptyRing ring) (hcap : ring.capacity ≤ 2 ^ 30)
    (xs : List (GpuSample K)) :
    ReadsWindow (xs.foldl ringPush ring) (xs.rtake ring.capacity.toNat) ∧
    FunctionsOfWindow (xs.foldl ringPush ring) (xs.rtake ring.capacity.toNat) := by
  have hbounded : Bounded (xs.foldl ringPush ring) := ⟨wf_pushAll h.wf xs, by rwa [pushAll_capacity]⟩
  rw [← window_pushAll h.wf h.count_zero xs]
  exact ⟨readsWindow_of_bounded hbounded, functionsOfWindow_of_bounded hbounded⟩

/-- **Ring buffer refinement.** -/
theorem readers_see_window (ring : GpuRing K) (h : EmptyRing ring) (hcap : ring.capacity ≤ 2 ^ 30)
    (xs : List (GpuSample K)) :
    ReadsWindow (xs.foldl ringPush ring) (xs.rtake ring.capacity.toNat) ∧
    FunctionsOfWindow (xs.foldl ringPush ring) (xs.rtake ring.capacity.toNat) ∧
    ∀ (ring' : GpuRing K) (xs' : List (GpuSample K)), EmptyRing ring' → ring'.capacity ≤ 2 ^ 30 →
      xs'.rtake ring'.capacity.toNat = xs.rtake ring.capacity.toNat →
      SameResults (xs'.foldl ringPush ring') (xs.foldl ringPush ring) := by
  obtain ⟨hreads, hresults⟩ := window_of_pushes h hcap xs
  refine ⟨hreads, hresults, ?_⟩
  intro ring' xs' h' hcap' hsame
  have hresults' := (window_of_pushes h' hcap' xs').2
  rw [hsame] at hresults'
  exact hresults'.same hresults

/-- a ring of calloc'ed memory -/
def callocRing (K : Type) [Zero K] (capacity : ℕ) : GpuRing K := ⟨List.replicate capacity .zeroed, 0, 0, capacity⟩

theorem callocRing_empty (capacity : ℕ) (h : 1 ≤ capacity) : EmptyRing (callocRing K capacity) :=
  ⟨by simpa [callocRing] using h, rfl, rfl, by simp [callocRing]⟩

/-- a sample taken at second `t` of a run, at temperature `c` -/
def sampleT (t : UInt64) (c : ℚ) : GpuSample ℚ := { GpuSample.zeroed with tempC := c, timestampMs := t * 1000 }

/-- a ring of two that has wrapped reads the same window, and has the same results, as a ring of three that has not -/
theorem readers_see_window_wrapped :
    ReadsWindow ([sampleT 0 50, sampleT 1 60, sampleT 2 70].foldl ringPush (callocRing ℚ 2))
      [sampleT 1 60, sampleT 2 70] ∧
    SameResults ([sampleT 1 60, sampleT 2 70].foldl ringPush (callocRing ℚ 3))
      ([sampleT 0 50, sampleT 1 60, sampleT 2 70].foldl ringPush (callocRing ℚ 2)) := by
  obtain ⟨hreads, -, hsame⟩ := readers_see_window (callocRing ℚ 2) (callocRing_empty 2 (by decide)) (by decide)
    [sampleT 0 50, sampleT 1 60, sampleT 2 70]
  exact ⟨hreads, hsame (callocRing ℚ 3) [sampleT 1 60, sampleT 2 70] (callocRing_empty 3 (by decide)) (by decide) rfl⟩

/-! ## Larger rings -/

omit [Arith K] in
/-- a ring that is not full has its samples in front -/
theorem pushAll_front {ring : GpuRing K} (h : EmptyRing ring) (xs : List (GpuSample K))
    (hlen : xs.length < ring.capacity) :
    (xs.foldl ringPush ring).head = xs.length ∧ (xs.foldl ringPush ring).count = xs.length := by
  induction xs using List.reverseRecOn with
  | nil => exact ⟨h.head_zero, h.count_zero⟩
  | append_singleton xs s ih =>
    rw [List.length_append, List.length_singleton] at hlen
    obtain ⟨hhead, hcount⟩ := ih (by omega)
    rw [List.foldl_append, List.foldl_cons, List.foldl_nil, List.length_append, List.length_singleton]
    simp only [ringPush, pushAll_capacity, hhead, hcount]
    refine ⟨?_, by rw [if_pos (by omega)]; push_cast; ring⟩
    rw [Int.tmod_eq_of_lt (by omega) (by omega)]
    push_cast
    ring

omit [Arith K] in
/-- in a larger ring with one free slot the newest sample has no index -/
theorem sampleIdx_overflow {ring : GpuRing K} (h : EmptyRing ring) (xs : List (GpuSample K))
    (hlen : xs.length + 1 = ring.capacity) (hcap : 2 ^ 30 < ring.capacity) (hint : ring.capacity < 2 ^ 31) :
    CheckedScorer.sampleIdx (xs.foldl ringPush ring) (xs.length - 1) = none := by
  obtain ⟨hhead, hcount⟩ := pushAll_front h xs (by omega)
  have h1 := Checked.int32_eq (x := (xs.length : ℤ) - xs.length) (by omega) (by omega)
  have h2 := Checked.int32_eq (x := (xs.length : ℤ) - xs.length + (xs.length - 1)) (by omega) (by omega)
  have h3 : Checked.int32 ((xs.length : ℤ) - xs.length + (xs.length - 1) + ring.capacity) = none :=
    if_neg (by omega)
  simp only [CheckedScorer.sampleIdx, hhead, hcount, pushAll_capacity, h1, h2, h3, Option.bind_eq_bind,
    Option.bind_some, Option.bind_none]

/-- more samples than `deltas` has steps for, in front of a gate that gets to its loop -/
theorem definedScore_long (served : Scorer.P95Malloc) {w : List (GpuSample K)} (hlong : 3601 < w.length)
    (state : GpuState K) (baseline : Option (GpuBaseline K)) (probe : Option (GpuProbeResult K))
    {cfg : GpuConfig (Dbl K)} (habs : cfg.int .minSamplesAbsolute ≤ w.length) {expected : ℤ}
    (hdiv : Checked.intDiv (cfg.int .windowS) (cfg.int .pollIntervalS) = some expected)
    (hratio : ¬ .fin (w.length : K) < cfg.dbl .minSampleRatio * .fin (expected : K)) :
    definedScore served w state baseline probe cfg = none := by
  unfold definedScore definedGate
  rw [if_neg (by omega), hdiv, Option.bind_some, if_neg hratio, if_neg (by omega), if_pos hlong, Option.bind_none]

/-- the pushes of `n` equal samples onto an empty ring of `capacity` -/
def equalPushes (n capacity : ℕ) : GpuRing ℚ := (List.replicate n GpuSample.zeroed).foldl ringPush (callocRing ℚ capacity)

theorem window_equalPushes {n : ℕ} (hn : 1 ≤ n) : window (equalPushes n n) = List.replicate n .zeroed := by
  have hempty := callocRing_empty (K := ℚ) n hn
  rw [equalPushes, window_pushAll hempty.wf hempty.count_zero, List.rtake, List.length_replicate]
  show List.drop (n - (n : ℤ).toNat) _ = _
  rw [Int.toNat_natCast, Nat.sub_self, List.drop_zero]

/-- **Both bounds are needed.** The last of 2^30 samples has no index in a ring of 2^30 + 1, and `score_gpu` no result
on 3602 samples. -/
theorem index_and_deltas_overflow :
    (equalPushes (2 ^ 30) (2 ^ 30 + 1)).count = 2 ^ 30 ∧
    CheckedScorer.sampleField (equalPushes (2 ^ 30) (2 ^ 30 + 1)) (2 ^ 30 - 1) GpuSample.tempC = none ∧
    scoreGpu zeroMemory (equalPushes 3602 3602) .zeroed none none (Config.smallConfig.toDbl : GpuConfig (Dbl ℚ)) =
      none := by
  have hempty := callocRing_empty (K := ℚ) (2 ^ 30 + 1) (by omega)
  have hlen : ((List.replicate (2 ^ 30) (GpuSample.zeroed : GpuSample ℚ)).length : ℤ) = 2 ^ 30 := by
    rw [List.length_replicate]
    rfl
  have hcapacity : (callocRing ℚ (2 ^ 30 + 1)).capacity = 2 ^ 30 + 1 := rfl
  refine ⟨?_, ?_, ?_⟩
  · exact (pushAll_front hempty _ (by omega)).2.trans hlen
  · have hindex := sampleIdx_overflow hempty (List.replicate (2 ^ 30) .zeroed) (by omega) (by omega)
      (by omega)
    rw [hlen] at hindex
    rw [CheckedScorer.sampleField, equalPushes, hindex]
    rfl
  · have hbounded : Bounded (equalPushes 3602 3602) := by
      refine ⟨wf_pushAll (callocRing_empty (K := ℚ) 3602 (by omega)).wf _, ?_⟩
      rw [equalPushes, pushAll_capacity]
      show (3602 : ℤ) ≤ 2 ^ 30
      omega
    rw [scoreGpu_window hbounded, window_equalPushes (by omega)]
    apply definedScore_long
    · rw [List.length_replicate]
      omega
    · rw [List.length_replicate]
      decide
    · rfl
    · rw [List.length_replicate]
      decide +kernel

end GpuHealth.WindowRefinement
