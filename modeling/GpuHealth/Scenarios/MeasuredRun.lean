/-
The measurement of the probe program, on a clock that never goes back.

- `measured`: for every window, whatever the clock reads and the power readings are: when the loop is left, the intervals
  that its passes have measured (`intervals`: from clock to clock, with the GEMMs and the reading between) lead from the
  start of the window without gaps, each longer than nothing (so no sample divides by zero) and each GEMM is counted
  once, in an interval or behind the last; the samples are those of the intervals with enough power, in order, each a
  positive number; there are no more than seconds in the window, and no more than the array holds, and none is dropped
  from a window of up to 4096 seconds; and their mean lies between the least and the greatest. Samples and mean are
  exact numbers: a double's sum and quotient are rounded, and the mean of equal samples may come out an ulp above all of
  them.
- `measured_files`: a run that exits with 0, whatever has happened to the files before, leaves a probe file of which the
  exporter reads this run, in every field (or nothing, when the disk did not take it whole), and with
  --establish-baseline a baseline that agrees with it (but for digits of the number of samples, when the disk did not
  take it whole). Any other exit, and a run without files, leaves the baseline as it was.
-/
import GpuHealth.Core.Tiling
import GpuHealth.Measurement
import GpuHealth.Core.ListStats
import GpuHealth.Scenarios.WholeFiles

namespace GpuHealth.MeasuredRun

open GpuHealth.FilePublication GpuHealth.FileWriters GpuHealth.Measurement GpuHealth.ProbeRoundTrip GpuHealth.Runs
open GpuHealth.State GpuHealth.Tiling GpuHealth.WholeFiles

/-! ## The clock -/

/-- the readings, in order; the third of a pass counts as its second where it is not taken -/
def readings (measStart : UInt64) (passes : List Pass) : List UInt64 :=
  measStart :: passes.flatMap fun p => [p.head, p.now, p.synced]

/-- it never goes back, and the end of the window is within its range -/
structure Clocked (measStart : UInt64) (durationS : ℤ) (passes : List Pass) : Prop where
  forward : (readings measStart passes).Pairwise (· ≤ ·)
  range : measStart.toNat + 1000 * durationS.toNat < 2 ^ 64

theorem readings_append (measStart : UInt64) (a b : List Pass) :
    readings measStart (a ++ b) = readings measStart a ++ b.flatMap fun p => [p.head, p.now, p.synced] := by
  rw [readings, readings, List.flatMap_append, List.cons_append]

/-- a reading and the three of a later pass -/
theorem forward_pass {measStart : UInt64} {a b : List Pass} {p : Pass}
    (h : (readings measStart (a ++ p :: b)).Pairwise (· ≤ ·)) :
    (∀ t ∈ readings measStart a, t ≤ p.head) ∧ p.head ≤ p.now ∧ p.now ≤ p.synced := by
  rw [readings_append, List.flatMap_cons, List.pairwise_append] at h
  obtain ⟨-, hpass, hcross⟩ := h
  refine ⟨fun t ht => hcross t ht p.head (by simp), ?_, ?_⟩
  · exact (List.pairwise_cons.1 hpass).1 p.now (by simp)
  · exact (List.pairwise_cons.1 (List.pairwise_cons.1 hpass).2).1 p.synced (by simp)

theorem measEnd_toNat {measStart : UInt64} {durationS : ℤ} (hpos : 0 ≤ durationS)
    (hrange : measStart.toNat + 1000 * durationS.toNat < 2 ^ 64) :
    (measEnd measStart durationS).toNat = measStart.toNat + 1000 * durationS.toNat := by
  obtain ⟨d, rfl⟩ := Int.eq_ofNat_of_zero_le hpos
  have hd : (UInt64.ofInt (d : ℤ)).toNat = d % 2 ^ 64 := by
    rw [UInt64.ofInt, UInt64.toNat_ofNat']
    omega
  rw [measEnd, UInt64.toNat_add, UInt64.toNat_mul, hd]
  simp only [Int.toNat_natCast] at hrange ⊢
  have h1000 : (1000 : UInt64).toNat = 1000 := rfl
  rw [h1000]
  omega

/-! ## The invariant of the loop -/

/-- where an interval begins and ends, in milliseconds -/
def startMs (i : Interval) : ℕ := i.start.toNat

def stopMs (i : Interval) : ℕ := i.stop.toNat

/-- the intervals that these passes measure -/
def intervals (n : ℤ) (measStart e : UInt64) (passes : List Pass) : List Interval :=
  outputs (pass n e) (ends e) (measStartVars measStart) passes

/-- the sample of an interval counts -/
def Powered (i : Interval) : Prop := minPowerW ≤ i.powerW

instance : DecidablePred Powered := fun i => inferInstanceAs (Decidable (minPowerW ≤ i.powerW))

/-- the samples of intervals -/
def samplesOf (n : ℤ) (is : List Interval) : List (Dbl ℚ) := (is.filter Powered).map (Interval.perfW n)

/-- the variables of the loop behind these passes -/
def varsAfter (n : ℤ) (measStart e : UInt64) (passes : List Pass) : Vars :=
  run (pass n e) (measStartVars measStart) passes

structure Inv (n : ℤ) (measStart e : UInt64) (passes : List Pass) : Prop where
  start_read : (varsAfter n measStart e passes).intervalStart ∈ readings measStart passes
  tiles : Tiles startMs stopMs measStart.toNat (intervals n measStart e passes)
    (varsAfter n measStart e passes).intervalStart.toNat
  spans : ∀ i ∈ intervals n measStart e passes,
    startMs i < e.toNat ∧ (startMs i + 1000 ≤ stopMs i ∨ e.toNat ≤ stopMs i)
  counted : ((intervals n measStart e passes).map Interval.iters).sum +
    (varsAfter n measStart e passes).intervalIters = passes.length
  iters : ∀ i ∈ intervals n measStart e passes, 0 < i.iters
  samples : (varsAfter n measStart e passes).perfWSamples =
    (samplesOf n (intervals n measStart e passes)).take maxSamples

variable {n : ℤ} {measStart e : UInt64} {passes : List Pass}

theorem inv_start : Inv n measStart e [] where
  start_read := List.mem_cons_self
  tiles := rfl
  spans := nofun
  counted := rfl
  iters := nofun
  samples := rfl

/-- one more sample, if there is room -/
theorem takeSample_take (is : List Interval) (i : Interval) :
    takeSample n ((samplesOf n is).take maxSamples) i = (samplesOf n (is ++ [i])).take maxSamples := by
  unfold takeSample samplesOf
  by_cases hpower : Powered i
  · have hone : [i].filter Powered = [i] := by simp [hpower]
    rw [List.filter_append, hone, List.map_append, List.map_singleton]
    set l := (is.filter Powered).map (Interval.perfW n)
    rw [List.length_take]
    by_cases hroom : l.length < maxSamples
    · rw [if_pos ⟨hpower, by omega⟩, List.take_of_length_le hroom.le, List.take_of_length_le]
      rw [List.length_append, List.length_singleton]
      omega
    · rw [if_neg fun h => by omega, List.take_append_of_le_length (not_lt.1 hroom)]
  · have hnone : [i].filter Powered = [] := by simp [hpower]
    rw [if_neg fun h => hpower h.1, List.filter_append, hnone, List.append_nil]

/-- a pass inside an interval -/
theorem inv_inside (h : Inv n measStart e passes) {p : Pass}
    (hends : ends e (varsAfter n measStart e passes) p = none) : Inv n measStart e (passes ++ [p]) := by
  have hsame : intervals n measStart e (passes ++ [p]) = intervals n measStart e passes := by
    rw [intervals, outputs_snoc]
    change _ ++ (ends e (varsAfter n measStart e passes) p).toList = _
    rw [hends, Option.toList_none, List.append_nil]
    rfl
  have hvars : varsAfter n measStart e (passes ++ [p]) = { varsAfter n measStart e passes with
      intervalIters := (varsAfter n measStart e passes).intervalIters + 1 } := by
    rw [varsAfter, run_snoc]
    change pass n e (varsAfter n measStart e passes) p = _
    rw [Measurement.pass, hends]
  refine ⟨?_, ?_, ?_, ?_, ?_, ?_⟩
  · rw [hvars, readings_append]
    exact List.mem_append_left _ h.start_read
  · rw [hvars, hsame]
    exact h.tiles
  · rw [hsame]
    exact h.spans
  · rw [hvars, hsame, List.length_append, List.length_singleton, ← h.counted]
    dsimp only
    omega
  · rw [hsame]
    exact h.iters
  · rw [hvars, hsame]
    exact h.samples

/-- a pass that ends an interval, inside the window and on a clock that goes forward -/
theorem inv_ends (h : Inv n measStart e passes) {p : Pass} (hhead : p.head < e)
    (hforward : (readings measStart (passes ++ [p])).Pairwise (· ≤ ·)) {i : Interval}
    (hends : ends e (varsAfter n measStart e passes) p = some i) : Inv n measStart e (passes ++ [p]) := by
  set v := varsAfter n measStart e passes with hv
  obtain ⟨hbefore, hnow, hsynced⟩ := forward_pass (b := []) hforward
  have hstart : v.intervalStart ≤ p.head := hbefore _ h.start_read
  have hle : v.intervalStart ≤ p.now := UInt64.le_trans hstart hnow
  have hone : intervals n measStart e (passes ++ [p]) = intervals n measStart e passes ++ [i] := by
    rw [intervals, outputs_snoc]
    change _ ++ (ends e v p).toList = _
    rw [hends, Option.toList_some]
    rfl
  have hvars : varsAfter n measStart e (passes ++ [p]) = ⟨takeSample n v.perfWSamples i, p.synced, 0⟩ := by
    rw [varsAfter, run_snoc]
    change pass n e v p = _
    rw [Measurement.pass, hends]
  unfold ends at hends
  split_ifs at hends with hcond
  obtain rfl := Option.some.inj hends
  simp only [ge_iff_le, UInt64.le_iff_toNat_le, UInt64.lt_iff_toNat_lt] at hcond hstart hnow hsynced hhead
  rw [UInt64.toNat_sub_of_le _ _ hle] at hcond
  have h1000 : (1000 : UInt64).toNat = 1000 := rfl
  rw [h1000] at hcond
  -- an interval ends a second after it began, or at the end of the window, which it began in front of
  have hspan : v.intervalStart.toNat < e.toNat ∧
      (v.intervalStart.toNat + 1000 ≤ p.synced.toNat ∨ e.toNat ≤ p.synced.toNat) := by omega
  have hwidth : v.intervalStart.toNat < p.synced.toNat := by omega
  refine ⟨?_, ?_, ?_, ?_, ?_, ?_⟩
  · rw [hvars, readings_append]
    exact List.mem_append_right _ (by simp)
  · rw [hvars, hone]
    exact tiles_snoc h.tiles rfl hwidth
  · rw [hone]
    exact List.forall_mem_append.2 ⟨h.spans, List.forall_mem_singleton.2 hspan⟩
  · have hcounted := h.counted
    rw [← hv] at hcounted
    rw [hvars, hone, List.map_append, List.sum_append, List.length_append, ← hcounted]
    simp only [List.map_singleton, List.sum_singleton, List.length_singleton]
    omega
  · rw [hone]
    exact List.forall_mem_append.2 ⟨h.iters, List.forall_mem_singleton.2 (Nat.succ_pos _)⟩
  · rw [hvars, hone]
    dsimp only
    rw [h.samples, takeSample_take]

theorem inv_run (hhead : ∀ p ∈ passes, p.head < e) (hforward : (readings measStart passes).Pairwise (· ≤ ·)) :
    Inv n measStart e passes := by
  induction passes using List.reverseRecOn with
  | nil => exact inv_start
  | append_singleton passes p ih =>
    obtain ⟨hrest, hp⟩ := List.forall_mem_append.1 hhead
    have hinv := ih hrest (by
      rw [readings_append, List.pairwise_append] at hforward
      exact hforward.1)
    cases hends : ends e (varsAfter n measStart e passes) p with
    | none => exact inv_inside hinv hends
    | some i => exact inv_ends hinv (hp p (List.mem_singleton_self p)) hforward hends

/-- the passes a loop that is left has made -/
theorem measureWindow_done {v v' : Vars} (h : measureWindow n e v passes = some v') : ∃ made last rest,
    passes = made ++ last :: rest ∧ (∀ p ∈ made, p.head < e) ∧ e ≤ last.head ∧ v' = run (pass n e) v made := by
  induction passes generalizing v with
  | nil => cases h
  | cons p passes ih =>
    rw [measureWindow] at h
    split_ifs at h with hhead
    · obtain ⟨made, last, rest, rfl, hmade, hlast, hrun⟩ := ih h
      exact ⟨p :: made, last, rest, rfl, List.forall_mem_cons.2 ⟨hhead, hmade⟩, hlast, hrun⟩
    · obtain rfl := Option.some.inj h
      exact ⟨[], p, passes, rfl, nofun, UInt64.not_lt.1 hhead, rfl⟩

/-! ## Samples -/

/-- an interval that is not empty, of at least one GEMM, and with enough power -/
theorem perfW_pos (hn : 0 < n) {i : Interval} (hiters : 0 < i.iters) (hle : i.start.toNat < i.stop.toNat)
    (hpower : Powered i) : ∃ x, i.perfW n = .fin x ∧ 0 < x := by
  have hsub : (i.stop - i.start).toNat = i.stop.toNat - i.start.toNat :=
    UInt64.toNat_sub_of_le _ _ (UInt64.le_iff_toNat_le.2 hle.le)
  have hms : (0 : ℚ) < ((i.stop - i.start).toNat : ℚ) := by
    rw [hsub]
    exact_mod_cast Nat.sub_pos_of_lt hle
  have hthousand : (1000 : ℚ) ≠ 0 := by norm_num
  have hpowerW : i.powerW = .fin ((i.powerMw.toNat : ℚ) / 1000) := Dbl.fin_div _ hthousand
  have hpositive : (0 : ℚ) < (i.powerMw.toNat : ℚ) / 1000 := by
    have hmin : (10 : ℚ) ≤ (i.powerMw.toNat : ℚ) / 1000 := by
      rw [Powered, hpowerW, minPowerW] at hpower
      exact (Dbl.fin_le_fin _ _).1 hpower
    linarith
  have helapsed : i.elapsedS = .fin (((i.stop - i.start).toNat : ℚ) / 1000) := Dbl.fin_div _ hthousand
  have hwidth : (0 : ℚ) < ((i.stop - i.start).toNat : ℚ) / 1000 := by positivity
  have hflops : i.tflops n = .fin (2 * n * n * n * i.iters / 10 ^ 12 / (((i.stop - i.start).toNat : ℚ) / 1000)) := by
    have htera : (10 ^ 12 : ℚ) ≠ 0 := by norm_num
    rw [Interval.tflops, flopsPerGemm, helapsed]
    simp only [Dbl.fin_mul]
    rw [Dbl.fin_div _ htera, Dbl.fin_div _ hwidth.ne']
  refine ⟨2 * n * n * n * i.iters / 10 ^ 12 / (((i.stop - i.start).toNat : ℚ) / 1000) /
    ((i.powerMw.toNat : ℚ) / 1000), ?_, ?_⟩
  · rw [Interval.perfW, hflops, hpowerW, Dbl.fin_div _ hpositive.ne']
  · have hnq : (0 : ℚ) < n := by exact_mod_cast hn
    have hiq : (0 : ℚ) < i.iters := by exact_mod_cast hiters
    positivity

/-- some number is not above the mean, and some not below -/
theorem mean_between {xs : List ℚ} (hne : xs ≠ []) :
    ∃ lo ∈ xs, ∃ hi ∈ xs, lo ≤ ListStats.mean xs ∧ ListStats.mean xs ≤ hi := by
  have hlen : (xs.length : ℚ) ≠ 0 := by exact_mod_cast (List.length_pos_iff.2 hne).ne'
  have hsum : (xs.map fun x => x).sum = (xs.map fun _ => ListStats.mean xs).sum := by
    rw [List.map_id', List.map_const', List.sum_replicate, nsmul_eq_mul, ListStats.mean, mul_div_cancel₀ _ hlen]
  obtain ⟨lo, hlo, hle⟩ := List.exists_le_of_sum_le hne _ _ hsum.le
  obtain ⟨hi, hhi, hge⟩ := List.exists_le_of_sum_le hne _ _ hsum.ge
  exact ⟨lo, hlo, hi, hhi, hle, hge⟩

/-- the loop over samples that are numbers -/
theorem perfWMean_fin (xs : List ℚ) (hne : xs ≠ []) : perfWMean (xs.map .fin) = .fin (ListStats.mean xs) := by
  have hlen : (xs.length : ℚ) ≠ 0 := by exact_mod_cast (List.length_pos_iff.2 hne).ne'
  have hsum : (xs.map Dbl.fin).foldl (· + ·) (.fin 0) = (.fin xs.sum : Dbl ℚ) := by
    rw [List.foldl_map]
    have h := ListStats.foldl_add_fin xs (fun x => x) (0 : ℚ)
    rw [List.map_id', zero_add] at h
    exact h
  rw [perfWMean, hsum, List.length_map]
  exact Dbl.fin_div _ hlen

/-! ## The window -/

/-- what the loop has measured in these passes -/
structure Measured (n : ℤ) (measStart : UInt64) (durationS : ℤ) (made : List Pass) (is : List Interval) (v : Vars) :
    Prop where
  tiles : Tiles startMs stopMs measStart.toNat is v.intervalStart.toNat
  widths : measStart.toNat + (is.map fun i => stopMs i - startMs i).sum = v.intervalStart.toNat
  counted : (is.map Interval.iters).sum + v.intervalIters = made.length
  count : is.length ≤ durationS.toNat
  samples : v.perfWSamples = (samplesOf n is).take maxSamples
  all : durationS ≤ maxSamples → v.perfWSamples = samplesOf n is
  positive : ∀ s ∈ v.perfWSamples, ∃ x, s = .fin x ∧ 0 < x
  mean : v.perfWSamples ≠ [] → ∃ lo m hi, .fin lo ∈ v.perfWSamples ∧ .fin hi ∈ v.perfWSamples ∧
    perfWMean v.perfWSamples = .fin m ∧ lo ≤ m ∧ m ≤ hi

/-- samples that are positive numbers -/
theorem positive_numbers {samples : List (Dbl ℚ)} (h : ∀ s ∈ samples, ∃ x, s = .fin x ∧ (0 : ℚ) < x) :
    ∃ xs : List ℚ, samples = xs.map .fin ∧ ∀ x ∈ xs, 0 < x := by
  induction samples with
  | nil => exact ⟨[], rfl, nofun⟩
  | cons s samples ih =>
    obtain ⟨⟨x, rfl, hx⟩, hrest⟩ := List.forall_mem_cons.1 h
    obtain ⟨xs, rfl, hxs⟩ := ih hrest
    exact ⟨x :: xs, rfl, List.forall_mem_cons.2 ⟨hx, hxs⟩⟩

theorem samplesOf_length_le (is : List Interval) : (samplesOf n is).length ≤ is.length := by
  rw [samplesOf, List.length_map]
  exact List.length_filter_le _ _

theorem measured_of_inv (hn : 0 < n) {durationS : ℤ} (hpos : 0 ≤ durationS)
    (hrange : measStart.toNat + 1000 * durationS.toNat < 2 ^ 64) {made : List Pass}
    (h : Inv n measStart (measEnd measStart durationS) made) :
    Measured n measStart durationS made (intervals n measStart (measEnd measStart durationS) made)
      (varsAfter n measStart (measEnd measStart durationS) made) := by
  have hend := measEnd_toNat hpos hrange
  set e := measEnd measStart durationS
  set is := intervals n measStart e made with his
  set v := varsAfter n measStart e made with hv
  have htiles : Tiles startMs stopMs measStart.toNat is v.intervalStart.toNat := h.tiles
  have hcount : is.length ≤ durationS.toNat := by
    by_cases hne : is = []
    · rw [hne]
      exact Nat.zero_le _
    · have hlt := tiles_count htiles hne h.spans
      rw [hend] at hlt
      omega
  have hsamples : v.perfWSamples = (samplesOf n is).take maxSamples := h.samples
  have hpositive : ∀ s ∈ v.perfWSamples, ∃ x, s = .fin x ∧ 0 < x := by
    intro s hs
    rw [hsamples] at hs
    obtain ⟨i, hi, rfl⟩ := List.mem_map.1 (List.mem_of_mem_take hs)
    obtain ⟨himem, hpower⟩ := List.mem_filter.1 hi
    exact perfW_pos hn (h.iters i himem) (tiles_width htiles i himem) (of_decide_eq_true hpower)
  refine ⟨htiles, tiles_sum htiles, h.counted, hcount, hsamples, fun hmax => ?_, hpositive, fun hne => ?_⟩
  · rw [hsamples, List.take_of_length_le]
    have hle := samplesOf_length_le (n := n) is
    omega
  · obtain ⟨xs, hxs, -⟩ := positive_numbers hpositive
    have hxne : xs ≠ [] := by
      rintro rfl
      exact hne hxs
    obtain ⟨lo, hlo, hi, hhi, hle, hge⟩ := mean_between hxne
    rw [hxs]
    exact ⟨lo, ListStats.mean xs, hi, List.mem_map_of_mem hlo, List.mem_map_of_mem hhi, perfWMean_fin xs hxne, hle, hge⟩

theorem window_measured (n : ℤ) (hn : 0 < n) (measStart : UInt64) (durationS : ℤ) (hpos : 0 ≤ durationS) (passes : List Pass)
    (hclock : Clocked measStart durationS passes) (v : Vars)
    (hdone : measureWindow n (measEnd measStart durationS) (measStartVars measStart) passes = some v) :
    ∃ made last rest, passes = made ++ last :: rest ∧ (∀ p ∈ made, p.head < measEnd measStart durationS) ∧
      measEnd measStart durationS ≤ last.head ∧
      Measured n measStart durationS made (intervals n measStart (measEnd measStart durationS) made) v := by
  obtain ⟨made, last, rest, hsplit, hmade, hlast, rfl⟩ := measureWindow_done hdone
  have hforward : (readings measStart made).Pairwise (· ≤ ·) := by
    have h := hclock.forward
    rw [hsplit, readings_append, List.pairwise_append] at h
    exact h.1
  exact ⟨made, last, rest, hsplit, hmade, hlast, measured_of_inv hn hpos hclock.range (inv_run hmade hforward)⟩

/-- **The measurement window.** -/
theorem measured (n : ℤ) (hn : 0 < n) (measStart : UInt64) (durationS : ℤ) (hpos : 0 ≤ durationS) (passes : List Pass)
    (hclock : Clocked measStart durationS passes) (v : Vars)
    (hdone : measureWindow n (measEnd measStart durationS) (measStartVars measStart) passes = some v) :
    ∃ made last rest, passes = made ++ last :: rest ∧ (∀ p ∈ made, p.head < measEnd measStart durationS) ∧
      measEnd measStart durationS ≤ last.head ∧
      Measured n measStart durationS made (intervals n measStart (measEnd measStart durationS) made) v :=
  window_measured n hn measStart durationS hpos passes hclock v hdone

/-- two seconds, with a reading of 300 W and one of 250 W -/
def samplePasses : List Pass :=
  [⟨5000, 5001, 5001, 0⟩, ⟨5001, 6002, 6010, 300000⟩, ⟨6010, 7005, 7020, 250000⟩, ⟨7020, 7020, 7020, 0⟩]

theorem measured_two : ∃ v made,
    measureWindow 8192 (measEnd 5000 2) (measStartVars 5000) samplePasses = some v ∧ v.perfWSamples.length = 2 ∧
      Measured 8192 5000 2 made (intervals 8192 5000 (measEnd 5000 2) made) v := by
  obtain ⟨v, hv⟩ : ∃ v, measureWindow 8192 (measEnd 5000 2) (measStartVars 5000) samplePasses = some v :=
    Option.isSome_iff_exists.1 (by decide +kernel)
  obtain ⟨made, last, rest, -, -, -, hmeasured⟩ :=
    measured 8192 (by decide) 5000 2 (by decide) samplePasses ⟨by decide, by decide⟩ v hv
  refine ⟨v, made, hv, ?_, hmeasured⟩
  have hlength : (measureWindow 8192 (measEnd 5000 2) (measStartVars 5000) samplePasses).map
      (fun v => v.perfWSamples.length) = some 2 := by decide +kernel
  rw [hv] at hlength
  exact Option.some.inj hlength

/-! ## The files -/

/-- the run that the files are of -/
structure RunIs (args : ProbeArgs) (time : ℕ) (measStart after : UInt64) (samples : List (Dbl ℚ)) (r : ProbeRun) :
    Prop where
  serial : r.serial = args.serial
  uuid : r.uuid = args.uuid
  driverVersion : r.driverVersion = args.driver
  time : r.time = time
  matrixN : (r.matrixN : ℤ) = args.matrixN
  sampleCount : r.sampleCount = samples.length
  durationS : actualDuration measStart after = .fin r.durationS
  window : (args.durationS : ℚ) ≤ r.durationS
  perfWMean : perfWMean samples = .fin r.perfWMean

/-- what the program is told, and the second of the time stamp -/
structure Told (args : ProbeArgs) (time : ℕ) : Prop where
  accepted : args.Accepted
  serial : Plain 31 args.serial
  uuid : Plain 47 args.uuid
  driver : Plain 63 args.driver
  time : 1 ≤ time ∧ time ≤ 253402300799

/-- the mean is a number that six decimals can write -/
def MeanInRange (samples : List (Dbl ℚ)) : Prop :=
  ∀ m, perfWMean samples = .fin m → 1 / 10 ^ 6 ≤ m ∧ m ≤ 10 ^ 9

variable {args : ProbeArgs} {time : ℕ} {after : UInt64} {v : Vars}

theorem exists_run (htold : Told args time) (hrange : measStart.toNat + 1000 * args.durationS.toNat < 2 ^ 64)
    {made : List Pass} {is : List Interval} (h : Measured args.matrixN measStart args.durationS made is v)
    (hafter : measEnd measStart args.durationS ≤ after) (hday : after.toNat ≤ measStart.toNat + 86400000)
    (hmean : MeanInRange v.perfWSamples) (hcount : minValidSamples ≤ v.perfWSamples.length) :
    ∃ r, RunIs args time measStart after v.perfWSamples r := by
  obtain ⟨hduration, hmin, hmax, -⟩ := htold.accepted
  have hend := measEnd_toNat (by omega) hrange
  rw [UInt64.le_iff_toNat_le, hend] at hafter
  have hsub : (after - measStart).toNat = after.toNat - measStart.toNat :=
    UInt64.toNat_sub_of_le _ _ (UInt64.le_iff_toNat_le.2 (by omega))
  have hactual : actualDuration measStart after = .fin (((after.toNat - measStart.toNat : ℕ) : ℚ) / 1000) := by
    rw [actualDuration, hsub]
    exact Dbl.fin_div _ (by norm_num)
  have hwide : args.durationS.toNat * 1000 ≤ after.toNat - measStart.toNat := by omega
  have hlong : after.toNat - measStart.toNat ≤ 86400 * 1000 := by omega
  generalize after.toNat - measStart.toNat = ms at hactual hwide hlong
  obtain ⟨lo, m, hi, -, -, hm, -, -⟩ := h.mean (by
    intro hnil
    rw [hnil] at hcount
    exact absurd hcount (by decide))
  have hlength : v.perfWSamples.length ≤ 4096 := by
    rw [h.samples]
    exact List.length_take_le _ _
  refine ⟨⟨args.serial, args.uuid, args.driver, time, args.matrixN.toNat, v.perfWSamples.length,
    (ms : ℚ) / 1000, m, htold.serial, htold.uuid, htold.driver, htold.time,
    by omega, ⟨hcount, hlength⟩, ⟨by positivity, ?_⟩, hmean m hm⟩, rfl, rfl, rfl, rfl, ?_, rfl, hactual, ?_, hm⟩
  · rw [div_le_iff₀ (by norm_num)]
    exact_mod_cast hlong
  · exact Int.toNat_of_nonneg (by omega)
  · rw [le_div_iff₀ (by norm_num)]
    have hnat : (args.durationS.toNat : ℤ) = args.durationS := Int.toNat_of_nonneg (by omega)
    have hcast : ((args.durationS.toNat : ℤ) : ℚ) = (args.durationS : ℚ) := congrArg _ hnat
    rw [← hcast]
    exact_mod_cast hwide

variable {R : Type} {r : ProbeRun} {samples : List (Dbl ℚ)} {probe baseline : FileAnswers}

/-- what the run hands to the writers are the files of that run -/
theorem finish_files (hr : RunIs args time measStart after samples r) (hcount : minValidSamples ≤ samples.length)
    (hdry : args.dryRun = false) :
    finish (R := R) args time (actualDuration measStart after) samples probe baseline =
      if (replaceFile (R := R) r.probeFile probe).2 ≠ 0 then (3, (replaceFile r.probeFile probe).1, [])
      else if args.establishBaseline then
        if (replaceFile (R := R) r.baselineFile baseline).2 ≠ 0 then
          (3, (replaceFile r.probeFile probe).1, (replaceFile r.baselineFile baseline).1)
        else (0, (replaceFile r.probeFile probe).1, (replaceFile r.baselineFile baseline).1)
      else (0, (replaceFile r.probeFile probe).1, []) := by
  have hworkload : ProbeWriter.workloadText args.matrixN = r.workload := by rw [ProbeRun.workload, hr.matrixN]
  have hprobe : ProbeWriter.writeProbeFile args.serial (Calendar.iso8601 time) (perfWMean samples)
      (actualDuration measStart after) samples.length (ProbeWriter.workloadText args.matrixN) = r.probeFile := by
    rw [hworkload, ProbeRun.probeFile, hr.serial, hr.time, hr.perfWMean, hr.durationS, hr.sampleCount]
  have hbaseline : ProbeWriter.writeBaselineFile args.serial args.uuid args.driver (Calendar.iso8601 time)
      (perfWMean samples) samples.length (ProbeWriter.workloadText args.matrixN) = r.baselineFile := by
    rw [hworkload, ProbeRun.baselineFile, hr.serial, hr.uuid, hr.driverVersion, hr.time, hr.perfWMean, hr.sampleCount]
  rw [finish, if_neg (not_lt.2 hcount)]
  simp only [writeProbeFile, writeBaselineFile, hprobe, hbaseline, hdry, Bool.false_eq_true, if_false]

variable {K : Type} [Arith K]

/-- the exporter reads the probe file of the run, if the disk took it -/
structure ProbeRead (K : Type) [Arith K] (r : ProbeRun) (accepted : ℕ) (got : CStr) (ttl : ℤ) (now : UInt64) :
    Prop where
  part : (probeLoad (some got) ttl now : GpuProbeResult K).available = 0 ∨
    ProbeAgrees r (probeLoad (some got) ttl now : GpuProbeResult K)
  whole : r.probeFile.length ≤ accepted → ProbeAgrees r (probeLoad (some got) ttl now : GpuProbeResult K)

/-- and the baseline -/
structure BaselineRead (K : Type) [Arith K] (r : ProbeRun) (accepted : ℕ) (got : CStr) : Prop where
  part : (baselineLoad (some got) r.serial : GpuBaseline K).valid = 1 →
    ∃ j, BaselineAgreesUpToCount r j (baselineLoad (some got) r.serial : GpuBaseline K)
  whole : r.baselineFile.length ≤ accepted → BaselineAgrees r (baselineLoad (some got) r.serial : GpuBaseline K)

theorem probeRead_take (r : ProbeRun) (accepted : ℕ) (ttl : ℤ) (now : UInt64) :
    ProbeRead K r accepted (r.probeFile.take accepted) ttl now where
  part := probe_part r accepted ttl now
  whole := fun hlen => by
    rw [List.take_of_length_le hlen]
    exact probe_agrees r ttl now

theorem baselineRead_take (r : ProbeRun) (accepted : ℕ) : BaselineRead K r accepted (r.baselineFile.take accepted) where
  part := fun hvalid => (baseline_part r accepted hvalid).2
  whole := fun hlen => by
    rw [List.take_of_length_le hlen]
    exact baseline_agrees r

/-- a run without enough samples, or without files -/
theorem finish_none (time : ℕ) (duration : Dbl ℚ)
    (h : samples.length < minValidSamples ∨ args.dryRun = true) :
    (finish (R := R) args time duration samples probe baseline).2 = ([], []) := by
  by_cases hfew : samples.length < minValidSamples
  · rw [finish, if_pos hfew]
  · rw [finish, if_neg hfew]
    dsimp only
    rw [if_pos (h.resolve_left hfew)]

/-- an exit with 0 is one with enough samples -/
theorem finish_zero (time : ℕ) (duration : Dbl ℚ)
    (h : (finish (R := R) args time duration samples probe baseline).1 = 0) : minValidSamples ≤ samples.length := by
  by_contra hfew
  rw [finish, if_pos (not_le.1 hfew)] at h
  exact absurd h (show (1 : ℤ) ≠ 0 by decide)

/-- **A whole run of the probe program.** -/
theorem measured_files [DecidableEq R] (args : ProbeArgs) (time : ℕ) (htold : Told args time) (measStart after : UInt64)
    (passes : List Pass) (hclock : Clocked measStart args.durationS passes) (v : Vars)
    (hdone : measureWindow args.matrixN (measEnd measStart args.durationS) (measStartVars measStart) passes = some v)
    (hafter : ∀ p ∈ passes, p.head ≤ after) (hday : after.toNat ≤ measStart.toNat + 86400000)
    (hmean : MeanInRange v.perfWSamples) (stateDir baselineDir : CStr) (old old' : Option CStr)
    (ops ops' : List (Op Char R))
    (hidle : (run (step (probeTarget stateDir args.serial).path (probeTarget stateDir args.serial).tmp)
      (start (probeTarget stateDir args.serial).path old : State CStr Char R) ops).writer = .idle)
    (hidle' : (run (step (baselineTarget baselineDir args.serial).path (baselineTarget baselineDir args.serial).tmp)
      (start (baselineTarget baselineDir args.serial).path old' : State CStr Char R) ops').writer = .idle)
    (probe baseline : FileAnswers) (ttl : ℤ) (now : UInt64) :
    let t := probeTarget stateDir args.serial
    let t' := baselineTarget baselineDir args.serial
    let s := run (step t.path t.tmp) (start t.path old : State CStr Char R) ops
    let s' := run (step t'.path t'.tmp) (start t'.path old' : State CStr Char R) ops'
    let res := finish args time (actualDuration measStart after) v.perfWSamples probe baseline
    (res.1 = 0 → args.dryRun = false → ∃ r, RunIs args time measStart after v.perfWSamples r ∧
      (∃ got, content (run (step t.path t.tmp) s res.2.1) t.path = some got ∧
        ProbeRead K r probe.accepted got ttl now) ∧
      (args.establishBaseline = true → ∃ got, content (run (step t'.path t'.tmp) s' res.2.2) t'.path = some got ∧
        BaselineRead K r baseline.accepted got)) ∧
    (res.1 ≠ 0 ∨ args.dryRun = true ∨ args.establishBaseline = false →
      content (run (step t'.path t'.tmp) s' res.2.2) t'.path = content s' t'.path) ∧
    (v.perfWSamples.length < minValidSamples ∨ args.dryRun = true → res.2.1 = []) := by
  intro t t' s s' res
  have hn : 0 < args.matrixN := lt_of_lt_of_le (by decide) htold.accepted.2.1
  have hpos : 0 ≤ args.durationS := le_trans (by decide) htold.accepted.1
  obtain ⟨made, last, rest, hsplit, -, hlast, hmeasured⟩ :=
    window_measured args.matrixN hn measStart args.durationS hpos passes hclock v hdone
  have hend : measEnd measStart args.durationS ≤ after :=
    UInt64.le_trans hlast (hafter last (by rw [hsplit]; simp))
  have hinv := FilePublication.run_inv (R := R) t.ne old ops
  have hinv' := FilePublication.run_inv (R := R) t'.ne old' ops'
  by_cases hnone : v.perfWSamples.length < minValidSamples ∨ args.dryRun = true
  · have hcalls : res.2 = ([], []) := finish_none time _ hnone
    refine ⟨fun hzero hdry => ?_, fun _ => ?_, fun _ => congrArg Prod.fst hcalls⟩
    · have hfew := hnone.resolve_right (by rw [hdry]; decide)
      exact absurd (finish_zero time _ hzero) (not_le.2 hfew)
    · rw [hcalls]
      rfl
  · obtain ⟨hfew, hdry⟩ := not_or.1 hnone
    have hdry : args.dryRun = false := Bool.eq_false_iff.2 hdry
    obtain ⟨r, hr⟩ := exists_run htold hclock.range hmeasured hend hday hmean (not_lt.1 hfew)
    have hres : res = _ := finish_files hr (not_lt.1 hfew) hdry
    obtain ⟨-, -, hput, -⟩ := replaceFile_spec t hinv hidle r.probeFile probe
    obtain ⟨-, -, hput', hkept'⟩ := replaceFile_spec t' hinv' hidle' r.baselineFile baseline
    have hread := probeRead_take (K := K) r probe.accepted ttl now
    have hread' := baselineRead_take (K := K) r baseline.accepted
    by_cases hprobe : (replaceFile (R := R) r.probeFile probe).2 = 0
    · by_cases hbaseline : args.establishBaseline = true
      · by_cases hwrite : (replaceFile (R := R) r.baselineFile baseline).2 = 0
        · rw [if_neg (not_not.2 hprobe), if_pos hbaseline, if_neg (not_not.2 hwrite)] at hres
          rw [hres]
          refine ⟨fun _ _ => ⟨r, hr, ⟨_, hput hprobe, hread⟩, fun _ => ⟨_, hput' hwrite, hread'⟩⟩, ?_,
            fun h => absurd h hnone⟩
          rintro (hcode | hdry' | hplain)
          · exact absurd rfl hcode
          · exact absurd (hdry.symm.trans hdry') (by decide)
          · exact absurd (hplain.symm.trans hbaseline) (by decide)
        · rw [if_neg (not_not.2 hprobe), if_pos hbaseline, if_pos hwrite] at hres
          rw [hres]
          exact ⟨fun hzero => absurd hzero (show (3 : ℤ) ≠ 0 by decide), fun _ => hkept' hwrite, fun h => absurd h hnone⟩
      · rw [if_neg (not_not.2 hprobe), if_neg hbaseline] at hres
        rw [hres]
        exact ⟨fun _ _ => ⟨r, hr, ⟨_, hput hprobe, hread⟩, fun h => absurd h hbaseline⟩, fun _ => rfl,
          fun h => absurd h hnone⟩
    · rw [if_pos hprobe] at hres
      rw [hres]
      exact ⟨fun hzero => absurd hzero (show (3 : ℤ) ≠ 0 by decide), fun _ => rfl, fun h => absurd h hnone⟩

/-- ten seconds, a pass each, with --establish-baseline -/
def sampleArgs : ProbeArgs := ⟨8192, 10, false, true, ['7'], [], []⟩

def samplePass (start : UInt64) : Pass := ⟨start, start + 1000, start + 1000, 300000⟩

def sampleWindow : List Pass :=
  [5000, 6000, 7000, 8000, 9000, 10000, 11000, 12000, 13000, 14000, 15000].map samplePass

def samplePerfW : ℚ := 1099511627776 / (10 ^ 12 * 300)

def sampleVars : Vars := ⟨List.replicate 10 (.fin samplePerfW), 15000, 0⟩

theorem sampleArgs_told : Told sampleArgs 1773584520 where
  accepted := by decide
  serial := ⟨by decide, by decide, by decide, by decide⟩
  uuid := ⟨by decide, by decide, by decide, by decide⟩
  driver := ⟨by decide, by decide, by decide, by decide⟩
  time := by decide

theorem sampleVars_mean : MeanInRange sampleVars.perfWSamples := by
  have hmean : perfWMean sampleVars.perfWSamples = .fin samplePerfW := by decide +kernel
  intro m hm
  rw [hmean] at hm
  obtain rfl := Dbl.fin.inj hm
  norm_num [samplePerfW]

theorem measured_files_sample :
    ∃ r, RunIs sampleArgs 1773584520 5000 15020 sampleVars.perfWSamples r ∧
      (∃ got, content (run (step (probeTarget [] ['7']).path (probeTarget [] ['7']).tmp)
        (start (probeTarget [] ['7']).path none : State CStr Char Unit)
        (finish sampleArgs 1773584520 (actualDuration 5000 15020) sampleVars.perfWSamples ⟨true, 1000, true, true⟩
          ⟨true, 1000, true, true⟩).2.1) (probeTarget [] ['7']).path = some got ∧ ProbeRead ℚ r 1000 got 86400 0) := by
  have hdone : measureWindow sampleArgs.matrixN (measEnd 5000 sampleArgs.durationS) (measStartVars 5000) sampleWindow =
      some sampleVars := by decide +kernel
  obtain ⟨hfiles, -, -⟩ := measured_files (K := ℚ) sampleArgs 1773584520 sampleArgs_told 5000 15020 sampleWindow
    ⟨by decide, by decide⟩ sampleVars hdone (by decide) (by decide) sampleVars_mean [] [] none none
    ([] : List (Op Char Unit)) [] rfl rfl ⟨true, 1000, true, true⟩ ⟨true, 1000, true, true⟩ 86400 0
  obtain ⟨r, hr, hprobe, -⟩ := hfiles rfl rfl
  exact ⟨r, hr, hprobe⟩

end GpuHealth.MeasuredRun
