/-
The documented penalty table, and that `score_gpu` conforms to it.

A row of the table is a condition, a penalty and a reason bit (`PenaltyRow`). `penaltyTable` is the table of the
README: the tiers of one group exclude each other (a bad or severe tier replaces the lower ones), the clock row is
scaled and capped, the power row is scaled by the saturated fraction, a PCIe row needs both link values known, a perf/W
row needs a usable baseline and a usable probe result (`usableDrop`). Its inputs are the window statistics the result
reports, the state, and the drop.

- `score_conforms`: for every config in range that `config_validate` accepts, every well-formed ring, state, baseline
  and probe: behind a failed gate the score is 0, the class N/A and the reason mask exactly TELEMETRY_INCOMPLETE;
  behind a passed one the score is max(0, 100 - S), S the sum of the penalties of the rows that hold, the class is the
  documented one of that score, and the reason mask has the bits of exactly these rows, and PROBE_STALE if the probe
  result is stale.
Witness `score_conforms_hot`: a window of four samples at 95 degrees.

Row conditions compare doubles, so a NaN statistic (`ring_p95` without memory) makes none of its rows hold.
-/
import GpuHealth.WindowScore
import GpuHealth.Config

namespace GpuHealth.PenaltyTable

open GpuHealth.Ring GpuHealth.Scorer GpuHealth.WindowScore GpuHealth.Config

variable {K : Type} [Arith K]

/-! ## The table -/

structure PenaltyRow (K : Type) where
  holds : Bool
  penalty : K
  reason : UInt32

def thermalRows (p95 : Dbl K) (warn bad : K) (warnBit badBit : UInt32) : List (PenaltyRow K) := [
  ⟨.fin bad < p95, 25, badBit⟩,
  ⟨.fin warn < p95 ∧ ¬ .fin bad < p95, 10, warnBit⟩]

def clockRow (std : Dbl K) (warn : K) : PenaltyRow K :=
  ⟨.fin warn < std, min 15 (15 * (std.toK - warn) / warn), Reason.clkStdHigh⟩

def powerRow (frac : Dbl K) (max : K) : PenaltyRow K := ⟨.fin 0 < frac, max * frac.toK, Reason.powerSaturation⟩

def eccRows (c : GpuConfig K) (sbeRate : Dbl K) (dbeInWindow : ℤ) : List (PenaltyRow K) := [
  ⟨.fin (c.dbl .eccSbeRateWarnPerHour) < sbeRate, c.dbl .eccSbePenalty, Reason.eccSbeHigh⟩,
  ⟨dbeInWindow = 1, c.dbl .eccDbePenalty, Reason.eccDbeActive⟩]

def retiredRows (c : GpuConfig K) (dbe : ℕ) : List (PenaltyRow K) := [
  ⟨c.int .retiredPagesBad ≤ dbe, c.dbl .retiredPagesPenBad, Reason.retiredPagesBad⟩,
  ⟨c.int .retiredPagesWarn ≤ dbe ∧ dbe < c.int .retiredPagesBad, c.dbl .retiredPagesPenWarn, Reason.retiredPagesWarn⟩]

/-- current and maximum are both known, and the current value is the lower one -/
def pcieRow (cur max : ℤ) (penalty : K) (bit : UInt32) : PenaltyRow K := ⟨0 < cur ∧ 0 < max ∧ cur < max, penalty, bit⟩

def stateRows (c : GpuConfig K) (state : GpuState K) : List (PenaltyRow K) :=
  retiredRows c state.retiredPagesDbe.toNat ++ [
    ⟨0 < state.rowRemapFailures.toNat, c.dbl .rowRemapFailurePenalty, Reason.rowRemap⟩,
    pcieRow state.pcieLinkGen state.pcieLinkGenMax (c.dbl .pcieLinkDegradedPenalty) Reason.pcieGen,
    pcieRow state.pcieLinkWidth state.pcieLinkWidthMax (c.dbl .pcieWidthDegradedPenalty) Reason.pcieWidth]

/-- the relative perf/W drop, 0 for an improvement; none unless the baseline is available, valid and positive and the
probe result available, not stale and positive -/
def usableDrop (baseline : Option (GpuBaseline K)) (probe : Option (GpuProbeResult K)) : Option K :=
  match baseline, probe with
  | some b, some p =>
    match b.perfWMean, p.perfWMean with
    | .fin x, .fin y =>
      if b.available ≠ 0 ∧ b.valid ≠ 0 ∧ 0 < x ∧ p.available ≠ 0 ∧ p.stale = 0 ∧ 0 < y then some (max 0 ((x - y) / x))
      else none
    | _, _ => none
  | _, _ => none

def perfRows (c : GpuConfig K) (drop : Option K) : List (PenaltyRow K) :=
  match drop with
  | none => []
  | some d => [
      ⟨c.dbl .perfDropSevere < d, c.dbl .perfDropPenSevere, Reason.perfDropSevere⟩,
      ⟨c.dbl .perfDropBad < d ∧ d ≤ c.dbl .perfDropSevere, c.dbl .perfDropPenBad, Reason.perfDropBad⟩,
      ⟨c.dbl .perfDropWarn < d ∧ d ≤ c.dbl .perfDropBad, c.dbl .perfDropPenWarn, Reason.perfDropWarn⟩]

/-- the table, on the statistics `out` reports -/
def penaltyTable (c : GpuConfig K) (out : GpuScoreResult K) (state : GpuState K) (drop : Option K) :
    List (PenaltyRow K) :=
  thermalRows out.tempP95C (c.dbl .tempP95WarnC) (c.dbl .tempP95BadC) Reason.tempWarn Reason.tempBad ++
  thermalRows out.hbmTempP95C (c.dbl .hbmTempP95WarnC) (c.dbl .hbmTempP95BadC) Reason.hbmTempWarn Reason.hbmTempBad ++
  [clockRow out.clkStdMhz (c.dbl .clkStdWarnMhz), powerRow out.powerSaturationFrac (c.dbl .powerPenaltyMax)] ++
  eccRows c out.eccSbeRatePerHour out.eccDbeInWindow ++
  stateRows c state ++
  perfRows c drop

/-- S: the penalties of the rows that hold -/
def penaltySum (rows : List (PenaltyRow K)) : K := ((rows.filter (·.holds)).map (·.penalty)).sum

/-- the reason bits of the rows that hold -/
def reasonBits (rows : List (PenaltyRow K)) : UInt32 := ((rows.filter (·.holds)).map (·.reason)).foldl (· ||| ·) 0

def classOf (score : K) : GpuClass :=
  if 85 ≤ score then .healthy
  else if 70 ≤ score then .monitor
  else if 50 ≤ score then .degrading
  else .decommission

/-- the bit of a stale probe result -/
def staleBit (probe : Option (GpuProbeResult K)) : UInt32 :=
  match probe with
  | some p => if p.stale ≠ 0 then Reason.probeStale else 0
  | none => 0

/-! ## A block of the code is the fold of its rows -/

def applyRow (a : Acc K) (r : PenaltyRow K) : Acc K := if r.holds then a.penalise (.fin r.penalty) r.reason else a

theorem foldl_applyRow (rows : List (PenaltyRow K)) (x : K) (bits : UInt32) :
    rows.foldl applyRow ⟨.fin x, bits⟩ =
      ⟨.fin (x - penaltySum rows), ((rows.filter (·.holds)).map (·.reason)).foldl (· ||| ·) bits⟩ := by
  induction rows generalizing x bits with
  | nil => simp [penaltySum]
  | cons r rows ih =>
    by_cases hr : r.holds = true
    · simp only [List.foldl_cons, applyRow, if_pos hr, Acc.penalise, Dbl.fin_sub, ih, penaltySum,
        List.filter_cons_of_pos hr, List.map_cons, List.sum_cons, sub_sub]
    · simp only [List.foldl_cons, applyRow, if_neg hr, ih, penaltySum, List.filter_cons_of_neg hr]

theorem penaltySum_append (rows rows' : List (PenaltyRow K)) :
    penaltySum (rows ++ rows') = penaltySum rows + penaltySum rows' := by
  simp [penaltySum]

theorem penaltySum_cons (r : PenaltyRow K) (rows : List (PenaltyRow K)) :
    penaltySum (r :: rows) = (if r.holds then r.penalty else 0) + penaltySum rows := by
  by_cases hr : r.holds = true
  · simp [penaltySum, hr]
  · simp [penaltySum, hr]

@[simp] theorem penaltySum_nil : penaltySum ([] : List (PenaltyRow K)) = 0 := rfl

theorem thermalTier_rows (p95 : Dbl K) (warn bad : K) (warnBit badBit : UInt32) (a : Acc K) :
    thermalTier p95 (.fin warn) (.fin bad) warnBit badBit a =
      (thermalRows p95 warn bad warnBit badBit).foldl applyRow a := by
  simp only [thermalTier, thermalRows, List.foldl_cons, List.foldl_nil, applyRow, decide_eq_true_eq]
  by_cases hnan : p95.isnan = false
  · rw [if_pos hnan]
    by_cases hb : .fin bad < p95 <;> by_cases hw : .fin warn < p95 <;> simp [hb, hw]
  · rw [if_neg hnan]
    cases p95 <;> simp_all [Dbl.isnan]

theorem clockBlock_rows {st : WindowStats K} {c : GpuConfig K} (hstd : st.clkStdMhz = .nan ∨ st.clkStdMhz.IsFin)
    (hwarn : 0 < c.dbl .clkStdWarnMhz) (a : Acc K) :
    clockBlock st c.toDbl a = applyRow a (clockRow st.clkStdMhz (c.dbl .clkStdWarnMhz)) := by
  simp only [clockBlock, applyRow, clockRow, GpuConfig.toDbl_dbl, decide_eq_true_eq]
  rcases hstd with hnan | ⟨s, hs⟩
  · simp [hnan]
  · simp only [hs, Dbl.isnan_fin, Dbl.fin_lt_fin, true_and, Dbl.fin_sub, Dbl.fin_mul, Dbl.toK_fin,
      Dbl.fin_div _ hwarn.ne']
    split_ifs with h1 h2
    · rw [min_eq_left h2.le]
    · rw [min_eq_right (not_lt.1 h2)]
    · rfl

theorem powerBlock_rows {st : WindowStats K} {c : GpuConfig K} {f : K} (hf : st.powerSaturationFrac = .fin f)
    (hf1 : f ≤ 1) (hmax : 0 ≤ c.dbl .powerPenaltyMax) (a : Acc K) :
    powerBlock st c.toDbl a = applyRow a (powerRow st.powerSaturationFrac (c.dbl .powerPenaltyMax)) := by
  have hcap : ¬ c.dbl .powerPenaltyMax < c.dbl .powerPenaltyMax * f := not_lt.2 (mul_le_of_le_one_right hmax hf1)
  simp only [powerBlock, applyRow, powerRow, GpuConfig.toDbl_dbl, decide_eq_true_eq, hf, Dbl.fin_lt_fin, Dbl.fin_mul,
    Dbl.toK_fin, if_neg hcap]

theorem eccBlocks_rows {st : WindowStats K} (c : GpuConfig K) (hdbe : st.eccDbeInWindow = 0 ∨ st.eccDbeInWindow = 1)
    (a : Acc K) :
    eccDbeBlock st c.toDbl (eccSbeBlock st c.toDbl a) =
      (eccRows c st.eccSbeRatePerHour st.eccDbeInWindow).foldl applyRow a := by
  simp only [eccSbeBlock, eccDbeBlock, eccRows, List.foldl_cons, List.foldl_nil, applyRow, GpuConfig.toDbl_dbl,
    decide_eq_true_eq]
  by_cases hs : .fin (c.dbl .eccSbeRateWarnPerHour) < st.eccSbeRatePerHour <;> rcases hdbe with h | h <;> simp [hs, h]

/-- `(uint32_t)n` for a threshold in range -/
theorem toNat_ofInt {n : ℤ} (h0 : 0 ≤ n) (h1 : n ≤ 10000) : (UInt32.ofInt n).toNat = n.toNat := by
  show ((n % 2 ^ 32).toNat) % 2 ^ 32 = n.toNat
  omega

/-- `retired_pages_dbe >= (uint32_t)n` for a threshold in range -/
theorem ge_ofInt_iff (u : UInt32) {n : ℤ} (h0 : 0 ≤ n) (h1 : n ≤ 10000) :
    u ≥ UInt32.ofInt n ↔ n ≤ (u.toNat : ℤ) := by
  rw [ge_iff_le, UInt32.le_iff_toNat_le, toNat_ofInt h0 h1]
  omega

theorem retiredBlock_rows {c : GpuConfig K} (hc : InRange c) (state : GpuState K) (a : Acc K) :
    retiredBlock state c.toDbl a = (retiredRows c state.retiredPagesDbe.toNat).foldl applyRow a := by
  have hwarn := hc.int .retiredPagesWarn 0 10000 (by decide +kernel)
  have hbad := hc.int .retiredPagesBad 0 10000 (by decide +kernel)
  simp only [retiredBlock, retiredRows, List.foldl_cons, List.foldl_nil, applyRow, GpuConfig.toDbl_dbl,
    GpuConfig.toDbl_int, decide_eq_true_eq, ge_ofInt_iff _ hwarn.1 hwarn.2, ge_ofInt_iff _ hbad.1 hbad.2]
  by_cases hb : c.int .retiredPagesBad ≤ (state.retiredPagesDbe.toNat : ℤ)
  · simp [hb, not_lt.2 hb]
  · simp [hb, not_le.1 hb]

theorem stateBlocks_rows {c : GpuConfig K} (hc : InRange c) (state : GpuState K) (a : Acc K) :
    pcieWidthBlock state c.toDbl (pcieGenBlock state c.toDbl (rowRemapBlock state c.toDbl
      (retiredBlock state c.toDbl a))) = (stateRows c state).foldl applyRow a := by
  have hremap : state.rowRemapFailures > 0 ↔ 0 < state.rowRemapFailures.toNat := by
    rw [gt_iff_lt, UInt32.lt_iff_toNat_lt]; rfl
  rw [retiredBlock_rows hc, stateRows, List.foldl_append]
  simp only [rowRemapBlock, pcieGenBlock, pcieWidthBlock, pcieDegraded, pcieRow, List.foldl_cons, List.foldl_nil,
    applyRow, GpuConfig.toDbl_dbl, decide_eq_true_eq, hremap, gt_iff_lt]

/-- a drop that exceeds no threshold costs nothing -/
theorem perfBlock_below {c : GpuConfig K} {d : Dbl K} (a : Acc K) (hwarn : ¬ .fin (c.dbl .perfDropWarn) < d)
    (hbad : ¬ .fin (c.dbl .perfDropBad) < d) (hsevere : ¬ .fin (c.dbl .perfDropSevere) < d) :
    perfBlock (some d) c.toDbl a = a := by
  simp only [perfBlock, GpuConfig.toDbl_dbl, hwarn, hbad, hsevere, if_false]

theorem perfBlock_tiers {c : GpuConfig K} (hsevere : c.dbl .perfDropBad < c.dbl .perfDropSevere) (d : K) (a : Acc K) :
    perfBlock (some (.fin d)) c.toDbl a = (perfRows c (some d)).foldl applyRow a := by
  simp only [perfBlock, perfRows, List.foldl_cons, List.foldl_nil, applyRow, GpuConfig.toDbl_dbl, Dbl.fin_lt_fin,
    decide_eq_true_eq]
  by_cases h1 : c.dbl .perfDropSevere < d
  · simp [h1, not_le.2 h1, not_le.2 (hsevere.trans h1)]
  · by_cases h2 : c.dbl .perfDropBad < d
    · simp [h1, h2, not_lt.1 h1, not_le.2 h2]
    · simp [h1, h2, not_lt.1 h2]

/-- `drop` of the code from two finite means is `usableDrop`'s -/
theorem perfDrop_fin {b : GpuBaseline K} {p : GpuProbeResult K} {x y : K} (hb : b.perfWMean = .fin x)
    (hp : p.perfWMean = .fin y) : perfDrop (some b) (some p) = (usableDrop (some b) (some p)).map .fin := by
  simp only [perfDrop, usableDrop, hb, hp, Dbl.fin_lt_fin, Dbl.fin_sub]
  split_ifs with hg hneg
  · rw [Dbl.fin_div _ hg.2.2.1.ne', Dbl.fin_lt_fin] at hneg
    rw [Option.map_some, max_eq_left hneg.le]
  · rw [Dbl.fin_div _ hg.2.2.1.ne', Dbl.fin_lt_fin, not_lt] at hneg
    rw [Dbl.fin_div _ hg.2.2.1.ne', Option.map_some, max_eq_right hneg]
  · rfl

/-- an infinite probe result counts as no drop -/
theorem perfDrop_probe_pinf {b : GpuBaseline K} {p : GpuProbeResult K} {x : K} (hb : b.perfWMean = .fin x)
    (hp : p.perfWMean = .pinf) : perfDrop (some b) (some p) = none ∨ perfDrop (some b) (some p) = some (.fin 0) := by
  simp only [perfDrop, hb, hp, Dbl.fin_lt_fin]
  split_ifs with hg hneg
  · exact Or.inr rfl
  · have hninf : ((.fin x - .pinf) / .fin x : Dbl K) = .ninf := if_neg (not_lt.2 hg.2.2.1.le)
    rw [hninf] at hneg
    exact absurd (Dbl.ninf_lt_fin 0) hneg
  · exact Or.inl rfl

/-- an infinite baseline gives no drop, or NaN -/
theorem perfDrop_baseline_pinf {b : GpuBaseline K} {p : GpuProbeResult K} (hb : b.perfWMean = .pinf) :
    perfDrop (some b) (some p) = none ∨ perfDrop (some b) (some p) = some .nan := by
  have hdiv : ∀ y : Dbl K, .fin 0 < y → ((.pinf - y) / .pinf : Dbl K) = .nan := by
    intro y hy
    cases y with
    | nan => rfl
    | ninf => exact absurd hy (Dbl.not_lt_ninf _)
    | fin y => rfl
    | pinf => rfl
  simp only [perfDrop, hb]
  split_ifs with hg hneg
  · rw [hdiv _ hg.2.2.2.2.2] at hneg
    exact absurd hneg (Dbl.not_nan_lt _)
  · exact Or.inr (by rw [hdiv _ hg.2.2.2.2.2])
  · exact Or.inl rfl

theorem perfBlock_rows {c : GpuConfig K} (h0 : 0 ≤ c.dbl .perfDropWarn)
    (hbad : c.dbl .perfDropWarn < c.dbl .perfDropBad) (hsevere : c.dbl .perfDropBad < c.dbl .perfDropSevere)
    (baseline : Option (GpuBaseline K)) (probe : Option (GpuProbeResult K)) (a : Acc K) :
    perfBlock (perfDrop baseline probe) c.toDbl a = (perfRows c (usableDrop baseline probe)).foldl applyRow a := by
  cases baseline with
  | none => rfl
  | some b =>
    cases probe with
    | none => rfl
    | some p =>
      cases hb : b.perfWMean with
      | nan | ninf => simp [perfDrop, usableDrop, hb, perfBlock, perfRows]
      | fin x =>
        cases hp : p.perfWMean with
        | nan | ninf => simp [perfDrop, usableDrop, hb, hp, perfBlock, perfRows]
        | fin y =>
          rw [perfDrop_fin hb hp]
          cases usableDrop (some b) (some p) with
          | none => rfl
          | some d => exact perfBlock_tiers hsevere d a
        | pinf =>
          have husable : usableDrop (some b) (some p) = none := by simp [usableDrop, hb, hp]
          rw [husable]
          rcases perfDrop_probe_pinf hb hp with h | h <;> rw [h]
          · rfl
          · refine perfBlock_below a ?_ ?_ ?_ <;> simp only [Dbl.fin_lt_fin, not_lt] <;> linarith
      | pinf =>
        have husable : usableDrop (some b) (some p) = none := by simp [usableDrop, hb]
        rw [husable]
        rcases perfDrop_baseline_pinf (p := p) hb with h | h <;> rw [h]
        · rfl
        · exact perfBlock_below a (Dbl.not_lt_nan _) (Dbl.not_lt_nan _) (Dbl.not_lt_nan _)

/-! ## Conformance -/

/-- the statistics of a gated window are finite, the clock deviation up to NaN -/
structure TableStats (st : WindowStats K) : Prop where
  std : st.clkStdMhz = .nan ∨ st.clkStdMhz.IsFin
  frac : ∃ f, st.powerSaturationFrac = .fin f ∧ f ≤ 1
  dbe : st.eccDbeInWindow = 0 ∨ st.eccDbeInWindow = 1

theorem windowStats_table {w : List (GpuSample K)} (h2 : 2 ≤ w.length) (malloc : P95Malloc) (cfg : GpuConfig (Dbl K)) :
    TableStats (windowStats malloc w cfg) where
  std := by
    simp only [windowStats, windowStddev]
    split_ifs
    · exact Or.inl rfl
    · exact Or.inr ⟨_, rfl⟩
  frac := by
    have hlen : (0 : K) < w.length := by exact_mod_cast (by omega : 0 < w.length)
    refine ⟨_, Dbl.fin_div _ hlen.ne', ?_⟩
    rw [div_le_one hlen]
    exact_mod_cast List.countP_le_length
  dbe := by
    simp only [windowStats, dbeActive]
    split_ifs <;> simp

/-- what `config_validate` and the ranges say about the thresholds the table needs ordered -/
structure Ordered (c : GpuConfig K) : Prop where
  warn_nonneg : 0 ≤ c.dbl .perfDropWarn
  severe : c.dbl .perfDropBad < c.dbl .perfDropSevere
  bad : c.dbl .perfDropWarn < c.dbl .perfDropBad
  clock_pos : 0 < c.dbl .clkStdWarnMhz
  power_nonneg : 0 ≤ c.dbl .powerPenaltyMax

/-- the bounds the clock row and the power row rest on -/
theorem clock_power_bounds {c : GpuConfig K} (hc : InRange c) :
    0 < c.dbl .clkStdWarnMhz ∧ 0 ≤ c.dbl .powerPenaltyMax := by
  have hclk := hc.dbl .clkStdWarnMhz 1 1000 (by decide +kernel)
  have hpower := hc.dbl .powerPenaltyMax 0 100 (by decide +kernel)
  push_cast at hclk hpower
  exact ⟨zero_lt_one.trans_le hclk.1, hpower.1⟩

theorem ordered_of_accepted {c : GpuConfig K} (hc : InRange c) (hv : configValidate c.toDbl = 0) : Ordered c := by
  have hwarn := hc.dbl .perfDropWarn 0 1 (by decide +kernel)
  obtain ⟨hclk, hpower⟩ := clock_power_bounds hc
  simp only [configValidate, GpuConfig.toDbl_dbl, Dbl.fin_le_fin] at hv
  split_ifs at hv with _ _ hbad hsevere
  push_cast at hwarn
  exact ⟨hwarn.1, not_le.1 hsevere, not_le.1 hbad, hclk, hpower⟩

/-- all blocks but the perf/W one are their rows, in range -/
theorem penalties_rows {c : GpuConfig K} (hc : InRange c) {st : WindowStats K} (hst : TableStats st)
    (state : GpuState K) (baseline : Option (GpuBaseline K)) (probe : Option (GpuProbeResult K)) :
    penalties st state baseline probe c.toDbl =
      staleBlock probe (perfBlock (perfDrop baseline probe) c.toDbl
        ((penaltyTable c (scoreStats st state baseline probe c.toDbl) state none).foldl applyRow ⟨.fin 100, 0⟩)) := by
  obtain ⟨f, hf, hf1⟩ := hst.frac
  obtain ⟨hclk, hpower⟩ := clock_power_bounds hc
  simp only [penaltyTable, perfRows, List.append_nil, List.foldl_append, List.foldl_cons, List.foldl_nil]
  rw [← stateBlocks_rows hc]
  simp only [scoreStats]
  rw [← eccBlocks_rows c hst.dbe, ← powerBlock_rows hf hf1 hpower, ← clockBlock_rows hst.std hclk,
    ← thermalTier_rows, ← thermalTier_rows]
  rfl

/-- the perf/W rows come last -/
theorem penaltyTable_perf (c : GpuConfig K) (out : GpuScoreResult K) (state : GpuState K) (drop : Option K) :
    penaltyTable c out state drop = penaltyTable c out state none ++ perfRows c drop := by
  simp [penaltyTable, perfRows]

theorem penalties_table {c : GpuConfig K} (hc : InRange c) (ho : Ordered c) {st : WindowStats K} (hst : TableStats st)
    (state : GpuState K) (baseline : Option (GpuBaseline K)) (probe : Option (GpuProbeResult K)) :
    penalties st state baseline probe c.toDbl =
      staleBlock probe ((penaltyTable c (scoreStats st state baseline probe c.toDbl) state
        (usableDrop baseline probe)).foldl applyRow ⟨.fin 100, 0⟩) := by
  rw [penalties_rows hc hst, perfBlock_rows ho.warn_nonneg ho.bad ho.severe, ← List.foldl_append,
    ← penaltyTable_perf]

omit [Arith K] in
theorem staleBlock_eq (probe : Option (GpuProbeResult K)) (a : Acc K) :
    staleBlock probe a = ⟨a.score, a.reasons ||| staleBit probe⟩ := by
  cases probe with
  | none => simp [staleBlock, staleBit]
  | some p => by_cases hs : p.stale = 0 <;> simp [staleBlock, staleBit, hs]

/-- the clamp at 0 -/
theorem scoreStats_score {st : WindowStats K} {state : GpuState K} {baseline : Option (GpuBaseline K)}
    {probe : Option (GpuProbeResult K)} {cfg : GpuConfig (Dbl K)} {x : K}
    (h : (penalties st state baseline probe cfg).score = .fin x) :
    (scoreStats st state baseline probe cfg).score = .fin (max 0 x) := by
  simp only [scoreStats, h, Dbl.fin_lt_fin]
  split_ifs with h0
  · rw [max_eq_left h0.le]
  · rw [max_eq_right (not_lt.1 h0)]

/-- behind a passed gate `score_gpu` scores the statistics of the window -/
theorem scoreGpu_passed {ring : GpuRing K} (hring : RingWf ring) {cfg : GpuConfig (Dbl K)}
    (hgate : windowGate (window ring) cfg ≠ 0) (malloc : P95Malloc) (state : GpuState K)
    (baseline : Option (GpuBaseline K)) (probe : Option (GpuProbeResult K)) :
    scoreGpu malloc ring state baseline probe cfg =
      scoreStats (windowStats malloc (window ring) cfg) state baseline probe cfg := by
  rw [scoreGpu_eq hring, scoreWindow, if_neg hgate]

theorem classify_fin (x : K) : classify (.fin x) = classOf x := by
  simp only [classify, classOf, Dbl.fin_le_fin]

/-- **Conformance to the penalty table.** -/
theorem score_conforms (c : GpuConfig K) (hc : InRange c) (hv : configValidate c.toDbl = 0) (malloc : P95Malloc)
    (ring : GpuRing K) (hring : RingWf ring) (state : GpuState K) (baseline : Option (GpuBaseline K))
    (probe : Option (GpuProbeResult K)) :
    let out := scoreGpu malloc ring state baseline probe c.toDbl
    let rows := penaltyTable c out state (usableDrop baseline probe)
    (completenessGate ring c.toDbl = 0 →
      out.score = .fin 0 ∧ out.classification = .na ∧ out.reasonMask = Reason.telemetryIncomplete) ∧
    (completenessGate ring c.toDbl = 1 →
      out.score = .fin (max 0 (100 - penaltySum rows)) ∧
      out.classification = classOf (max 0 (100 - penaltySum rows)) ∧
      out.reasonMask = reasonBits rows ||| staleBit probe) := by
  intro out rows
  constructor
  · intro hgate
    simp only [out, scoreGpu, if_pos hgate, gateFailed, and_self]
  · intro hgate
    have hpass : windowGate (window ring) c.toDbl ≠ 0 := by
      rw [← completenessGate_eq hring, hgate]
      exact one_ne_zero
    have hout : out = scoreStats (windowStats malloc (window ring) c.toDbl) state baseline probe c.toDbl :=
      scoreGpu_passed hring hpass malloc state baseline probe
    have hst := windowStats_table (two_le_of_gate hpass) malloc c.toDbl
    have hpen := penalties_table hc (ordered_of_accepted hc hv) hst state baseline probe
    rw [← hout, foldl_applyRow, staleBlock_eq] at hpen
    have hscore : out.score = .fin (max 0 (100 - penaltySum rows)) := by
      rw [hout]
      exact scoreStats_score (by rw [hpen])
    have hclass : out.classification = classify out.score := by rw [hout]; rfl
    refine ⟨hscore, ?_, ?_⟩
    · rw [hclass, hscore, classify_fin]
    · rw [hout, scoreStats, hpen]; rfl

/-- four samples at 95 degrees, 15 s apart -/
def hotRing : GpuRing ℚ :=
  ⟨[0, 15, 30, 45].map fun t => { GpuSample.zeroed with tempC := 95, timestampMs := t * 1000 }, 0, 4, 4⟩

/-- the defaults with a window of four samples -/
def hotConfig : GpuConfig ℚ where
  int := Function.update (Function.update (Function.update defaultInt .windowS 60) .pollIntervalS 15)
    .minSamplesAbsolute 4
  dbl := Function.update defaultDbl .maxMedianStepS 30
  str := defaultStr

theorem hotRing_wf : RingWf hotRing := ⟨by decide, by decide, by decide, by decide, by decide⟩

/-- the hot window pays the bad tier and nothing else -/
theorem score_conforms_hot :
    (scoreGpu ⟨true, true⟩ hotRing .zeroed none none hotConfig.toDbl).score = .fin 75 ∧
    (scoreGpu ⟨true, true⟩ hotRing .zeroed none none hotConfig.toDbl).reasonMask = Reason.tempBad := by
  obtain ⟨hscore, -, hmask⟩ := (score_conforms hotConfig (by decide +kernel) (by decide +kernel) ⟨true, true⟩ hotRing
    hotRing_wf .zeroed none none).2 (by decide +kernel)
  exact ⟨hscore.trans (by decide +kernel), hmask.trans (by decide +kernel)⟩

end GpuHealth.PenaltyTable
