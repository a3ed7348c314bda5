/-
More permanent damage never scores better, when the penalties are ordered as their thresholds are.

The property (`NeverBetter`): two inputs to `score_gpu` that differ only in damage (`MoreDamage`: retired pages,
row remap failures, a slower probe result) never score better for the more damaged one. The tiers of a group replace
each other, and `config_validate` orders their thresholds but not their penalties.

- `more_pages_score_better`: with a warn penalty of 100 and a bad penalty of 0 the tenth retired page lifts the score
  from 0 to 100.
- `never_better_iff`: an accepted config never scores damage better exactly when its penalties are ordered
  (`PenaltiesOrdered`). A tier that no input reaches is left out of the order, and so is one that leaves no points.
Witness `never_better_small`.

Scores, penalties and the condition are exact numbers: in doubles a penalty can be lost in the rounding of the score, so
that two sums that differ here may come out equal.

The only-if direction scores an idle window, whose clock deviation is `sqrt(0)`: it needs that to be 0, as in C.
-/
import GpuHealth.ScoreOrder
import GpuHealth.Scenarios.ConfigRange

namespace GpuHealth.DamageMonotone

open GpuHealth.Ring GpuHealth.Scorer GpuHealth.WindowScore GpuHealth.Config GpuHealth.PenaltyTable GpuHealth.ScoreOrder

variable {K : Type} [Arith K]

/-! ## The property -/

/-- the same probe result, or one with a positive perf/W mean that is no larger -/
inductive NoFaster : Option (GpuProbeResult K) → Option (GpuProbeResult K) → Prop
  | same (probe : Option (GpuProbeResult K)) : NoFaster probe probe
  | slower (probe : GpuProbeResult K) (mean : Dbl K) (hpos : .fin 0 < mean) (hle : mean ≤ probe.perfWMean) :
      NoFaster (some probe) (some { probe with perfWMean := mean })

/-- at least the damage, and nothing else different -/
structure MoreDamage (state state' : GpuState K) (probe probe' : Option (GpuProbeResult K)) : Prop where
  pages : state.retiredPagesDbe ≤ state'.retiredPagesDbe
  remaps : state.rowRemapFailures ≤ state'.rowRemapFailures
  rest : state' =
    { state with retiredPagesDbe := state'.retiredPagesDbe, rowRemapFailures := state'.rowRemapFailures }
  probe : NoFaster probe probe'

def NeverBetter (cfg : GpuConfig (Dbl K)) : Prop :=
  ∀ (malloc : P95Malloc) (ring : GpuRing K) (state state' : GpuState K) (baseline : Option (GpuBaseline K))
    (probe probe' : Option (GpuProbeResult K)), RingWf ring → MoreDamage state state' probe probe' →
    NoBetter (scoreGpu malloc ring state' baseline probe' cfg) (scoreGpu malloc ring state baseline probe cfg)

/-! ## The condition -/

/-- the penalty of no retired pages at all: nonzero when a threshold is 0 -/
def floorPenalty (cfg : GpuConfig (Dbl K)) : Dbl K :=
  if cfg.int .retiredPagesBad ≤ 0 then cfg.dbl .retiredPagesPenBad
  else if cfg.int .retiredPagesWarn ≤ 0 then cfg.dbl .retiredPagesPenWarn
  else .fin 0

/-- the higher tier costs at least as much as the lower one, or leaves no points -/
def TierOrdered (cfg : GpuConfig (Dbl K)) (low high : DblKey) : Prop :=
  cfg.dbl low ≤ cfg.dbl high ∨ .fin 100 ≤ floorPenalty cfg + cfg.dbl high

structure PenaltiesOrdered (cfg : GpuConfig (Dbl K)) : Prop where
  pages : cfg.int .retiredPagesWarn < cfg.int .retiredPagesBad →
    cfg.dbl .retiredPagesPenWarn ≤ cfg.dbl .retiredPagesPenBad
  perfBad : TierOrdered cfg .perfDropPenWarn .perfDropPenBad
  /-- a drop stays below 1, so the severe tier can be out of reach -/
  perfSevere : cfg.dbl .perfDropSevere < .fin 1 → TierOrdered cfg .perfDropPenBad .perfDropPenSevere

/-! ## Costs -/

/-- the penalties of tiers, all within 0 and 100 -/
theorem penalty_range {c : GpuConfig K} (hc : InRange c) {k : DblKey}
    (hk : k ∈ [DblKey.eccSbePenalty, .eccDbePenalty, .retiredPagesPenWarn, .retiredPagesPenBad,
      .rowRemapFailurePenalty, .pcieLinkDegradedPenalty, .pcieWidthDegradedPenalty, .perfDropPenWarn,
      .perfDropPenBad, .perfDropPenSevere]) : 0 ≤ c.dbl k ∧ c.dbl k ≤ 100 := by
  have hrow : ∀ k ∈ [DblKey.eccSbePenalty, .eccDbePenalty, .retiredPagesPenWarn, .retiredPagesPenBad,
      .rowRemapFailurePenalty, .pcieLinkDegradedPenalty, .pcieWidthDegradedPenalty, .perfDropPenWarn,
      .perfDropPenBad, .perfDropPenSevere], .dbl k 0 100 ∈ cfgTable.map (·.field) := by
    decide +kernel
  have hrange := hc.dbl k 0 100 (hrow k hk)
  push_cast at hrange
  exact hrange

/-- the cost of `n` retired pages -/
def pagesCost (c : GpuConfig K) (n : ℤ) : K :=
  if c.int .retiredPagesBad ≤ n then c.dbl .retiredPagesPenBad
  else if c.int .retiredPagesWarn ≤ n then c.dbl .retiredPagesPenWarn
  else 0

def perfCost (c : GpuConfig K) (d : K) : K :=
  if c.dbl .perfDropSevere < d then c.dbl .perfDropPenSevere
  else if c.dbl .perfDropBad < d then c.dbl .perfDropPenBad
  else if c.dbl .perfDropWarn < d then c.dbl .perfDropPenWarn
  else 0

theorem penaltySum_pages (c : GpuConfig K) (n : ℕ) : penaltySum (retiredRows c n) = pagesCost c n := by
  simp only [retiredRows, penaltySum_cons, penaltySum_nil, pagesCost, decide_eq_true_eq]
  by_cases hbad : c.int .retiredPagesBad ≤ (n : ℤ)
  · simp [hbad, not_lt.2 hbad]
  · simp [hbad, not_le.1 hbad]

theorem penaltySum_perf {c : GpuConfig K} (ho : Ordered c) (d : K) :
    penaltySum (perfRows c (some d)) = perfCost c d := by
  have hbad := ho.bad
  have hsevere := ho.severe
  simp only [perfRows, penaltySum_cons, penaltySum_nil, perfCost, decide_eq_true_eq]
  by_cases h1 : c.dbl .perfDropSevere < d
  · simp [h1, not_le.2 h1, not_le.2 (hsevere.trans h1)]
  by_cases h2 : c.dbl .perfDropBad < d
  · simp [h1, h2, not_lt.1 h1, not_le.2 h2]
  · simp [h1, h2, not_lt.1 h2]

theorem floorPenalty_eq (c : GpuConfig K) : floorPenalty c.toDbl = .fin (pagesCost c 0) := by
  by_cases hbad : c.int .retiredPagesBad ≤ 0
  · simp [floorPenalty, pagesCost, hbad]
  by_cases hwarn : c.int .retiredPagesWarn ≤ 0
  · simp [floorPenalty, pagesCost, hbad, hwarn]
  · simp [floorPenalty, pagesCost, hbad, hwarn]

/-! ## Costs of more damage -/

/-- more retired pages cost no less -/
theorem pagesCost_mono {c : GpuConfig K} (hc : InRange c)
    (h : c.int .retiredPagesWarn < c.int .retiredPagesBad → c.dbl .retiredPagesPenWarn ≤ c.dbl .retiredPagesPenBad)
    {n n' : ℤ} (hn : n ≤ n') : pagesCost c n ≤ pagesCost c n' := by
  have hwarn := penalty_range hc (k := .retiredPagesPenWarn) (by decide)
  have hbad := penalty_range hc (k := .retiredPagesPenBad) (by decide)
  unfold pagesCost
  by_cases h1 : c.int .retiredPagesBad ≤ n
  · rw [if_pos h1, if_pos (h1.trans hn)]
  rw [if_neg h1]
  by_cases h2 : c.int .retiredPagesWarn ≤ n
  · rw [if_pos h2, if_pos (h2.trans hn)]
    split_ifs with h3
    · exact h (h2.trans_lt (not_le.1 h1))
    · exact le_rfl
  · rw [if_neg h2]
    split_ifs
    · exact hbad.1
    · exact hwarn.1
    · exact le_rfl

/-- `TierOrdered`, in `K` -/
theorem tierOrdered_toDbl {c : GpuConfig K} {low high : DblKey} :
    TierOrdered c.toDbl low high ↔ c.dbl low ≤ c.dbl high ∨ 100 ≤ pagesCost c 0 + c.dbl high := by
  simp only [TierOrdered, floorPenalty_eq, GpuConfig.toDbl_dbl, Dbl.fin_add, Dbl.fin_le_fin]

/-- a larger drop costs no less, or leaves no points -/
theorem perfCost_mono {c : GpuConfig K} (hc : InRange c) (hpen : PenaltiesOrdered c.toDbl) {d d' : K}
    (hd : d ≤ d') (h1 : d' < 1) : perfCost c d ≤ perfCost c d' ∨ 100 ≤ pagesCost c 0 + perfCost c d' := by
  have hpw := (penalty_range hc (k := .perfDropPenWarn) (by decide)).1
  have hpb := (penalty_range hc (k := .perfDropPenBad) (by decide)).1
  have hps := (penalty_range hc (k := .perfDropPenSevere) (by decide)).1
  have hbad := tierOrdered_toDbl.1 hpen.perfBad
  unfold perfCost
  by_cases hs' : c.dbl .perfDropSevere < d'
  · have hsevere := tierOrdered_toDbl.1 (hpen.perfSevere ((Dbl.fin_lt_fin _ _).2 (hs'.trans h1)))
    rw [if_pos hs']
    rcases hsevere with hle | hfull
    · rcases hbad with hle' | hfull'
      · refine Or.inl ?_
        split_ifs <;> linarith
      · exact Or.inr (by linarith)
    · exact Or.inr hfull
  · have hs : ¬ c.dbl .perfDropSevere < d := fun hlt => hs' (hlt.trans_le hd)
    rw [if_neg hs', if_neg hs]
    by_cases hb' : c.dbl .perfDropBad < d'
    · rw [if_pos hb']
      rcases hbad with hle | hfull
      · refine Or.inl ?_
        split_ifs <;> linarith
      · exact Or.inr hfull
    · have hb : ¬ c.dbl .perfDropBad < d := fun hlt => hb' (hlt.trans_le hd)
      rw [if_neg hb', if_neg hb]
      refine Or.inl ?_
      by_cases hw : c.dbl .perfDropWarn < d
      · rw [if_pos hw, if_pos (hw.trans_le hd)]
      · rw [if_neg hw]
        split_ifs <;> linarith

/-- the drop of a slower probe: the same, or none before, or no smaller -/
theorem usableDrop_noFaster {probe probe' : Option (GpuProbeResult K)} (h : NoFaster probe probe')
    (baseline : Option (GpuBaseline K)) :
    usableDrop baseline probe' = usableDrop baseline probe ∨ usableDrop baseline probe = none ∨
      ∃ d d', usableDrop baseline probe = some d ∧ usableDrop baseline probe' = some d' ∧ d ≤ d' ∧ d' < 1 := by
  cases h with
  | same => exact Or.inl rfl
  | slower p mean hpos hle =>
    refine Or.inr ?_
    cases baseline with
    | none => exact Or.inl rfl
    | some b =>
      cases hb : b.perfWMean with
      | nan | ninf | pinf => exact Or.inl (by simp [usableDrop, hb])
      | fin x =>
        cases hp : p.perfWMean with
        | nan | ninf | pinf => exact Or.inl (by simp [usableDrop, hb, hp])
        | fin y =>
          rw [hp] at hle
          obtain ⟨z, rfl⟩ : ∃ z, mean = .fin z := by
            cases mean with
            | nan => exact absurd hpos (Dbl.not_lt_nan _)
            | ninf => exact absurd hpos (Dbl.not_lt_ninf _)
            | fin z => exact ⟨z, rfl⟩
            | pinf => exact absurd hle (Dbl.not_pinf_le_fin y)
          rw [Dbl.fin_lt_fin] at hpos
          rw [Dbl.fin_le_fin] at hle
          by_cases hflags : b.available ≠ 0 ∧ b.valid ≠ 0 ∧ 0 < x ∧ p.available ≠ 0 ∧ p.stale = 0 ∧ 0 < y
          · have hx : 0 < x := hflags.2.2.1
            refine Or.inr ⟨max 0 ((x - y) / x), max 0 ((x - z) / x), ?_, ?_, ?_, ?_⟩
            · simp [usableDrop, hb, hp, hflags]
            · obtain ⟨h1, h2, h3, h4, h5, -⟩ := hflags
              simp [usableDrop, hb, h1, h2, h3, h4, h5, hpos]
            · apply max_le_max le_rfl
              apply div_le_div_of_nonneg_right _ hx.le
              linarith
            · apply max_lt one_pos
              rw [div_lt_one hx]
              linarith
          · exact Or.inl (by simp only [usableDrop, hb, hp, if_neg hflags])

/-- what the perf/W rows of a slower probe cost -/
theorem perfRows_noFaster {c : GpuConfig K} (hc : InRange c) (ho : Ordered c) (hpen : PenaltiesOrdered c.toDbl)
    {probe probe' : Option (GpuProbeResult K)} (h : NoFaster probe probe') (baseline : Option (GpuBaseline K)) :
    penaltySum (perfRows c (usableDrop baseline probe)) ≤ penaltySum (perfRows c (usableDrop baseline probe')) ∨
      100 ≤ pagesCost c 0 + penaltySum (perfRows c (usableDrop baseline probe')) := by
  rcases usableDrop_noFaster h baseline with hsame | hnone | ⟨d, d', hd, hd', hle, h1⟩
  · rw [hsame]
    exact Or.inl le_rfl
  · rw [hnone]
    refine Or.inl ?_
    cases usableDrop baseline probe' with
    | none => exact le_rfl
    | some d =>
      rw [penaltySum_perf ho]
      have hpw := (penalty_range hc (k := .perfDropPenWarn) (by decide)).1
      have hpb := (penalty_range hc (k := .perfDropPenBad) (by decide)).1
      have hps := (penalty_range hc (k := .perfDropPenSevere) (by decide)).1
      show 0 ≤ perfCost c d
      unfold perfCost
      split_ifs <;> first | assumption | exact le_rfl
  · rw [hd, hd', penaltySum_perf ho, penaltySum_perf ho]
    exact perfCost_mono hc hpen hle h1

/-! ## Ordered penalties suffice -/

/-- the rows that more damage does not touch -/
def otherRows (c : GpuConfig K) (st : WindowStats K) (state : GpuState K) : List (PenaltyRow K) :=
  thermalRows st.tempP95C (c.dbl .tempP95WarnC) (c.dbl .tempP95BadC) Reason.tempWarn Reason.tempBad ++
  thermalRows st.hbmTempP95C (c.dbl .hbmTempP95WarnC) (c.dbl .hbmTempP95BadC) Reason.hbmTempWarn Reason.hbmTempBad ++
  [clockRow st.clkStdMhz (c.dbl .clkStdWarnMhz), powerRow st.powerSaturationFrac (c.dbl .powerPenaltyMax)] ++
  eccRows c st.eccSbeRatePerHour st.eccDbeInWindow ++
  [pcieRow state.pcieLinkGen state.pcieLinkGenMax (c.dbl .pcieLinkDegradedPenalty) Reason.pcieGen,
    pcieRow state.pcieLinkWidth state.pcieLinkWidthMax (c.dbl .pcieWidthDegradedPenalty) Reason.pcieWidth]

def remapCost (c : GpuConfig K) (failures : ℕ) : K := if 0 < failures then c.dbl .rowRemapFailurePenalty else 0

/-- the table's sum: pages, remaps, perf/W, and the rest -/
theorem penaltySum_table (c : GpuConfig K) (st : WindowStats K) (state : GpuState K)
    (baseline : Option (GpuBaseline K)) (probe : Option (GpuProbeResult K)) (drop : Option K) :
    penaltySum (penaltyTable c (scoreStats st state baseline probe c.toDbl) state drop) =
      penaltySum (otherRows c st state) + pagesCost c state.retiredPagesDbe.toNat +
        remapCost c state.rowRemapFailures.toNat + penaltySum (perfRows c drop) := by
  rw [← penaltySum_pages]
  simp only [penaltyTable, stateRows, otherRows, penaltySum_append, penaltySum_cons, penaltySum_nil, remapCost,
    decide_eq_true_eq, scoreStats]
  ring

/-- the penalties of rows that hold are no gain -/
theorem penaltySum_nonneg {rows : List (PenaltyRow K)} (h : ∀ r ∈ rows, r.holds = true → 0 ≤ r.penalty) :
    0 ≤ penaltySum rows := by
  apply List.sum_nonneg
  intro x hx
  obtain ⟨r, hr, rfl⟩ := List.mem_map.1 hx
  obtain ⟨hmem, hholds⟩ := List.mem_filter.1 hr
  exact h r hmem hholds

theorem otherRows_nonneg {c : GpuConfig K} (hc : InRange c) {st : WindowStats K} (hst : TableStats st)
    (state : GpuState K) : 0 ≤ penaltySum (otherRows c st state) := by
  obtain ⟨f, hf, -⟩ := hst.frac
  obtain ⟨hclk, hpower⟩ := clock_power_bounds hc
  apply penaltySum_nonneg
  intro r hr hholds
  simp only [otherRows, thermalRows, eccRows, List.mem_append, List.mem_cons, List.not_mem_nil, or_false,
    or_assoc] at hr
  rcases hr with rfl | rfl | rfl | rfl | rfl | rfl | rfl | rfl | rfl | rfl
  -- the thermal tiers
  · norm_num
  · norm_num
  · norm_num
  · norm_num
  · -- the clock row holds for a deviation above the threshold only
    rcases hst.std with hnan | ⟨x, hx⟩
    · simp [clockRow, hnan] at hholds
    · simp only [clockRow, hx, Dbl.fin_lt_fin, decide_eq_true_eq, Dbl.toK_fin] at hholds ⊢
      apply le_min (by norm_num)
      apply div_nonneg _ hclk.le
      linarith
  · simp only [powerRow, hf, Dbl.fin_lt_fin, decide_eq_true_eq, Dbl.toK_fin] at hholds ⊢
    exact mul_nonneg hpower hholds.le
  · exact (penalty_range hc (k := .eccSbePenalty) (by decide)).1
  · exact (penalty_range hc (k := .eccDbePenalty) (by decide)).1
  · exact (penalty_range hc (k := .pcieLinkDegradedPenalty) (by decide)).1
  · exact (penalty_range hc (k := .pcieWidthDegradedPenalty) (by decide)).1

/-- behind a passed gate the score is what the table leaves -/
theorem scored {c : GpuConfig K} (hc : InRange c) (ho : Ordered c) {st : WindowStats K} (hst : TableStats st)
    (state : GpuState K) (baseline : Option (GpuBaseline K)) (probe : Option (GpuProbeResult K)) :
    (penalties st state baseline probe c.toDbl).score =
      .fin (100 - (penaltySum (otherRows c st state) + pagesCost c state.retiredPagesDbe.toNat +
        remapCost c state.rowRemapFailures.toNat + penaltySum (perfRows c (usableDrop baseline probe)))) := by
  rw [penalties_table hc ho hst, staleBlock_eq, foldl_applyRow, penaltySum_table]

/-- **Ordered penalties suffice.** -/
theorem neverBetter_of_ordered {c : GpuConfig K} (hc : InRange c) (ho : Ordered c)
    (hpen : PenaltiesOrdered c.toDbl) : NeverBetter c.toDbl := by
  intro malloc ring state state' baseline probe probe' hring hmore
  by_cases h0 : completenessGate ring c.toDbl = 0
  · exact noBetter_of_gate h0 h0
  have hpass : windowGate (window ring) c.toDbl ≠ 0 := by rwa [← completenessGate_eq hring]
  have hst := windowStats_table (two_le_of_gate hpass) malloc c.toDbl
  rw [scoreGpu_passed hring hpass, scoreGpu_passed hring hpass]
  refine noBetter_of_penalty (scored hc ho hst state' baseline probe') (scored hc ho hst state baseline probe) ?_
  have hother : otherRows c (windowStats malloc (window ring) c.toDbl) state' =
      otherRows c (windowStats malloc (window ring) c.toDbl) state := by
    rw [hmore.rest]
    rfl
  have hnonneg := otherRows_nonneg hc hst state
  have hordered : c.int .retiredPagesWarn < c.int .retiredPagesBad →
      c.dbl .retiredPagesPenWarn ≤ c.dbl .retiredPagesPenBad := by
    intro hlt
    exact (Dbl.fin_le_fin _ _).1 (hpen.pages hlt)
  have hpages : pagesCost c state.retiredPagesDbe.toNat ≤ pagesCost c state'.retiredPagesDbe.toNat :=
    pagesCost_mono hc hordered (by exact_mod_cast hmore.pages)
  have hfloor : pagesCost c 0 ≤ pagesCost c state'.retiredPagesDbe.toNat :=
    pagesCost_mono hc hordered (by omega)
  have hpenalty := (penalty_range hc (k := .rowRemapFailurePenalty) (by decide)).1
  have hremaps : remapCost c state.rowRemapFailures.toNat ≤ remapCost c state'.rowRemapFailures.toNat := by
    have hle : state.rowRemapFailures.toNat ≤ state'.rowRemapFailures.toNat := hmore.remaps
    unfold remapCost
    by_cases hpos : 0 < state.rowRemapFailures.toNat
    · rw [if_pos hpos, if_pos (hpos.trans_le hle)]
    · rw [if_neg hpos]
      split_ifs
      · exact hpenalty
      · exact le_rfl
  have hremap0 : 0 ≤ remapCost c state'.rowRemapFailures.toNat := by
    unfold remapCost
    split_ifs
    · exact hpenalty
    · exact le_rfl
  rw [hother]
  rcases perfRows_noFaster hc ho hpen hmore.probe baseline with hperf | hfull
  · apply max_le_max le_rfl
    linarith
  · -- nothing is left of the 100
    rw [max_eq_left (by linarith)]
    exact le_max_left _ _

/-! ## Ordered penalties are necessary

On an idle window only the state and the probe result cost points, so a tier that costs less shows in the score. -/

/-- a ring full of zeros -/
def idleRing (n : ℕ) : GpuRing K := ⟨List.replicate n .zeroed, 0, n, n⟩

theorem idleRing_wf {n : ℕ} (hn : 0 < n) : RingWf (idleRing n : GpuRing K) := by
  refine ⟨?_, ?_, ?_, ?_, ?_⟩ <;> simp [idleRing, hn]

theorem idleRing_window (n : ℕ) : window (idleRing n : GpuRing K) = List.replicate n .zeroed := by
  have hat : ∀ i : ℤ, sampleAt (idleRing n : GpuRing K) i = .zeroed := by
    intro i
    simp only [sampleAt, idleRing, List.getD_eq_getElem?_getD, List.getElem?_replicate]
    split_ifs <;> rfl
  simp only [window, hat]
  rw [List.map_const', List.length_range]
  rfl

/-- an hour of zeros passes the gate of every config in range -/
theorem idleRing_gate {c : GpuConfig K} (hc : InRange c) {n : ℕ} (hn : 3600 ≤ n) :
    windowGate (window (idleRing n)) c.toDbl = 1 := by
  have habs := hc.int .minSamplesAbsolute 1 1000 (by decide +kernel)
  have hratio := hc.dbl .minSampleRatio 0 1 (by decide +kernel)
  have hgap := hc.dbl .maxMedianStepS (1 / 10) 30 (by decide +kernel)
  have hwin := hc.int .windowS 60 3600 (by decide +kernel)
  have hpoll := hc.int .pollIntervalS 1 60 (by decide +kernel)
  push_cast at hratio hgap
  have hlen : (window (idleRing n : GpuRing K)).length = n := by rw [idleRing_window, List.length_replicate]
  have hsteps : steps (window (idleRing n : GpuRing K)) =
      List.replicate ((window (idleRing n : GpuRing K)).length - 1) 0 := by
    rw [hlen, idleRing_window, steps, List.tail_replicate, List.zipWith_replicate, Nat.min_eq_right (by omega)]
    simp [gateDelta, GpuSample.zeroed]
  have hexpected0 : 0 ≤ (c.int .windowS).tdiv (c.int .pollIntervalS) := Int.tdiv_nonneg (by omega) (by omega)
  have hexpected : (c.int .windowS).tdiv (c.int .pollIntervalS) ≤ n := by
    calc (c.int .windowS).tdiv (c.int .pollIntervalS) ≤ c.int .windowS := Int.tdiv_le_self _ (by omega)
      _ ≤ 3600 := hwin.2
      _ ≤ n := by exact_mod_cast hn
  refine (windowGate_uniform hsteps c.toDbl).2 ⟨?_, ?_, ?_, ?_⟩
  · rw [hlen, GpuConfig.toDbl_int]
    omega
  · rw [hlen, GpuConfig.toDbl_dbl, Dbl.fin_mul, Dbl.fin_lt_fin, not_lt]
    calc c.dbl .minSampleRatio * (((c.int .windowS).tdiv (c.int .pollIntervalS) : ℤ) : K)
        ≤ 1 * (((c.int .windowS).tdiv (c.int .pollIntervalS) : ℤ) : K) :=
          mul_le_mul_of_nonneg_right hratio.2 (by exact_mod_cast hexpected0)
      _ ≤ 1 * (n : K) := mul_le_mul_of_nonneg_left (by exact_mod_cast hexpected) zero_le_one
      _ = n := one_mul _
  · rw [hlen]
    omega
  · rw [GpuConfig.toDbl_dbl, Dbl.fin_lt_fin, not_lt]
    linarith

/-- the statistics of an idle window -/
theorem idleRing_stats (c : GpuConfig K) (hsqrt : Arith.sqrt (0 : K) = 0) {n : ℕ} (hn : 2 ≤ n) :
    windowStats ⟨true, true⟩ (window (idleRing n)) c.toDbl = ⟨.fin 0, .fin 0, .fin 0, .fin 0, .fin 0, 0⟩ := by
  have hnil : List.replicate n (0 : K) ≠ [] := by
    intro h
    rw [List.replicate_eq_nil_iff] at h
    omega
  have hp95 : windowP95 true (List.replicate n (0 : K)) = .fin 0 := by
    have hget : (List.replicate n (0 : K)).getD (rank95 n - 1) 0 = 0 := by
      simp only [List.getD_eq_getElem?_getD, List.getElem?_replicate]
      split_ifs <;> rfl
    unfold windowP95
    rw [if_neg (by simp [hnil]), sortDoubles_replicate, List.length_replicate, hget]
  have hstd : windowStddev (List.replicate n (0 : K)) = .fin 0 := by
    have hvariance : ListStats.sampleVariance (List.replicate n (0 : K)) = 0 := by
      simp [ListStats.sampleVariance, ListStats.mean]
    unfold windowStddev
    rw [if_neg (by rw [List.length_replicate]; omega), hvariance, hsqrt]
  have hsat : windowSaturation (List.replicate n (.zeroed : GpuSample K)) c.toDbl = .fin 0 := by
    have hcount : ((List.replicate n (.zeroed : GpuSample K)).countP fun s =>
        saturated c.toDbl s.powerW s.powerLimitW) = 0 := by
      simp [List.countP_replicate, saturated, GpuSample.zeroed]
    have hne : (n : K) ≠ 0 := by
      have hpos : n ≠ 0 := by omega
      exact_mod_cast hpos
    unfold windowSaturation
    rw [hcount, List.length_replicate, Dbl.fin_div _ hne]
    simp
  have hfirst : firstSample (List.replicate n (.zeroed : GpuSample K)) = .zeroed := by
    obtain ⟨m, rfl⟩ : ∃ m, n = m + 1 := ⟨n - 1, by omega⟩
    rfl
  have hlast : lastSample (List.replicate n (.zeroed : GpuSample K)) = .zeroed := by
    simp only [lastSample, List.getLastD_eq_getLast?, List.getLast?_replicate]
    split_ifs <;> rfl
  have hrate : sbeRate (.zeroed : GpuSample K) .zeroed = 0 := by
    simp [sbeRate, windowHrs]
  simp only [windowStats, idleRing_window, List.map_replicate, hsat, hfirst, hlast, hrate]
  simp only [GpuSample.zeroed, hp95, hstd, dbeActive]
  simp

/-- nothing an idle window shows costs points -/
theorem idleRing_other {c : GpuConfig K} (hc : InRange c) {state : GpuState K} (hgen : state.pcieLinkGen = 0)
    (hwidth : state.pcieLinkWidth = 0) :
    penaltySum (otherRows c ⟨.fin 0, .fin 0, .fin 0, .fin 0, .fin 0, 0⟩ state) = 0 := by
  have h1 := hc.dbl .tempP95WarnC 50 120 (by decide +kernel)
  have h2 := hc.dbl .tempP95BadC 50 120 (by decide +kernel)
  have h3 := hc.dbl .hbmTempP95WarnC 50 120 (by decide +kernel)
  have h4 := hc.dbl .hbmTempP95BadC 50 120 (by decide +kernel)
  have h5 := hc.dbl .eccSbeRateWarnPerHour 0 (10 ^ 9) (by decide +kernel)
  have h6 := (clock_power_bounds hc).1
  push_cast at h1 h2 h3 h4 h5
  have hwarn : ¬ c.dbl .tempP95WarnC < 0 := by linarith
  have hbad : ¬ c.dbl .tempP95BadC < 0 := by linarith
  have hhwarn : ¬ c.dbl .hbmTempP95WarnC < 0 := by linarith
  have hhbad : ¬ c.dbl .hbmTempP95BadC < 0 := by linarith
  simp [otherRows, thermalRows, clockRow, powerRow, eccRows, pcieRow, penaltySum_cons, hgen, hwidth, hwarn, hbad,
    hhwarn, hhbad, not_lt.2 h5.1, not_lt.2 h6.le]

/-- a GPU with `n` retired pages and no other trouble -/
def wornState (n : UInt32) : GpuState K := { (GpuState.zeroed : GpuState K) with retiredPagesDbe := n }

/-- an idle window pays for the retired pages and the perf/W drop alone -/
theorem idleRing_score {c : GpuConfig K} (hc : InRange c) (ho : Ordered c) (hsqrt : Arith.sqrt (0 : K) = 0)
    (n : UInt32) (baseline : Option (GpuBaseline K)) (probe : Option (GpuProbeResult K)) :
    (scoreGpu ⟨true, true⟩ (idleRing 3600) (wornState n) baseline probe c.toDbl).score =
      .fin (max 0 (100 - (pagesCost c n.toNat + penaltySum (perfRows c (usableDrop baseline probe))))) := by
  have hgate := idleRing_gate hc (le_refl 3600)
  have hpass : windowGate (window (idleRing 3600)) c.toDbl ≠ 0 := by
    rw [hgate]
    exact one_ne_zero
  have hst := windowStats_table (two_le_of_gate hpass) ⟨true, true⟩ c.toDbl
  have hscore := scoreStats_score (scored hc ho hst (wornState n) baseline probe)
  have hother : penaltySum (otherRows c (windowStats ⟨true, true⟩ (window (idleRing 3600)) c.toDbl)
      (wornState n : GpuState K)) = 0 := by
    rw [idleRing_stats c hsqrt (by norm_num)]
    exact idleRing_other hc rfl rfl
  have hremap : remapCost c (wornState n : GpuState K).rowRemapFailures.toNat = 0 := if_neg (lt_irrefl 0)
  rw [scoreGpu_passed (idleRing_wf (by norm_num)) hpass, hscore, hother, hremap, zero_add, add_zero]
  rfl

/-- two costs, told apart by the points they leave -/
theorem cost_le_of_points {p p' : K} (h : max 0 (100 - p') ≤ max 0 (100 - p)) : p ≤ p' ∨ 100 ≤ p' := by
  by_cases hfull : 100 ≤ p'
  · exact Or.inr hfull
  · refine Or.inl ?_
    rw [not_le] at hfull
    rcases le_max_iff.1 ((le_max_right _ _).trans h) with h0 | hle
    · linarith
    · linarith

theorem pages_necessary {c : GpuConfig K} (hc : InRange c) (ho : Ordered c) (hsqrt : Arith.sqrt (0 : K) = 0)
    (h : NeverBetter c.toDbl) (hlt : c.int .retiredPagesWarn < c.int .retiredPagesBad) :
    c.dbl .retiredPagesPenWarn ≤ c.dbl .retiredPagesPenBad := by
  have hwarn := hc.int .retiredPagesWarn 0 10000 (by decide +kernel)
  have hbad := hc.int .retiredPagesBad 0 10000 (by decide +kernel)
  have hw : ((UInt32.ofInt (c.int .retiredPagesWarn)).toNat : ℤ) = c.int .retiredPagesWarn := by
    rw [toNat_ofInt hwarn.1 hwarn.2, Int.toNat_of_nonneg hwarn.1]
  have hb : ((UInt32.ofInt (c.int .retiredPagesBad)).toNat : ℤ) = c.int .retiredPagesBad := by
    rw [toNat_ofInt hbad.1 hbad.2, Int.toNat_of_nonneg hbad.1]
  set n := UInt32.ofInt (c.int .retiredPagesWarn)
  set n' := UInt32.ofInt (c.int .retiredPagesBad)
  have hmore : MoreDamage (wornState n : GpuState K) (wornState n') none none := by
    refine ⟨?_, UInt32.le_refl _, rfl, .same none⟩
    show n.toNat ≤ n'.toNat
    omega
  have hscore := (h ⟨true, true⟩ (idleRing 3600) _ _ none none none (idleRing_wf (by norm_num)) hmore).score
  have hcost : pagesCost c n.toNat = c.dbl .retiredPagesPenWarn := by
    rw [hw, pagesCost, if_neg (not_le.2 hlt), if_pos le_rfl]
  have hcost' : pagesCost c n'.toNat = c.dbl .retiredPagesPenBad := by
    rw [hb, pagesCost, if_pos le_rfl]
  have hnone : penaltySum (perfRows c (usableDrop none none)) = 0 := rfl
  rw [idleRing_score hc ho hsqrt, idleRing_score hc ho hsqrt, Dbl.fin_le_fin, hcost, hcost', hnone, add_zero,
    add_zero] at hscore
  rcases cost_le_of_points hscore with hle | hfull
  · exact hle
  · exact (penalty_range hc (k := .retiredPagesPenWarn) (by decide)).2.trans hfull

/-- a valid baseline of 1, and a probe result `d` below it -/
def unitBaseline : GpuBaseline K :=
  { (GpuBaseline.zeroed : GpuBaseline K) with available := 1, valid := 1, perfWMean := .fin 1 }
def dropProbe (d : K) : GpuProbeResult K :=
  { (GpuProbeResult.zeroed : GpuProbeResult K) with available := 1, perfWMean := .fin (1 - d) }

theorem usableDrop_unit {d : K} (h0 : 0 ≤ d) (h1 : d < 1) :
    usableDrop (some unitBaseline) (some (dropProbe d)) = some d := by
  simp [usableDrop, unitBaseline, dropProbe, GpuProbeResult.zeroed, h0, h1]

/-- two drops, told apart by the points they leave -/
theorem perf_necessary {c : GpuConfig K} (hc : InRange c) (ho : Ordered c) (hsqrt : Arith.sqrt (0 : K) = 0)
    (h : NeverBetter c.toDbl) {d d' : K} (h0 : 0 ≤ d) (hd : d ≤ d') (h1 : d' < 1) :
    perfCost c d ≤ perfCost c d' ∨ 100 ≤ pagesCost c 0 + perfCost c d' := by
  have hslower : NoFaster (some (dropProbe d)) (some (dropProbe d')) := by
    refine NoFaster.slower (dropProbe d) (.fin (1 - d')) ?_ ?_
    · rw [Dbl.fin_lt_fin]
      linarith
    · exact (Dbl.fin_le_fin _ _).2 (by linarith)
  have hmore : MoreDamage (wornState 0 : GpuState K) (wornState 0) (some (dropProbe d)) (some (dropProbe d')) :=
    ⟨UInt32.le_refl _, UInt32.le_refl _, rfl, hslower⟩
  have hscore := (h ⟨true, true⟩ (idleRing 3600) _ _ (some unitBaseline) _ _ (idleRing_wf (by norm_num)) hmore).score
  rw [idleRing_score hc ho hsqrt, idleRing_score hc ho hsqrt, Dbl.fin_le_fin, usableDrop_unit h0 (hd.trans_lt h1),
    usableDrop_unit (h0.trans hd) h1, penaltySum_perf ho, penaltySum_perf ho] at hscore
  rcases cost_le_of_points hscore with hle | hfull
  · exact Or.inl (le_of_add_le_add_left hle)
  · exact Or.inr hfull

/-- **Ordered penalties are necessary.** -/
theorem ordered_of_neverBetter {c : GpuConfig K} (hc : InRange c) (ho : Ordered c) (hsqrt : Arith.sqrt (0 : K) = 0)
    (h : NeverBetter c.toDbl) : PenaltiesOrdered c.toDbl := by
  have hwarn := ho.warn_nonneg
  have hbad := ho.bad
  have hsevere := ho.severe
  have hone := (hc.dbl .perfDropSevere 0 1 (by decide +kernel)).2
  push_cast at hone
  -- one drop in each tier
  have hcostWarn : perfCost c (c.dbl .perfDropBad) = c.dbl .perfDropPenWarn := by
    rw [perfCost, if_neg (not_lt.2 hsevere.le), if_neg (lt_irrefl _), if_pos hbad]
  have hcostBad : perfCost c ((c.dbl .perfDropBad + c.dbl .perfDropSevere) / 2) = c.dbl .perfDropPenBad := by
    rw [perfCost, if_neg (not_lt.2 (by linarith)), if_pos (by linarith)]
  have hcostSevere : c.dbl .perfDropSevere < 1 →
      perfCost c ((c.dbl .perfDropSevere + 1) / 2) = c.dbl .perfDropPenSevere := by
    intro hlt
    rw [perfCost, if_pos (by linarith)]
  refine ⟨?_, ?_, ?_⟩
  · intro hlt
    exact (Dbl.fin_le_fin _ _).2 (pages_necessary hc ho hsqrt h hlt)
  · rw [tierOrdered_toDbl, ← hcostWarn, ← hcostBad]
    exact perf_necessary hc ho hsqrt h (by linarith) (by linarith) (by linarith)
  · intro hlt
    rw [GpuConfig.toDbl_dbl, Dbl.fin_lt_fin] at hlt
    rw [tierOrdered_toDbl, ← hcostSevere hlt, ← hcostBad]
    exact perf_necessary hc ho hsqrt h (by linarith) (by linarith) (by linarith)

/-! ## Accepted configs -/

/-- **More damage never scores better exactly when the penalties are ordered.** -/
theorem never_better_iff (fopen getenv : CStr → Option CStr) (path : Option CStr) (cfg : GpuConfig (Dbl K))
    (h : Accepted fopen getenv path cfg) (hsqrt : Arith.sqrt (0 : K) = 0) :
    NeverBetter cfg ↔ PenaltiesOrdered cfg := by
  obtain ⟨c, rfl, hc⟩ := h.inRange
  have ho := ordered_of_accepted hc h.validate
  constructor
  · intro hnever
    exact ordered_of_neverBetter hc ho hsqrt hnever
  · intro hpen
    exact neverBetter_of_ordered hc ho hpen

instance (cfg : GpuConfig (Dbl K)) (low high : DblKey) : Decidable (TierOrdered cfg low high) :=
  inferInstanceAs (Decidable (_ ∨ _))

/-- the default penalties are ordered -/
theorem never_better_small : NeverBetter (smallConfig.toDbl : GpuConfig (Dbl ℚ)) :=
  (never_better_iff _ _ _ _ smallConfig_accepted (by decide +kernel)).2
    ⟨by decide +kernel, by decide +kernel, by decide +kernel⟩

/-! ## Unordered penalties -/

def unorderedFile : CStr :=
  ("poll_interval_s = 15\nwindow_s = 60\nmin_samples_absolute = 4\nmax_median_step_s = 30\n" ++
    "retired_pages_pen_warn = 100\nretired_pages_pen_bad = 0\n").toList

/-- four samples of an idle GPU, 15 s apart -/
def quietRing : GpuRing ℚ :=
  ⟨[0, 15, 30, 45].map fun t => { GpuSample.zeroed with timestampMs := t * 1000 }, 0, 4, 4⟩

/-- the config is accepted, and the tenth retired page lifts the score from 0 to 100 -/
theorem more_pages_score_better : ∃ cfg : GpuConfig (Dbl ℚ),
    Accepted (fun _ => some unorderedFile) (fun _ => none) (some []) cfg ∧
    (scoreGpu ⟨true, true⟩ quietRing (wornState 9) none none cfg).score = .fin 0 ∧
    (scoreGpu ⟨true, true⟩ quietRing (wornState 10) none none cfg).score = .fin 100 ∧
    ¬ NeverBetter cfg := by
  have hload : (configLoad (fun _ => some unorderedFile) (fun _ => none) (some []) :
      Option (GpuConfig (Dbl ℚ))).map (fun cfg => (configValidate cfg,
        (scoreGpu ⟨true, true⟩ quietRing (wornState 9) none none cfg).score,
        (scoreGpu ⟨true, true⟩ quietRing (wornState 10) none none cfg).score)) = some (0, .fin 0, .fin 100) := by
    decide +kernel
  obtain ⟨cfg, hcfg, hfields⟩ := Option.map_eq_some_iff.1 hload
  obtain ⟨hvalid, hfields⟩ := Prod.mk.inj hfields
  obtain ⟨hnine, hten⟩ := Prod.mk.inj hfields
  have hfinite : Finite cfg := ConfigRange.finite_of_no_nanText hcfg (ConfigRange.no_nanText (by decide +kernel))
  refine ⟨cfg, ⟨hcfg, hvalid, hfinite⟩, hnine, hten, ?_⟩
  intro hnever
  have hmore : MoreDamage (wornState 9 : GpuState ℚ) (wornState 10) none none :=
    ⟨by decide, UInt32.le_refl _, rfl, .same none⟩
  have hscore := (hnever ⟨true, true⟩ quietRing _ _ none none none
    ⟨by decide, by decide, by decide, by decide, by decide⟩ hmore).score
  rw [hnine, hten, Dbl.fin_le_fin] at hscore
  norm_num at hscore

end GpuHealth.DamageMonotone
