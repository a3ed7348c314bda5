/-
Hotter or more power-saturated windows never score better.

Two windows are compared sample by sample (`Hotter`): equal timestamps, clocks, power limits and ECC counters, and the
second at least as hot (GPU and HBM) and drawing at least as much power. `ring_p95` sorts each window by its own
permutation; that its order statistic is monotone all the same is `ListStats.sorted_getElem_le`.

- `hotter_never_better`: for every config in range, both gates agree, each thermal p95 and the saturated fraction are at
  least those of the cooler window, and the score is no better (`NoBetter`). The warn thresholds need not even lie below
  the bad ones, since the bad tier is looked at first and costs more.
Witness `hotter_never_better_small`.

A p95 is compared when its buffer can be allocated: above 300 samples `ring_p95` without memory is NaN for both
windows, and the score is still no better.
-/
import GpuHealth.ScoreOrder

namespace GpuHealth.HeatMonotone

open GpuHealth.Ring GpuHealth.Scorer GpuHealth.WindowScore GpuHealth.Config GpuHealth.PenaltyTable GpuHealth.ScoreOrder

variable {K : Type} [Arith K]

/-! ## Hotter windows -/

/-- the second sample is the first, at least as hot and drawing at least as much power -/
structure HotterSample (s s' : GpuSample K) : Prop where
  timestampMs : s'.timestampMs = s.timestampMs
  smClockMhz : s'.smClockMhz = s.smClockMhz
  powerLimitW : s'.powerLimitW = s.powerLimitW
  eccSbeVolatile : s'.eccSbeVolatile = s.eccSbeVolatile
  eccDbeVolatile : s'.eccDbeVolatile = s.eccDbeVolatile
  tempC : s.tempC ≤ s'.tempC
  hbmTempC : s.hbmTempC ≤ s'.hbmTempC
  powerW : s.powerW ≤ s'.powerW

/-- windows of equal length, sample by sample -/
def Hotter (w w' : List (GpuSample K)) : Prop := List.Forall₂ HotterSample w w'

/-- only temperatures and power draw differ -/
theorem HotterSample.eq_with {s s' : GpuSample K} (h : HotterSample s s') :
    s' = { s with tempC := s'.tempC, hbmTempC := s'.hbmTempC, powerW := s'.powerW } := by
  obtain ⟨hts, hclk, hlim, hsbe, hdbe, -, -, -⟩ := h
  rw [← hts, ← hclk, ← hlim, ← hsbe, ← hdbe]

theorem HotterSample.refl (s : GpuSample K) : HotterSample s s :=
  ⟨rfl, rfl, rfl, rfl, rfl, le_rfl, le_rfl, le_rfl⟩

variable {w w' : List (GpuSample K)}

/-- a field both windows share -/
theorem Hotter.map_eq {α : Type} {f : GpuSample K → α} (hf : ∀ s s', HotterSample s s' → f s = f s')
    (h : Hotter w w') : w.map f = w'.map f := by
  induction h with
  | nil => rfl
  | cons hs _ ih => rw [List.map_cons, List.map_cons, hf _ _ hs, ih]

/-- a field in which the second window dominates -/
theorem Hotter.map_le {f : GpuSample K → K} (hf : ∀ s s', HotterSample s s' → f s ≤ f s') (h : Hotter w w') :
    List.Forall₂ (· ≤ ·) (w.map f) (w'.map f) := by
  rw [List.forall₂_map_left_iff, List.forall₂_map_right_iff]
  apply h.imp
  intro s s' hs
  exact hf s s' hs

theorem Hotter.first (h : Hotter w w') : HotterSample (firstSample w) (firstSample w') := by
  cases h with
  | nil => exact HotterSample.refl _
  | cons hs _ => exact hs

theorem Hotter.last (h : Hotter w w') : HotterSample (lastSample w) (lastSample w') := by
  have hrev : Hotter w.reverse w'.reverse := List.rel_reverse h
  have hfirst := hrev.first
  simpa only [firstSample, lastSample, List.headD_eq_head?_getD, List.head?_reverse,
    List.getLastD_eq_getLast?] using hfirst

/-! ## The gate -/

/-- the gaps of a window, from its timestamps alone -/
theorem steps_eq_timestamps (w : List (GpuSample K)) :
    steps w = List.zipWith (fun prev cur : UInt64 =>
      let dt := ((cur - prev).toNat : K) / 1000
      if dt < 0 then -dt else dt) (w.map (·.timestampMs)) (w.map (·.timestampMs)).tail := by
  rw [← List.map_tail, List.zipWith_map]
  rfl

theorem windowGate_hotter (h : Hotter w w') (cfg : GpuConfig (Dbl K)) : windowGate w cfg = windowGate w' cfg := by
  have hlen : w.length = w'.length := List.Forall₂.length_eq h
  have hsteps : steps w = steps w' := by
    rw [steps_eq_timestamps, steps_eq_timestamps, h.map_eq fun _ _ hs => hs.timestampMs.symm]
  simp only [windowGate, hlen, hsteps]

/-! ## The statistics -/

/-- **The 95th percentile is monotone**, when it is computed -/
theorem windowP95_mono (malloc : Bool) {xs ys : List K} (h : List.Forall₂ (· ≤ ·) xs ys) :
    (windowP95 malloc xs = .nan ∧ windowP95 malloc ys = .nan) ∨
      ∃ x y, windowP95 malloc xs = .fin x ∧ windowP95 malloc ys = .fin y ∧ x ≤ y := by
  have hlen : xs.length = ys.length := h.length_eq
  have hiff : (xs = [] ∨ 300 < xs.length ∧ malloc = false) ↔ (ys = [] ∨ 300 < ys.length ∧ malloc = false) := by
    rw [← List.length_eq_zero_iff, ← List.length_eq_zero_iff, hlen]
  unfold windowP95
  by_cases hnan : xs = [] ∨ 300 < xs.length ∧ malloc = false
  · exact Or.inl ⟨if_pos hnan, if_pos (hiff.1 hnan)⟩
  · refine Or.inr ⟨_, _, if_neg hnan, if_neg fun hnan' => hnan (hiff.2 hnan'), ?_⟩
    rw [← hlen]
    have hpos : 0 < xs.length := List.length_pos_iff.2 fun hxs => hnan (Or.inl hxs)
    obtain ⟨-, hlo, hhi⟩ := rank_clamped hpos
    have hx : rank95 xs.length - 1 < (xs.insertionSort (· ≤ ·)).length := by
      rw [List.length_insertionSort]
      omega
    have hy : rank95 xs.length - 1 < (ys.insertionSort (· ≤ ·)).length := by
      rw [List.length_insertionSort]
      omega
    have hle := ListStats.sorted_getElem_le h hx hy
    simpa only [List.getD_eq_getElem?_getD, List.getElem?_eq_getElem hx, List.getElem?_eq_getElem hy,
      Option.getD_some, sortDoubles] using hle

/-- the saturated fraction is a number, and it grows -/
theorem windowSaturation_mono (h : Hotter w w') (hne : w ≠ []) (c : GpuConfig K) :
    ∃ x y, windowSaturation w c.toDbl = .fin x ∧ windowSaturation w' c.toDbl = .fin y ∧ x ≤ y := by
  have hlen : w.length = w'.length := List.Forall₂.length_eq h
  have hpos : (0 : K) < w.length := by exact_mod_cast List.length_pos_iff.2 hne
  have hcount : (w.countP fun s => saturated c.toDbl s.powerW s.powerLimitW) ≤
      w'.countP fun s => saturated c.toDbl s.powerW s.powerLimitW := by
    apply ListStats.countP_le_of_forall₂ _ h
    intro s s' hs hsat
    simp only [saturated, GpuConfig.toDbl_dbl, Dbl.fin_mul, Dbl.fin_le_fin, decide_eq_true_eq] at hsat ⊢
    rw [hs.powerLimitW]
    exact ⟨hsat.1, hsat.2.trans hs.powerW⟩
  unfold windowSaturation
  rw [← hlen]
  refine ⟨_, _, Dbl.fin_div _ hpos.ne', Dbl.fin_div _ hpos.ne', ?_⟩
  apply div_le_div_of_nonneg_right _ hpos.le
  exact_mod_cast hcount

/-- the statistics that do not depend on temperatures and power draw -/
theorem windowStats_shared (h : Hotter w w') (malloc : P95Malloc) (cfg : GpuConfig (Dbl K)) :
    (windowStats malloc w cfg).clkStdMhz = (windowStats malloc w' cfg).clkStdMhz ∧
      (windowStats malloc w cfg).eccSbeRatePerHour = (windowStats malloc w' cfg).eccSbeRatePerHour ∧
      (windowStats malloc w cfg).eccDbeInWindow = (windowStats malloc w' cfg).eccDbeInWindow := by
  have hfirst := h.first
  have hlast := h.last
  refine ⟨?_, ?_, ?_⟩
  · simp only [windowStats]
    rw [h.map_eq fun _ _ hs => hs.smClockMhz.symm]
  · simp only [windowStats]
    rw [hfirst.eq_with, hlast.eq_with]
    rfl
  · simp only [windowStats]
    rw [hfirst.eq_with, hlast.eq_with]
    rfl

/-! ## The penalties -/

/-- a hotter p95 pays no less -/
theorem thermalRows_mono (warn bad : K) (warnBit badBit : UInt32) {p p' : Dbl K}
    (h : (p = .nan ∧ p' = .nan) ∨ ∃ x y, p = .fin x ∧ p' = .fin y ∧ x ≤ y) :
    penaltySum (thermalRows p warn bad warnBit badBit) ≤ penaltySum (thermalRows p' warn bad warnBit badBit) := by
  rcases h with ⟨rfl, rfl⟩ | ⟨x, y, rfl, rfl, hxy⟩
  · exact le_rfl
  simp only [thermalRows, penaltySum_cons, penaltySum_nil, Dbl.fin_lt_fin, decide_eq_true_eq]
  by_cases hbad : bad < y
  · -- the second pays the bad tier, the first at most that
    have hpaid : (if warn < y ∧ ¬ bad < y then (10 : K) else 0) = 0 := if_neg fun hc => hc.2 hbad
    rw [if_pos hbad, hpaid]
    by_cases hbadx : bad < x
    · simp [hbadx]
    · rw [if_neg hbadx]
      split_ifs <;> norm_num
  · have hbadx : ¬ bad < x := fun hx => hbad (hx.trans_le hxy)
    by_cases hw : warn < x
    · simp [hbad, hbadx, hw, hw.trans_le hxy]
    · simp only [hbad, hbadx, hw, if_false, false_and]
      split_ifs <;> norm_num

theorem powerRow_mono {f f' max : K} (hmax : 0 ≤ max) (h : f ≤ f') :
    penaltySum [powerRow (.fin f) max] ≤ penaltySum [powerRow (.fin f') max] := by
  simp only [powerRow, penaltySum_cons, penaltySum_nil, Dbl.fin_lt_fin, Dbl.toK_fin, decide_eq_true_eq, add_zero]
  by_cases hf : 0 < f
  · rw [if_pos hf, if_pos (hf.trans_le h)]
    exact mul_le_mul_of_nonneg_left h hmax
  · rw [if_neg hf]
    split_ifs with hf'
    · exact mul_nonneg hmax hf'.le
    · exact le_rfl

/-- the rows of the hotter window cost at least as much -/
theorem penaltyTable_mono (h : Hotter w w') (hne : w ≠ []) {c : GpuConfig K} (hc : InRange c) (malloc : P95Malloc)
    (state : GpuState K) (baseline : Option (GpuBaseline K)) (probe : Option (GpuProbeResult K)) :
    penaltySum (penaltyTable c (scoreStats (windowStats malloc w c.toDbl) state baseline probe c.toDbl) state none) ≤
      penaltySum (penaltyTable c (scoreStats (windowStats malloc w' c.toDbl) state baseline probe c.toDbl) state none) := by
  have htemp := thermalRows_mono (c.dbl .tempP95WarnC) (c.dbl .tempP95BadC) Reason.tempWarn Reason.tempBad
    (windowP95_mono malloc.temp (h.map_le fun _ _ hs => hs.tempC))
  have hhbm := thermalRows_mono (c.dbl .hbmTempP95WarnC) (c.dbl .hbmTempP95BadC) Reason.hbmTempWarn Reason.hbmTempBad
    (windowP95_mono malloc.hbm (h.map_le fun _ _ hs => hs.hbmTempC))
  obtain ⟨f, f', hf, hf', hff⟩ := windowSaturation_mono h hne c
  have hpower := powerRow_mono (clock_power_bounds hc).2 hff
  obtain ⟨hclk, hsbe, hdbe⟩ := windowStats_shared h malloc c.toDbl
  simp only [scoreStats, penaltyTable, penaltySum_append, penaltySum_cons, penaltySum_nil, hclk, hsbe, hdbe]
  simp only [windowStats, hf, hf', penaltySum_cons, penaltySum_nil] at htemp hhbm hpower ⊢
  linarith

/-- the perf/W block takes the same amount from every score -/
theorem perfBlock_cost (c : GpuConfig K) (drop : Option (Dbl K)) :
    ∃ q : K, ∀ x bits, (perfBlock drop c.toDbl ⟨.fin x, bits⟩).score = .fin (x - q) := by
  cases drop with
  | none => exact ⟨0, fun x bits => by simp [perfBlock]⟩
  | some d =>
    by_cases hsevere : .fin (c.dbl .perfDropSevere) < d
    · exact ⟨c.dbl .perfDropPenSevere, fun x bits => by simp [perfBlock, hsevere, Acc.penalise]⟩
    by_cases hbad : .fin (c.dbl .perfDropBad) < d
    · exact ⟨c.dbl .perfDropPenBad, fun x bits => by simp [perfBlock, hsevere, hbad, Acc.penalise]⟩
    by_cases hwarn : .fin (c.dbl .perfDropWarn) < d
    · exact ⟨c.dbl .perfDropPenWarn, fun x bits => by simp [perfBlock, hsevere, hbad, hwarn, Acc.penalise]⟩
    · exact ⟨0, fun x bits => by simp [perfBlock, hsevere, hbad, hwarn]⟩

/-- what all blocks leave of the 100 -/
theorem penalties_score {c : GpuConfig K} (hc : InRange c) {st : WindowStats K} (hst : TableStats st)
    (state : GpuState K) (baseline : Option (GpuBaseline K)) (probe : Option (GpuProbeResult K)) {q : K}
    (hq : ∀ x bits, (perfBlock (perfDrop baseline probe) c.toDbl ⟨.fin x, bits⟩).score = .fin (x - q)) :
    (penalties st state baseline probe c.toDbl).score =
      .fin (100 - penaltySum (penaltyTable c (scoreStats st state baseline probe c.toDbl) state none) - q) := by
  rw [penalties_rows hc hst, staleBlock_eq, foldl_applyRow, hq]

/-! ## Scores -/

/-- behind a passed gate -/
theorem scoreStats_hotter (h : Hotter w w') {c : GpuConfig K} (hc : InRange c) (hpass : windowGate w c.toDbl ≠ 0)
    (malloc : P95Malloc) (state : GpuState K) (baseline : Option (GpuBaseline K)) (probe : Option (GpuProbeResult K)) :
    NoBetter (scoreStats (windowStats malloc w' c.toDbl) state baseline probe c.toDbl)
      (scoreStats (windowStats malloc w c.toDbl) state baseline probe c.toDbl) := by
  have htwo := two_le_of_gate hpass
  have htwo' : 2 ≤ w'.length := by rwa [← List.Forall₂.length_eq h]
  have hne : w ≠ [] := by
    intro hnil
    simp [hnil] at htwo
  obtain ⟨q, hq⟩ := perfBlock_cost c (perfDrop baseline probe)
  have hscore := penalties_score hc (windowStats_table htwo malloc c.toDbl) state baseline probe hq
  have hscore' := penalties_score hc (windowStats_table htwo' malloc c.toDbl) state baseline probe hq
  have hrows := penaltyTable_mono h hne hc malloc state baseline probe
  exact noBetter_of_penalty hscore' hscore (max_le_max le_rfl (by linarith))

/-- a p95 whose buffer can be allocated -/
theorem windowP95_le {malloc : Bool} {xs ys : List K} (h : List.Forall₂ (· ≤ ·) xs ys) (hne : xs ≠ [])
    (hmalloc : xs.length ≤ 300 ∨ malloc = true) : windowP95 malloc xs ≤ windowP95 malloc ys := by
  rcases windowP95_mono malloc h with ⟨hnan, -⟩ | ⟨x, y, hx, hy, hxy⟩
  · unfold windowP95 at hnan
    split_ifs at hnan with hcond
    rcases hcond with hnil | ⟨hlong, hfail⟩
    · exact absurd hnil hne
    · rcases hmalloc with hshort | hserved
      · omega
      · simp [hserved] at hfail
  · rw [hx, hy, Dbl.fin_le_fin]
    exact hxy

/-- **Hotter windows never score better.** -/
theorem hotter_never_better (c : GpuConfig K) (hc : InRange c) (malloc : P95Malloc) (ring ring' : GpuRing K)
    (hring : RingWf ring) (hring' : RingWf ring') (h : Hotter (window ring) (window ring')) (state : GpuState K)
    (baseline : Option (GpuBaseline K)) (probe : Option (GpuProbeResult K)) :
    let out := scoreGpu malloc ring state baseline probe c.toDbl
    let out' := scoreGpu malloc ring' state baseline probe c.toDbl
    completenessGate ring' c.toDbl = completenessGate ring c.toDbl ∧
    (ring.count ≤ 300 ∨ malloc.temp = true → out.tempP95C ≤ out'.tempP95C) ∧
    (ring.count ≤ 300 ∨ malloc.hbm = true → out.hbmTempP95C ≤ out'.hbmTempP95C) ∧
    out.powerSaturationFrac ≤ out'.powerSaturationFrac ∧
    NoBetter out' out := by
  intro out out'
  have hgate : completenessGate ring' c.toDbl = completenessGate ring c.toDbl := by
    rw [completenessGate_eq hring, completenessGate_eq hring', windowGate_hotter h]
  refine ⟨hgate, ?_⟩
  by_cases h0 : completenessGate ring c.toDbl = 0
  · have hout : out = gateFailed := if_pos h0
    have hout' : out' = gateFailed := if_pos (hgate.trans h0)
    have hno : NoBetter out' out := noBetter_of_gate h0 (hgate.trans h0)
    have hzero : (Dbl.fin 0 : Dbl K) ≤ .fin 0 := (Dbl.fin_le_fin _ _).2 le_rfl
    rw [hout, hout'] at hno ⊢
    exact ⟨fun _ => hzero, fun _ => hzero, hzero, hno⟩
  · have hpass : windowGate (window ring) c.toDbl ≠ 0 := by rwa [← completenessGate_eq hring]
    have hpass' : windowGate (window ring') c.toDbl ≠ 0 := by rwa [← windowGate_hotter h]
    have hout : out = _ := scoreGpu_passed hring hpass malloc state baseline probe
    have hout' : out' = _ := scoreGpu_passed hring' hpass' malloc state baseline probe
    have hlen := length_toNat hring
    have hne : window ring ≠ [] := by
      intro hnil
      have htwo := two_le_of_gate hpass
      simp [hnil] at htwo
    rw [hout, hout']
    refine ⟨?_, ?_, ?_, scoreStats_hotter h hc hpass malloc state baseline probe⟩
    · intro hmalloc
      apply windowP95_le (h.map_le fun _ _ hs => hs.tempC) (by simpa using hne)
      rw [List.length_map]
      exact hmalloc.imp_left fun hcount => by omega
    · intro hmalloc
      apply windowP95_le (h.map_le fun _ _ hs => hs.hbmTempC) (by simpa using hne)
      rw [List.length_map]
      exact hmalloc.imp_left fun hcount => by omega
    · obtain ⟨x, y, hx, hy, hxy⟩ := windowSaturation_mono h hne c
      show windowSaturation (window ring) c.toDbl ≤ windowSaturation (window ring') c.toDbl
      rw [hx, hy, Dbl.fin_le_fin]
      exact hxy

/-- four samples at 70 degrees, 15 s apart -/
def mildRing : GpuRing ℚ :=
  ⟨[0, 15, 30, 45].map fun t => { GpuSample.zeroed with tempC := 70, timestampMs := t * 1000 }, 0, 4, 4⟩

/-- the hot ring of the penalty table against the mild one: 75 points against 100 -/
theorem hotter_never_better_small :
    NoBetter (scoreGpu ⟨true, true⟩ hotRing .zeroed none none hotConfig.toDbl)
      (scoreGpu ⟨true, true⟩ mildRing .zeroed none none hotConfig.toDbl) ∧
    (scoreGpu ⟨true, true⟩ mildRing .zeroed none none hotConfig.toDbl).score = .fin 100 := by
  refine ⟨?_, by decide +kernel⟩
  have hmild : window mildRing =
      [0, 15, 30, 45].map fun t => { GpuSample.zeroed with tempC := 70, timestampMs := t * 1000 } := by
    decide +kernel
  have hhot : window hotRing =
      [0, 15, 30, 45].map fun t => { GpuSample.zeroed with tempC := 95, timestampMs := t * 1000 } := by
    decide +kernel
  have hhotter : Hotter (window mildRing) (window hotRing) := by
    rw [hmild, hhot, Hotter, List.forall₂_map_left_iff, List.forall₂_map_right_iff, List.forall₂_same]
    intro t _
    exact ⟨rfl, rfl, rfl, rfl, rfl, by norm_num, le_rfl, le_rfl⟩
  exact (hotter_never_better hotConfig (by decide +kernel) ⟨true, true⟩ mildRing hotRing
    ⟨by decide, by decide, by decide, by decide, by decide⟩ hotRing_wf hhotter .zeroed none none).2.2.2.2

end GpuHealth.HeatMonotone
