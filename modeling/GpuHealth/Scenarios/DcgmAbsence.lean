/-
Whether missing DCGM data is ever shown as a measurement, for every poll cycle that publishes a snapshot.

The property, for each of board_power_w, energy_j and mem_bw_util_pct: the published value is the one DCGM
delivered in the cycle, and NaN (rendered as NaN by /metrics) in every other case (`Honest`). The code fills the three
fields with 0.0 before each poll, under a comment that says NaN, and overwrites them only with values that differ from
the sentinel -1.0.

- `absent_shown_as_zero`: without DCGM the first snapshot shows a board power of 0 W.
- `honest_iff`: a published field is honest exactly when DCGM is available, the cycle's dcgm_poll succeeded, and the
  entry is neither in error nor blank nor reads as the sentinel (`Delivers`). So absence is never shown as NaN.
Witness `honest_delivered`: a cycle in which DCGM delivers 250 W.
-/
import GpuHealth.Collector
import GpuHealth.Metrics
import GpuHealth.NumberText

namespace GpuHealth.DcgmAbsence

open GpuHealth.Collector GpuHealth.Dcgm GpuHealth.Nvml GpuHealth.Metrics GpuHealth.NumberText GpuHealth.Runs

variable {K : Type} [Arith K]

/-! ## The property -/

inductive DcgmGauge where
  | boardPowerW
  | energyJ
  | memBwUtilPct
deriving DecidableEq, Repr

/-- the published value -/
def DcgmGauge.value (s : GpuSnapshot K) : DcgmGauge → Dbl K
  | .boardPowerW => s.boardPowerW
  | .energyJ => s.energyJ
  | .memBwUtilPct => s.memBwUtilPct

/-- the line of /metrics, and its name -/
def DcgmGauge.line (printf : Printf K) (s : GpuSnapshot K) : DcgmGauge → CStr
  | .boardPowerW => boardPowerLine printf s
  | .energyJ => energyLine printf s
  | .memBwUtilPct => memBwLine printf s

def DcgmGauge.name : DcgmGauge → CStr
  | .boardPowerW => "gpu_board_power_watts".toList
  | .energyJ => "gpu_energy_joules_total".toList
  | .memBwUtilPct => "gpu_memory_bandwidth_utilization_ratio".toList

/-- the DCGM entry behind the gauge, and what it delivers; none for an error or a blank -/
def DcgmGauge.entry : DcgmGauge → PollField
  | .boardPowerW => .powerUsage
  | .energyJ => .totalEnergyConsumption
  | .memBwUtilPct => .memCopyUtil

def DcgmGauge.delivered (v : DcgmFieldValue) : DcgmGauge → Option (Dbl K)
  | .boardPowerW => deliveredPower v
  | .energyJ => deliveredInt 1000 v
  | .memBwUtilPct => deliveredInt 1 v

/-- the value DCGM delivered in the cycle, if any -/
def delivery (exp : Exporter K) (env : PollEnv) (g : DcgmGauge) : Option (Dbl K) :=
  if exp.dcgmAvailable ≠ 0 ∧ env.dcgm.ret = 0 then g.delivered (env.dcgm.val g.entry) else none

/-- the published field is the delivered value, and NaN, rendered as NaN, without one -/
def Honest (printf : Printf K) (exp : Exporter K) (env : PollEnv) (s : GpuSnapshot K) (g : DcgmGauge) : Prop :=
  g.value s = (delivery exp env g).getD .nan ∧
  (delivery exp env g = none → g.line printf s = sampleLine g.name s.serial nanText)

/-! ## The condition -/

/-- neither in error nor blank, and not the text of the sentinel -/
def Readable (v : DcgmFieldValue) : DcgmGauge → Prop
  | .boardPowerW => v.status = 0 ∧ if v.fieldType = ftInt64 then v.i64 < int64Blank ∧ v.i64 ≠ -1000
      else (v.dbl : Dbl K) < fp64Blank ∧ (v.dbl : Dbl K) ≠ .fin (-1)
  | .energyJ => v.status = 0 ∧ v.i64 < int64Blank ∧ v.i64 ≠ -1000
  | .memBwUtilPct => v.status = 0 ∧ v.i64 < int64Blank ∧ v.i64 ≠ -1

instance (v : DcgmFieldValue) (g : DcgmGauge) : Decidable (Readable (K := K) v g) :=
  match g with
  | .boardPowerW => inferInstanceAs (Decidable (_ ∧ ite _ (_ ∧ _) (_ ∧ _)))
  | .energyJ => inferInstanceAs (Decidable (_ ∧ _ ∧ _))
  | .memBwUtilPct => inferInstanceAs (Decidable (_ ∧ _ ∧ _))

/-- DCGM delivers a value the code can tell from its sentinel -/
def Delivers (exp : Exporter K) (env : PollEnv) (g : DcgmGauge) : Prop :=
  exp.dcgmAvailable ≠ 0 ∧ env.dcgm.ret = 0 ∧ Readable (K := K) (env.dcgm.val g.entry) g

/-- the reading of an integer entry is the sentinel for one value only -/
theorem scaled_ne_sentinel (i : ℤ) {n : ℤ} (hn : n ≠ 0) : (i : K) / (n : K) ≠ -1 ↔ i ≠ -n := by
  have hK : (n : K) ≠ 0 := by exact_mod_cast hn
  rw [ne_eq, ne_eq, not_iff_not, div_eq_iff hK]
  constructor
  · intro h
    have : ((i : ℤ) : K) = ((-n : ℤ) : K) := by rw [h]; push_cast; ring
    exact_mod_cast this
  · intro h
    rw [h]
    push_cast; ring

theorem readable_iff (v : DcgmFieldValue) (g : DcgmGauge) :
    Readable (K := K) v g ↔ ∃ x : Dbl K, g.delivered v = some x ∧ x ≠ unavailableDbl := by
  have h1000 := fun i => scaled_ne_sentinel (K := K) i (n := 1000) (by norm_num)
  have h1 := fun i => scaled_ne_sentinel (K := K) i (n := 1) one_ne_zero
  push_cast at h1000 h1
  cases g <;> simp only [Readable, DcgmGauge.delivered, deliveredPower, deliveredInt, unavailableDbl]
  · split_ifs <;> simp_all
  · split_ifs <;> simp_all
  · split_ifs <;> simp_all

/-! ## What the code publishes -/

/-- the gauge's field after the DCGM part of a cycle: a delivered value that is not the sentinel, or what was there -/
def overlay (delivered : Option (Dbl K)) (old : Dbl K) : Dbl K :=
  match delivered with
  | some x => if x ≠ unavailableDbl then x else old
  | none => old

theorem overlay_sentinel (delivered : Option (Dbl K)) (old : Dbl K) :
    (if delivered.getD unavailableDbl ≠ unavailableDbl then delivered.getD unavailableDbl else old) =
      overlay delivered old := by
  cases delivered <;> simp [overlay]

theorem dcgmState_gauges (exp : Exporter K) (env : PollEnv) (state : GpuState K) :
    (dcgmState exp env state).boardPowerW = overlay (delivery exp env .boardPowerW) state.boardPowerW ∧
    (dcgmState exp env state).energyJ = overlay (delivery exp env .energyJ) state.energyJ ∧
    (dcgmState exp env state).memBwUtilPct = overlay (delivery exp env .memBwUtilPct) state.memBwUtilPct := by
  simp only [dcgmState, dcgmPoll_eq, delivery]
  by_cases hav : exp.dcgmAvailable = 0
  · simp [hav, overlay]
  · by_cases hret : env.dcgm.ret = 0
    · simp only [hav, hret, ne_eq, not_false_eq_true, and_self, if_true, applyDcgmState, dcgmFields, overlay_sentinel,
        DcgmGauge.delivered, DcgmGauge.entry]
    · simp [hav, hret, overlay]

/-- a published gauge starts from 0.0 -/
theorem published_value {exp : Exporter K} {st : PollState K} {env : PollEnv} {s : GpuSnapshot K}
    (h : published exp st env = some s) (g : DcgmGauge) : g.value s = overlay (delivery exp env g) (.fin 0) := by
  obtain ⟨ctx, -, -, rfl⟩ := published_eq_some.1 h
  obtain ⟨h1, h2, h3⟩ := dcgmState_gauges exp env (nvmlState env.nvml (freshState ctx))
  have hstate : (publishedCtx exp ctx env).snapshot.boardPowerW = (publishedCtx exp ctx env).state.boardPowerW ∧
      (publishedCtx exp ctx env).snapshot.energyJ = (publishedCtx exp ctx env).state.energyJ ∧
      (publishedCtx exp ctx env).snapshot.memBwUtilPct = (publishedCtx exp ctx env).state.memBwUtilPct :=
    ⟨rfl, rfl, rfl⟩
  rw [(publishedCtx_frame exp ctx env).2.2.2] at hstate
  cases g with
  | boardPowerW => exact hstate.1.trans h1
  | energyJ => exact hstate.2.1.trans h2
  | memBwUtilPct => exact hstate.2.2.trans h3

theorem delivers_iff (exp : Exporter K) (env : PollEnv) (g : DcgmGauge) :
    Delivers exp env g ↔ ∃ x, delivery exp env g = some x ∧ x ≠ unavailableDbl := by
  simp only [Delivers, delivery, readable_iff]
  split_ifs with h
  · simp [h]
  · simp only [false_and, exists_false, iff_false]
    intro hd
    exact h ⟨hd.1, hd.2.1⟩

/-- **Missing data is never shown as such.** A published field is honest exactly when DCGM delivered it. -/
theorem honest_iff (printf : Printf K) {exp : Exporter K} {st : PollState K} {env : PollEnv} {s : GpuSnapshot K}
    (h : published exp st env = some s) (g : DcgmGauge) : Honest printf exp env s g ↔ Delivers exp env g := by
  rw [delivers_iff, Honest, published_value h]
  constructor
  · intro hhonest
    have hvalue := hhonest.1
    cases hd : delivery exp env g with
    | none => rw [hd] at hvalue; cases hvalue
    | some x =>
      refine ⟨x, rfl, ?_⟩
      rintro rfl
      simp only [hd, overlay, unavailableDbl, ne_eq, not_true_eq_false, if_false, Option.getD_some, Dbl.fin.injEq] at hvalue
      exact absurd hvalue (by norm_num)
  · intro hdelivers
    obtain ⟨x, hd, hx⟩ := hdelivers
    constructor
    · simp [hd, overlay, hx]
    · intro hnone
      rw [hd] at hnone
      cases hnone

/-- one cycle in which DCGM delivers a board power of 250 W, as 250000 mW -/
def deliveringEnv : PollEnv := { quietEnv 0 with dcgm := ⟨0, fun _ => ⟨ftInt64, 0, 250000⟩⟩ }

def textPrintf : Printf ℚ := ⟨printG, printF 4⟩

theorem honest_delivered : ∃ s, published dcgmExporter (collectorStart .zeroed dcgmExporter) deliveringEnv = some s ∧
    s.boardPowerW = .fin 250 ∧
    boardPowerLine textPrintf s = "gpu_board_power_watts\x7bserial=\"\"\x7d 250\n".toList ∧
    Honest textPrintf dcgmExporter deliveringEnv s .boardPowerW := by
  have hpub : (published dcgmExporter (collectorStart .zeroed dcgmExporter) deliveringEnv).map
      (fun s => (s.boardPowerW, s.serial)) = some (.fin 250, []) := by decide +kernel
  obtain ⟨s, hs, hfields⟩ := Option.map_eq_some_iff.1 hpub
  obtain ⟨hpower, hserial⟩ := Prod.mk.inj hfields
  refine ⟨s, hs, hpower, ?_, (honest_iff textPrintf hs .boardPowerW).2 ⟨by decide, rfl, by decide +kernel⟩⟩
  simp only [boardPowerLine, gaugeNan, hpower, hserial, Dbl.isnan_fin]
  decide +kernel

/-! ## DCGM absent -/

/-- without DCGM the first snapshot shows a board power of 0 W, which /metrics renders as a number -/
theorem absent_shown_as_zero : ∃ s, published smallExporter (collectorStart .zeroed smallExporter) (quietEnv 0) = some s ∧
    s.boardPowerW = .fin 0 ∧ boardPowerLine textPrintf s = "gpu_board_power_watts\x7bserial=\"\"\x7d 0\n".toList ∧
    ¬ Honest textPrintf smallExporter (quietEnv 0) s .boardPowerW := by
  have hpub : (published smallExporter (collectorStart .zeroed smallExporter) (quietEnv 0)).map
      (fun s => (s.boardPowerW, s.serial)) = some (.fin 0, []) := by decide +kernel
  obtain ⟨s, hs, hfields⟩ := Option.map_eq_some_iff.1 hpub
  obtain ⟨hpower, hserial⟩ := Prod.mk.inj hfields
  refine ⟨s, hs, hpower, ?_, ?_⟩
  · simp only [boardPowerLine, gaugeNan, hpower, hserial, Dbl.isnan_fin]
    decide +kernel
  · intro hhonest
    have hvalue := hhonest.1
    have hnone : (delivery smallExporter (quietEnv 0) .boardPowerW).getD .nan = .nan := by decide +kernel
    rw [DcgmGauge.value, hpower, hnone] at hvalue
    cases hvalue

end GpuHealth.DcgmAbsence
