/-
When one score is no better than another.

`severity` orders the classes; N/A says that nothing is known and is compared with itself only. `NoBetter` compares two
results: the score is at most the other's and the class at least as severe. `noBetter_of_gate` and `noBetter_of_penalty`
are its two rules: behind a failed gate, and from the penalties of two inputs behind a passed one. They serve every
comparison of two runs of `score_gpu`.
-/
import GpuHealth.Scenarios.PenaltyTable

namespace GpuHealth.ScoreOrder

open GpuHealth.Ring GpuHealth.Scorer GpuHealth.WindowScore GpuHealth.Config GpuHealth.PenaltyTable

variable {K : Type} [Arith K]

/-- the order of the classes with a score -/
def severity : GpuClass → ℕ
  | .na => 0
  | .healthy => 0
  | .monitor => 1
  | .degrading => 2
  | .decommission => 3

structure NoBetter (worse better : GpuScoreResult K) : Prop where
  score : worse.score ≤ better.score
  na : worse.classification = .na ↔ better.classification = .na
  severity : severity better.classification ≤ severity worse.classification

/-- a lower score has no milder class -/
theorem classOf_antitone {x y : K} (h : x ≤ y) : severity (classOf y) ≤ severity (classOf x) := by
  unfold classOf
  by_cases h85 : 85 ≤ x
  · rw [if_pos h85, if_pos (h85.trans h)]
  rw [if_neg h85]
  by_cases h70 : 70 ≤ x
  · rw [if_pos h70]
    split_ifs <;> simp [severity, h70.trans h] at *
  rw [if_neg h70]
  by_cases h50 : 50 ≤ x
  · rw [if_pos h50]
    split_ifs <;> simp [severity, h50.trans h] at *
  · rw [if_neg h50]
    split_ifs <;> simp [severity]

theorem classOf_ne_na (x : K) : classOf x ≠ .na := by
  unfold classOf
  split_ifs <;> simp

/-- two failed gates -/
theorem noBetter_of_gate {malloc malloc' : P95Malloc} {ring ring' : GpuRing K} {state state' : GpuState K}
    {baseline baseline' : Option (GpuBaseline K)} {probe probe' : Option (GpuProbeResult K)} {cfg : GpuConfig (Dbl K)}
    (hgate : completenessGate ring cfg = 0) (hgate' : completenessGate ring' cfg = 0) :
    NoBetter (scoreGpu malloc' ring' state' baseline' probe' cfg) (scoreGpu malloc ring state baseline probe cfg) := by
  simp only [scoreGpu, if_pos hgate, if_pos hgate']
  exact ⟨(Dbl.fin_le_fin _ _).2 le_rfl, Iff.rfl, le_rfl⟩

/-- two results behind a passed gate, by what their penalties leave of the 100 -/
theorem noBetter_of_penalty {st st' : WindowStats K} {state state' : GpuState K}
    {baseline baseline' : Option (GpuBaseline K)} {probe probe' : Option (GpuProbeResult K)} {cfg : GpuConfig (Dbl K)}
    {x y : K} (hx : (penalties st' state' baseline' probe' cfg).score = .fin x)
    (hy : (penalties st state baseline probe cfg).score = .fin y) (h : max 0 x ≤ max 0 y) :
    NoBetter (scoreStats st' state' baseline' probe' cfg) (scoreStats st state baseline probe cfg) := by
  have hscore' := scoreStats_score hx
  have hscore := scoreStats_score hy
  have hclass' : (scoreStats st' state' baseline' probe' cfg).classification = classOf (max 0 x) := by
    rw [← classify_fin, ← hscore']
    rfl
  have hclass : (scoreStats st state baseline probe cfg).classification = classOf (max 0 y) := by
    rw [← classify_fin, ← hscore]
    rfl
  refine ⟨?_, ?_, ?_⟩
  · rw [hscore, hscore', Dbl.fin_le_fin]
    exact h
  · rw [hclass, hclass']
    exact iff_of_false (classOf_ne_na _) (classOf_ne_na _)
  · rw [hclass, hclass']
    exact classOf_antitone h

end GpuHealth.ScoreOrder
