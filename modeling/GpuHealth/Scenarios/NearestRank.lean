/-
`ring_p95` is the nearest-rank 95th percentile.

`p95_nearest_rank`: for every ring with a sample, `ring_p95` returns an element of the window with at least 95 % of the
values up to it and less than 95 % below it. There is one such element, and it is what the call returns on the stack
path (up to 300 samples, whatever `malloc` does) and on the heap path. Any ring with the same values in another order
gives the same result.
Witness `p95_nearest_rank_twenty`: 20 samples, the 19th in order.

Premises: values and the rank 0.95 n are exact rationals, and above 300 samples `malloc` serves the call. (In doubles
0.95 n rounds to the exact product where n is a multiple of 20, and is 0.05 away from an integer elsewhere, so that the
rank is the same.)
-/
import GpuHealth.WindowScore

namespace GpuHealth.NearestRank

open GpuHealth.Ring GpuHealth.Scorer GpuHealth.WindowScore GpuHealth.ListStats

variable {K : Type} [Arith K]

/-- the values of one field, oldest sample first -/
def values (ring : GpuRing K) (field : GpuSample K → K) : List K := (window ring).map field

/-- `ring_p95` has a buffer: on the stack, or from `malloc` -/
def Served (malloc : Bool) (ring : GpuRing K) : Prop := 300 < ring.count → malloc = true

theorem values_ne_nil {ring : GpuRing K} (hring : RingWf ring) (hcount : 1 ≤ ring.count) (field : GpuSample K → K) :
    values ring field ≠ [] := by
  rw [values, Ne, List.map_eq_nil_iff, window_eq_nil hring]
  omega

/-- both paths sort and read the same rank -/
theorem ringP95_served {ring : GpuRing K} (hring : RingWf ring) (hcount : 1 ≤ ring.count) {malloc : Bool}
    (hserved : Served malloc ring) (field : GpuSample K → K) : ∃ v, ringP95 malloc ring field = .fin v ∧
      IsQuantile (95 / 100) (values ring field) v := by
  have hne := values_ne_nil hring hcount field
  have hlength : ((values ring field).length : ℤ) = ring.count := by
    rw [values, List.length_map, window_length hring]
  refine ⟨_, ?_, sorted_quantile (by norm_num) (by norm_num) hne⟩
  rw [ringP95_eq hring, windowP95, if_neg]
  · rfl
  · rintro (hnil | ⟨hlong, hfailed⟩)
    · exact hne hnil
    · rw [hserved (by rw [← hlength]; exact_mod_cast hlong)] at hfailed
      cases hfailed

/-- **`ring_p95` is the nearest-rank order statistic.** -/
theorem p95_nearest_rank {ring : GpuRing K} (hring : RingWf ring) (hcount : 1 ≤ ring.count) (field : GpuSample K → K) :
    (∃ v, IsQuantile (95 / 100) (values ring field) v ∧
      ∀ malloc, Served malloc ring → ringP95 malloc ring field = .fin v) ∧
    ∀ ring' : GpuRing K, RingWf ring' → (values ring' field).Perm (values ring field) →
      ∀ malloc malloc', Served malloc ring → Served malloc' ring' →
        ringP95 malloc' ring' field = ringP95 malloc ring field := by
  refine ⟨?_, ?_⟩
  · obtain ⟨v, -, hv⟩ := ringP95_served hring hcount (fun _ => rfl) field
    refine ⟨v, hv, ?_⟩
    intro malloc hserved
    obtain ⟨w, hw, hquantile⟩ := ringP95_served hring hcount hserved field
    rw [hw, hv.unique hquantile]
  · intro ring' hring' hperm malloc malloc' hserved hserved'
    have hcount' : 1 ≤ ring'.count := by
      have hlength := hperm.length_eq
      rw [values, values, List.length_map, List.length_map] at hlength
      have h := window_length hring
      have h' := window_length hring'
      omega
    obtain ⟨v, hv, hquantile⟩ := ringP95_served hring hcount hserved field
    obtain ⟨w, hw, hquantile'⟩ := ringP95_served hring' hcount' hserved' field
    rw [hv, hw, (hquantile'.perm hperm).unique hquantile]

/-- 20 samples at 1, 2, …, 20 degrees, the last two slots first in time -/
def twenty : GpuRing ℚ :=
  ⟨(List.range 20).map fun i => { GpuSample.zeroed with tempC := (i : ℚ) + 1 }, 18, 20, 20⟩

theorem p95_nearest_rank_twenty : ∃ v, IsQuantile (95 / 100) (values twenty GpuSample.tempC) v ∧
    ∀ malloc, Served malloc twenty → ringP95 malloc twenty GpuSample.tempC = .fin v := by
  have hwf : RingWf twenty := by
    refine ⟨?_, ?_, ?_, ?_, rfl⟩ <;> decide
  exact (p95_nearest_rank hwf (by decide) GpuSample.tempC).1

example : ringP95 false twenty GpuSample.tempC = .fin 19 := by decide +kernel

end GpuHealth.NearestRank
