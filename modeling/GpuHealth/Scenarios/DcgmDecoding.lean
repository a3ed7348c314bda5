/-
Whether `dcgm_poll` decodes soundly.

The property (`DecodesSoundly`): for every result array of a successful `GetLatestValues`, each output of `dcgm_poll` is
its sentinel or the exact value of a non-negative, non-blank payload with OK status for this field; so is each field
`apply_dcgm_state` then writes; and an output depends on its own entry only. It fails: the cases of LAST_XID and
ROW_REMAP_FAILURE guard the sign, the other ten do not, so a negative power or energy is published and a negative count
wraps around to nearly 2^64 (`negative_count_wraps`).

`decodes_iff`: for every result array, the property holds if and only if no entry of the ten fields has OK status and a
negative payload, other than the payload that decodes to the sentinel itself.
-/
import GpuHealth.Scenarios.DcgmAbsence

namespace GpuHealth.DcgmDecoding

open GpuHealth.Nvml GpuHealth.Dcgm GpuHealth.DcgmAbsence

variable {K : Type} [Arith K]

/-! ## Outputs -/

inductive DcgmOut (K : Type) where
  | dbl (x : Dbl K)
  | u64 (n : UInt64)
  | u32 (n : UInt32)

/-- the output of a field -/
def outOf (d : DcgmFields K) : PollField → DcgmOut K
  | .powerUsage => .dbl d.powerW
  | .totalEnergyConsumption => .dbl d.energyJ
  | .memCopyUtil => .dbl d.memBwUtilPct
  | .powerViolation => .u64 d.powerViolationUs
  | .thermalViolation => .u64 d.thermalViolationUs
  | .nvlinkCrcFlitErrorCountTotal => .u64 d.nvlinkCrc
  | .nvlinkReplayErrorCountTotal => .u64 d.nvlinkReplay
  | .nvlinkRecoveryErrorCountTotal => .u64 d.nvlinkRecovery
  | .xidErrors => .u64 d.xidCount
  | .lastXid => .u32 d.xidLastCode
  | .pcieReplayCounter => .u64 d.pcieReplay
  | .rowRemapFailure => .u32 d.rowRemapFailures

/-- the member of the state that `apply_dcgm_state` writes for a field -/
def stateOf (state : GpuState K) : PollField → DcgmOut K
  | .powerUsage => .dbl state.boardPowerW
  | .totalEnergyConsumption => .dbl state.energyJ
  | .memCopyUtil => .dbl state.memBwUtilPct
  | .powerViolation => .u64 state.powerViolationUs
  | .thermalViolation => .u64 state.thermalViolationUs
  | .nvlinkCrcFlitErrorCountTotal => .u64 state.nvlinkCrcCount
  | .nvlinkReplayErrorCountTotal => .u64 state.nvlinkReplayCount
  | .nvlinkRecoveryErrorCountTotal => .u64 state.nvlinkRecoveryCount
  | .xidErrors => .u64 state.xidCount
  | .lastXid => .u32 state.xidLastCode
  | .pcieReplayCounter => .u64 state.pcieReplayCount
  | .rowRemapFailure => .u32 state.rowRemapFailures

def DcgmOut.IsSentinel : DcgmOut K → Prop
  | .dbl x => x = unavailableDbl
  | .u64 n => n = unavailableU64
  | .u32 n => n = unavailableU32

/-! ## The property -/

/-- a non-negative, non-blank integer payload with OK status -/
structure IntPayload (v : DcgmFieldValue) : Prop where
  ok : v.status = 0
  nonneg : 0 ≤ v.i64
  present : v.i64 < int64Blank

/-- the same for a double -/
structure DblPayload (K : Type) [Arith K] (v : DcgmFieldValue) : Prop where
  ok : v.status = 0
  nonneg : (.fin 0 : Dbl K) ≤ v.dbl
  present : (v.dbl : Dbl K) < fp64Blank

/-- the divisor of an integer payload: mW to W, mJ to J -/
def scale : PollField → K
  | .powerUsage => 1000
  | .totalEnergyConsumption => 1000
  | _ => 1

/-- the output is the exact value of the entry's payload -/
def Exact (f : PollField) (v : DcgmFieldValue) : DcgmOut K → Prop
  | .dbl x =>
    if f = .powerUsage ∧ v.fieldType ≠ ftInt64 then DblPayload K v ∧ x = v.dbl
    else IntPayload v ∧ x = .fin ((v.i64 : K) / scale f)
  | .u64 n => IntPayload v ∧ (n.toNat : ℤ) = v.i64
  | .u32 n => IntPayload v ∧ (n.toNat : ℤ) = v.i64

structure Sound (values : PollField → DcgmFieldValue) (d : DcgmFields K) : Prop where
  output : ∀ f, (outOf d f).IsSentinel ∨ Exact f (values f) (outOf d f)
  applied : ∀ state f, stateOf (applyDcgmState state d) f = stateOf state f ∨
    Exact f (values f) (stateOf (applyDcgmState state d) f)
  independent : ∀ (values' : PollField → DcgmFieldValue) (d' : DcgmFields K) (f : PollField),
    dcgmPoll ⟨0, values'⟩ = some d' → values' f = values f → outOf d' f = outOf d f

/-- the poll that gets `values` -/
def DecodesSoundly (K : Type) [Arith K] (values : PollField → DcgmFieldValue) : Prop :=
  ∃ d : DcgmFields K, dcgmPoll ⟨0, values⟩ = some d ∧ Sound values d

/-! ## The condition -/

/-- if the entry has OK status and its field's case does not guard the sign, then the payload is not negative, or it is
the one that decodes to -1 -/
def Guarded (K : Type) [Arith K] (v : DcgmFieldValue) : PollField → Prop
  | .powerUsage => v.status = 0 →
    if v.fieldType = ftInt64 then v.i64 < 0 → v.i64 = -1000
    else (v.dbl : Dbl K) < .fin 0 → (v.dbl : Dbl K) = .fin (-1)
  | .totalEnergyConsumption => v.status = 0 → v.i64 < 0 → v.i64 = -1000
  | .lastXid => True
  | .rowRemapFailure => True
  | _ => v.status = 0 → v.i64 < 0 → v.i64 = -1

/-! ## Payloads -/

theorem i64_eq (v : DcgmFieldValue) :
    v.i64 = if v.bits.toNat < 2 ^ 63 then (v.bits.toNat : ℤ) else (v.bits.toNat : ℤ) - 2 ^ 64 := by
  have hsame : v.bits.toBitVec.toNat = v.bits.toNat := rfl
  rw [DcgmFieldValue.i64, BitVec.toInt_eq_toNat_cond, hsame]
  split_ifs <;> omega

/-- the cast to unsigned is exact on a non-negative payload -/
theorem toNat_of_i64 {v : DcgmFieldValue} (h : 0 ≤ v.i64) : (v.bits.toNat : ℤ) = v.i64 := by
  have hlt := v.bits.toNat_lt
  rw [i64_eq] at h ⊢
  split_ifs at h ⊢
  · rfl
  · omega

theorem bits_sentinel_iff (v : DcgmFieldValue) : v.bits = unavailableU64 ↔ v.i64 = -1 := by
  have hsentinel : unavailableU64.toNat = 2 ^ 64 - 1 := rfl
  have hlt := v.bits.toNat_lt
  rw [← UInt64.toNat_inj, hsentinel, i64_eq]
  split_ifs with h
  · exact iff_of_false (by omega) not_false
  · omega

/-- a payload under the blank of doubles is a number or minus infinity -/
theorem dbl_lt_blank {x : Dbl K} (h : x < fp64Blank) : x = .ninf ∨ x.IsFin := by
  cases x with
  | nan => exact absurd h (Dbl.not_nan_lt _)
  | ninf => exact .inl rfl
  | fin a => exact .inr ⟨a, rfl⟩
  | pinf => exact Bool.noConfusion (show false = true from h)

/-! ## One field -/

theorem u64_sound_iff (v : DcgmFieldValue) (n : UInt64) (hn : n = (deliveredU64 v).getD unavailableU64) :
    (n = unavailableU64 ∨ (IntPayload v ∧ (n.toNat : ℤ) = v.i64)) ↔ (v.status = 0 → v.i64 < 0 → v.i64 = -1) := by
  by_cases hok : v.status = 0
  · by_cases hblank : v.i64 < int64Blank
    · have hbits : n = v.bits := by simpa [deliveredU64, hok, hblank] using hn
      rw [hbits, bits_sentinel_iff]
      refine ⟨?_, fun hguard => ?_⟩
      · rintro (hone | hexact) - hneg
        · exact hone
        · exact absurd hexact.1.nonneg (by omega)
      · by_cases hneg : v.i64 < 0
        · exact .inl (hguard hok hneg)
        · exact .inr ⟨⟨hok, by omega, hblank⟩, toNat_of_i64 (by omega)⟩
    · have hsentinel : n = unavailableU64 := by simpa [deliveredU64, hok, hblank] using hn
      refine ⟨fun _ _ hneg => ?_, fun _ => .inl hsentinel⟩
      exact absurd hneg (by unfold int64Blank at hblank; omega)
  · have hsentinel : n = unavailableU64 := by simpa [deliveredU64, hok] using hn
    exact ⟨fun _ hstatus => absurd hstatus hok, fun _ => .inl hsentinel⟩

/-- the guarded cases are sound for every payload -/
theorem u32_sound (v : DcgmFieldValue) (n : UInt32) (hn : n = (deliveredU32 v).getD unavailableU32) :
    n = unavailableU32 ∨ (IntPayload v ∧ (n.toNat : ℤ) = v.i64) := by
  rw [hn, deliveredU32]
  split_ifs with hok hrange
  · exact .inl rfl
  · rw [Option.getD_some, u32OfI64]
    split_ifs with hword
    · refine .inr ⟨⟨not_not.1 hok, hrange.1, hrange.2⟩, ?_⟩
      rw [show (UInt32.ofInt v.i64).toNat = (v.i64 % 2 ^ 32).toNat % 2 ^ 32 from rfl]
      omega
    · exact .inl rfl
  · exact .inl rfl

theorem int_sound_iff (v : DcgmFieldValue) {s : ℤ} (hs : 0 < s) (x : Dbl K)
    (hx : x = (deliveredInt (s : K) v).getD unavailableDbl) :
    (x = unavailableDbl ∨ (IntPayload v ∧ x = .fin ((v.i64 : K) / (s : K)))) ↔
      (v.status = 0 → v.i64 < 0 → v.i64 = -s) := by
  by_cases hok : v.status = 0
  · by_cases hblank : v.i64 < int64Blank
    · have hvalue : x = .fin ((v.i64 : K) / (s : K)) := by simpa [deliveredInt, hok, hblank] using hx
      have hone : x = unavailableDbl ↔ v.i64 = -s := by
        rw [hvalue, unavailableDbl, Dbl.fin.injEq, ← not_iff_not]
        exact scaled_ne_sentinel v.i64 hs.ne'
      rw [hone]
      refine ⟨?_, fun hguard => ?_⟩
      · rintro (h | hexact) - hneg
        · exact h
        · exact absurd hexact.1.nonneg (by omega)
      · by_cases hneg : v.i64 < 0
        · exact .inl (hguard hok hneg)
        · exact .inr ⟨⟨hok, by omega, hblank⟩, hvalue⟩
    · have hsentinel : x = unavailableDbl := by simpa [deliveredInt, hok, hblank] using hx
      refine ⟨fun _ _ hneg => ?_, fun _ => .inl hsentinel⟩
      exact absurd hneg (by unfold int64Blank at hblank; omega)
  · have hsentinel : x = unavailableDbl := by simpa [deliveredInt, hok] using hx
    exact ⟨fun _ hstatus => absurd hstatus hok, fun _ => .inl hsentinel⟩

/-- a power entry of DCGM 3.x -/
theorem dbl_sound_iff (v : DcgmFieldValue) (htype : v.fieldType ≠ ftInt64) (x : Dbl K)
    (hx : x = (deliveredPower v).getD unavailableDbl) :
    (x = unavailableDbl ∨ (DblPayload K v ∧ x = v.dbl)) ↔
      (v.status = 0 → (v.dbl : Dbl K) < .fin 0 → (v.dbl : Dbl K) = .fin (-1)) := by
  by_cases hok : v.status = 0
  · by_cases hblank : (v.dbl : Dbl K) < fp64Blank
    · have hvalue : x = v.dbl := by simpa [deliveredPower, hok, htype, hblank] using hx
      rw [hvalue]
      refine ⟨?_, fun hguard => ?_⟩
      · rintro (h | hexact) - hneg
        · exact h
        · rcases dbl_lt_blank hblank with hinf | ⟨a, ha⟩
          · have hnonneg := hexact.1.nonneg
            rw [hinf] at hnonneg
            rcases hnonneg with h | ⟨h, -⟩
            · exact absurd h (Dbl.not_lt_ninf _)
            · cases h
          · have hnonneg := hexact.1.nonneg
            rw [ha] at hneg hnonneg
            exact absurd ((Dbl.fin_lt_fin _ _).1 hneg) (not_lt.2 ((Dbl.fin_le_fin _ _).1 hnonneg))
      · by_cases hneg : (v.dbl : Dbl K) < .fin 0
        · exact .inl (hguard hok hneg)
        · refine .inr ⟨⟨hok, ?_, hblank⟩, rfl⟩
          rcases dbl_lt_blank hblank with hinf | ⟨a, ha⟩
          · exact absurd (hinf ▸ Dbl.ninf_lt_fin (0 : K)) hneg
          · rw [ha] at hneg ⊢
            exact (Dbl.fin_le_fin _ _).2 (not_lt.1 fun h => hneg ((Dbl.fin_lt_fin _ _).2 h))
    · have hsentinel : x = unavailableDbl := by simpa [deliveredPower, hok, htype, hblank] using hx
      refine ⟨fun _ _ hneg => absurd ?_ hblank, fun _ => .inl hsentinel⟩
      cases hd : (v.dbl : Dbl K) with
      | nan => rw [hd] at hneg; exact absurd hneg (Dbl.not_nan_lt _)
      | ninf => exact Dbl.ninf_lt_fin _
      | fin a =>
        rw [hd, Dbl.fin_lt_fin] at hneg
        exact (Dbl.fin_lt_fin _ _).2 (hneg.trans (by norm_num))
      | pinf => rw [hd] at hneg; exact Bool.noConfusion (show false = true from hneg)
  · have hsentinel : x = unavailableDbl := by simpa [deliveredPower, hok] using hx
    exact ⟨fun _ hstatus => absurd hstatus hok, fun _ => .inl hsentinel⟩

/-- **One field decodes soundly exactly when its entry is guarded.** -/
theorem output_iff (values : PollField → DcgmFieldValue) (f : PollField) :
    ((outOf (dcgmFields values : DcgmFields K) f).IsSentinel ∨
      Exact f (values f) (outOf (dcgmFields values : DcgmFields K) f)) ↔ Guarded K (values f) f := by
  have hmilli : ((1000 : ℤ) : K) = 1000 := by norm_num
  have hunit : ((1 : ℤ) : K) = 1 := by norm_num
  cases f with
  | powerUsage =>
    by_cases htype : (values .powerUsage).fieldType = ftInt64
    · have hint := int_sound_iff (K := K) (values .powerUsage) (s := 1000) (by norm_num) _ rfl
      rw [hmilli] at hint
      simpa [outOf, dcgmFields, DcgmOut.IsSentinel, Exact, Guarded, htype, deliveredPower, deliveredInt, scale] using hint
    · have hdbl := dbl_sound_iff (K := K) (values .powerUsage) htype _ rfl
      simpa [outOf, dcgmFields, DcgmOut.IsSentinel, Exact, Guarded, htype] using hdbl
  | totalEnergyConsumption =>
    have hint := int_sound_iff (K := K) (values .totalEnergyConsumption) (s := 1000) (by norm_num) _ rfl
    rw [hmilli] at hint
    simpa [outOf, dcgmFields, DcgmOut.IsSentinel, Exact, Guarded, scale] using hint
  | memCopyUtil =>
    have hint := int_sound_iff (K := K) (values .memCopyUtil) (s := 1) (by norm_num) _ rfl
    rw [hunit] at hint
    simpa [outOf, dcgmFields, DcgmOut.IsSentinel, Exact, Guarded, scale] using hint
  | lastXid => exact iff_true_intro (u32_sound _ _ rfl)
  | rowRemapFailure => exact iff_true_intro (u32_sound _ _ rfl)
  | _ => exact u64_sound_iff _ _ rfl

/-! ## The poll -/

/-- what `apply_dcgm_state` writes is an output that is not the sentinel -/
theorem applied_eq (state : GpuState K) (d : DcgmFields K) (f : PollField) :
    ((outOf d f).IsSentinel ∧ stateOf (applyDcgmState state d) f = stateOf state f) ∨
      (¬ (outOf d f).IsSentinel ∧ stateOf (applyDcgmState state d) f = outOf d f) := by
  cases f <;> simp only [outOf, stateOf, applyDcgmState, DcgmOut.IsSentinel] <;> split_ifs <;> simp_all

/-- the output of a field depends on its own entry -/
theorem outOf_congr {values values' : PollField → DcgmFieldValue} {f : PollField} (h : values' f = values f) :
    outOf (dcgmFields values' : DcgmFields K) f = outOf (dcgmFields values) f := by
  cases f <;> simp only [outOf, dcgmFields, h]

theorem poll_ok (values : PollField → DcgmFieldValue) (d : DcgmFields K) :
    dcgmPoll ⟨0, values⟩ = some d ↔ d = dcgmFields values := by
  rw [dcgmPoll_eq, if_pos rfl, Option.some.injEq, eq_comm]

/-- **Decoding is sound exactly when no unguarded case meets a negative payload.** -/
theorem decodes_iff (values : PollField → DcgmFieldValue) :
    DecodesSoundly K values ↔ ∀ f, Guarded K (values f) f := by
  refine ⟨?_, fun hguard => ?_⟩
  · rintro ⟨d, hd, hsound⟩ f
    rw [poll_ok] at hd
    subst hd
    exact (output_iff values f).1 (hsound.output f)
  · have houtput : ∀ f, (outOf (dcgmFields values : DcgmFields K) f).IsSentinel ∨
        Exact f (values f) (outOf (dcgmFields values : DcgmFields K) f) := fun f => (output_iff values f).2 (hguard f)
    refine ⟨dcgmFields values, (poll_ok values _).2 rfl, houtput, fun state f => ?_, fun values' d' f hd' hf => ?_⟩
    · rcases applied_eq state (dcgmFields values) f with ⟨-, hkept⟩ | ⟨hvalue, hwritten⟩
      · exact .inl hkept
      · rw [hwritten]
        exact .inr ((houtput f).resolve_left hvalue)
    · rw [(poll_ok values' d').1 hd']
      exact outOf_congr hf

/-! ## A negative payload -/

/-- every entry blank but an XID count of -2 -/
def negativeCount : PollField → DcgmFieldValue := fun f =>
  ⟨ftInt64, 0, if f = .xidErrors then 0xFFFFFFFFFFFFFFFE else 0x7FFFFFFFFFFFFFF0⟩

/-- a count of -2 is read as 2^64 - 2 and copied into the state -/
theorem negative_count_wraps : ∃ d : DcgmFields ℚ, dcgmPoll ⟨0, negativeCount⟩ = some d ∧
    d.xidCount = 0xFFFFFFFFFFFFFFFE ∧ (negativeCount .xidErrors).i64 = -2 ∧
    (∀ state : GpuState ℚ, (applyDcgmState state d).xidCount = 0xFFFFFFFFFFFFFFFE) ∧
    ¬ DecodesSoundly ℚ negativeCount := by
  have hcount : (dcgmFields negativeCount : DcgmFields ℚ).xidCount = 0xFFFFFFFFFFFFFFFE := by decide
  refine ⟨dcgmFields negativeCount, (poll_ok _ _).2 rfl, hcount, by decide, fun state => ?_, ?_⟩
  · simp only [applyDcgmState, hcount]
    rfl
  · rintro ⟨d, hd, hsound⟩
    have hguard := (output_iff negativeCount .xidErrors).1 ((poll_ok _ _).1 hd ▸ hsound.output .xidErrors)
    exact absurd (hguard rfl (by decide)) (by decide)

end GpuHealth.DcgmDecoding
