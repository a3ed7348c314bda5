/-
Whether the TTL check of `probe_load` is one of integers.

The property (`TtlExact`): a probe file that is accepted denotes a date-time, and its result is stale if and only if the
current time is more than probe_ttl_s seconds after it, as integers. It fails before 1970: `parse_iso8601` casts the
negative second to an unsigned one, which lies in the far future, so that a result of any age is fresh
(`before_epoch_fresh`).

`ttl_iff`: for every accepted file, current time and positive TTL, the property holds if and only if the date-time is
not before 1970, or not older than the TTL; or (no clock shows such times) the current time is 2^64 s past its expiry.
Witness `ttl_iff_aged`: a result a minute older than its TTL.

Premises: `timegm` counts signed seconds from 1970 on, and the current time is what `time_now_s` returns.
-/
import GpuHealth.Calendar
import GpuHealth.StateText

namespace GpuHealth.ProbeTtl

open GpuHealth.CText GpuHealth.State GpuHealth.StateText GpuHealth.Settings GpuHealth.Calendar

variable {K : Type} [Arith K]

/-! ## The property -/

/-- the second the file's last probe_timestamp denotes -/
def denoted (file : CStr) : Option ℤ :=
  (lastText (probeSettings (fgetsLines 512 file)) .probeTimestamp).bind fun t => (strptimeIso t).map timegm

def TtlExact (K : Type) [Arith K] (file : CStr) (ttl : ℤ) (now : UInt64) : Prop :=
  ∃ t, denoted file = some t ∧ ((probeLoad (some file) ttl now : GpuProbeResult K).stale = 1 ↔ ttl < now.toNat - t)

/-! ## The condition -/

/-- the cast of the stamp does not change the verdict -/
def InRange (ttl : ℤ) (now : UInt64) (t : ℤ) : Prop := 0 ≤ t ∨ now.toNat - t ≤ ttl ∨ 2 ^ 64 + ttl < now.toNat - t

/-! ## The stamp of an accepted file -/

/-- the cast to unsigned adds 2^64 to a negative second -/
theorem u64_of_negative {n : ℤ} (hneg : n < 0) (hmin : -(2 ^ 64) ≤ n) : ((UInt64.ofInt n).toNat : ℤ) = n + 2 ^ 64 := by
  have hmod : n % 2 ^ 64 = n + 2 ^ 64 := by omega
  have hsmall : (n + 2 ^ 64).toNat < 2 ^ 64 := by omega
  rw [UInt64.ofInt, hmod, UInt64.toNat_ofNat', Nat.mod_eq_of_lt hsmall, Int.toNat_of_nonneg (by omega)]

theorem parseIso8601_ne_zero {s : CStr} (h : parseIso8601 s ≠ 0) :
    ∃ tm, strptimeIso s = some tm ∧ parseIso8601 s = UInt64.ofInt (timegm tm) := by
  unfold parseIso8601 at h ⊢
  cases htm : strptimeIso s with
  | none =>
    rw [htm] at h
    exact absurd rfl h
  | some tm =>
    rw [htm] at h
    dsimp only at h ⊢
    split_ifs at h ⊢ with hone
    · exact absurd rfl h
    · exact ⟨tm, rfl, rfl⟩

/-- an accepted file denotes a second, and the loader stores its cast -/
theorem accepted_denotes {file : CStr} (h : (probeScan file : ProbeScan K).accepted = true) :
    ∃ t, denoted file = some t ∧ -(2 ^ 39) < t ∧ t < 2 ^ 39 ∧
      (probeScan file : ProbeScan K).out.probeTimestampS = UInt64.ofInt t := by
  obtain ⟨hclean, hall⟩ := (probeAccepted_iff file).1 h
  obtain ⟨text, htext⟩ := Option.isSome_iff_exists.1 (lastText_isSome.2 (hall .probeTimestamp rfl))
  obtain ⟨v, hv, hvalue⟩ := value_of_lastText (probeRules K) hclean rfl htext
  have hstored := (probeScan_reads (K := K) file).field hclean .probeTimestamp
  change StateValue.time (probeScan file : ProbeScan K).out.probeTimestampS =
    ((probeRules K).value (probeSettings (fgetsLines 512 file)) .probeTimestamp).getD _ at hstored
  rw [hvalue, Option.getD_some] at hstored
  change isoTime K text = some v at hv
  unfold isoTime at hv
  split_ifs at hv with hzero
  obtain ⟨tm, htm, hcast⟩ := parseIso8601_ne_zero hzero
  obtain ⟨hmin, hmax⟩ := timegm_range htm
  refine ⟨timegm tm, ?_, hmin, hmax, ?_⟩
  · rw [denoted, htext, Option.bind_some, htm, Option.map_some]
  · rw [← hcast]
    exact StateValue.time.inj (hstored.trans (Option.some.inj hv).symm)

/-! ## The check -/

/-- the guard and the unsigned difference, as one comparison of integers -/
theorem expired_iff {ttl : ℤ} (h0 : 0 < ttl) (h31 : ttl < 2 ^ 31) (now stamp : UInt64) :
    probeExpired ttl now stamp = true ↔ ttl < (now.toNat : ℤ) - stamp.toNat := by
  have httl := u64OfInt_toNat h0.le (h31.trans (by norm_num))
  have hnow := now.toNat_lt
  have hstamp := stamp.toNat_lt
  unfold probeExpired
  rw [decide_eq_true_iff, gt_iff_lt, gt_iff_lt, UInt64.lt_iff_toNat_lt, UInt64.lt_iff_toNat_lt]
  constructor
  · rintro ⟨hpast, hage⟩
    rw [UInt64.toNat_sub_of_le _ _ (UInt64.le_iff_toNat_le.2 hpast.le)] at hage
    omega
  · intro hage
    have hpast : stamp.toNat < now.toNat := by omega
    rw [UInt64.toNat_sub_of_le _ _ (UInt64.le_iff_toNat_le.2 hpast.le)]
    omega

/-- **When the check is one of integers**: exactly when the cast of the stamp does not change its verdict. -/
theorem ttl_iff (file : CStr) (ttl : ℤ) (now : UInt64) (h0 : 0 < ttl) (h31 : ttl < 2 ^ 31)
    (hav : (probeLoad (some file) ttl now : GpuProbeResult K).available = 1) :
    TtlExact K file ttl now ↔ ∀ t, denoted file = some t → InRange ttl now t := by
  have hacc : (probeScan file : ProbeScan K).accepted = true := by
    by_contra hno
    rw [probeLoad_eq, if_neg hno] at hav
    exact absurd (show (0 : ℤ) = 1 from hav) zero_ne_one
  obtain ⟨t, hdenoted, hmin, hmax, hstored⟩ := accepted_denotes hacc
  have hstale : (probeLoad (some file) ttl now : GpuProbeResult K).stale = 1 ↔
      ttl < (now.toNat : ℤ) - (UInt64.ofInt t).toNat := by
    rw [probeLoad_eq, if_pos hacc, hstored, ← expired_iff h0 h31]
    dsimp only
    split_ifs with hexpired <;> simp [hexpired]
  have hcast : (ttl < (now.toNat : ℤ) - (UInt64.ofInt t).toNat ↔ ttl < now.toNat - t) ↔ InRange ttl now t := by
    unfold InRange
    rcases le_or_gt 0 t with hsince | hbefore
    · rw [u64OfInt_toNat hsince (by omega)]
      exact iff_of_true Iff.rfl (Or.inl hsince)
    · rw [u64_of_negative hbefore (by omega)]
      omega
  unfold TtlExact
  simp only [hdenoted, Option.some.injEq, exists_eq_left', forall_eq', hstale, hcast]

/-! ## Two results -/

/-- a result of this time -/
def probeAt (stamp : String) : CStr :=
  ("serial=1\nperf_w_mean=1\nprobe_timestamp=" ++ stamp ++ "\nprobe_exit_code=0\n").toList

/-- 36 hours and a minute old -/
theorem ttl_iff_aged : TtlExact ℚ (probeAt "2026-03-15T14:22:00Z") 129600 (1773584520 + 129660) ∧
    (probeLoad (some (probeAt "2026-03-15T14:22:00Z")) 129600 (1773584520 + 129660) : GpuProbeResult ℚ).stale = 1 := by
  have hload : (probeLoad (some (probeAt "2026-03-15T14:22:00Z")) 129600 (1773584520 + 129660) :
      GpuProbeResult ℚ).available = 1 ∧ (probeLoad (some (probeAt "2026-03-15T14:22:00Z")) 129600
        (1773584520 + 129660) : GpuProbeResult ℚ).stale = 1 := by
    decide +kernel
  have hdenoted : denoted (probeAt "2026-03-15T14:22:00Z") = some 1773584520 := by decide +kernel
  refine ⟨(ttl_iff _ _ _ (by norm_num) (by norm_num) hload.1).2 ?_, hload.2⟩
  intro t ht
  cases hdenoted.symm.trans ht
  exact Or.inl (by norm_num)

/-- A result of New Year's Eve 1969, read in 2026 with a TTL of 36 hours, is fresh. -/
theorem before_epoch_fresh :
    (probeLoad (some (probeAt "1969-12-31T00:00:00Z")) 129600 1773584520 : GpuProbeResult ℚ).available = 1 ∧
    (probeLoad (some (probeAt "1969-12-31T00:00:00Z")) 129600 1773584520 : GpuProbeResult ℚ).stale = 0 ∧
    denoted (probeAt "1969-12-31T00:00:00Z") = some (-86400) ∧
    ¬ TtlExact ℚ (probeAt "1969-12-31T00:00:00Z") 129600 1773584520 := by
  have hload : (probeLoad (some (probeAt "1969-12-31T00:00:00Z")) 129600 1773584520 : GpuProbeResult ℚ).available = 1 ∧
      (probeLoad (some (probeAt "1969-12-31T00:00:00Z")) 129600 1773584520 : GpuProbeResult ℚ).stale = 0 := by
    decide +kernel
  have hdenoted : denoted (probeAt "1969-12-31T00:00:00Z") = some (-86400) := by decide +kernel
  refine ⟨hload.1, hload.2, hdenoted, ?_⟩
  rintro ⟨t, ht, hexact⟩
  cases hdenoted.symm.trans ht
  rw [hload.2] at hexact
  exact absurd (hexact.2 (by decide)) zero_ne_one

end GpuHealth.ProbeTtl
