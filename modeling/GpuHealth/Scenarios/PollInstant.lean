/-
The poll timestamp: one instant, read on two clocks.

The property: for every run, every offset between CLOCK_MONOTONIC and CLOCK_REALTIME and every published snapshot, the
value rendered as gpu_health_last_poll_timestamp is the Unix time of that snapshot's poll to within the duration of the
poll, while the age used by `check_liveness` is the time elapsed since that same poll. It fails: `snapshot_update` takes
`last_poll_ms` from the monotonic clock. The liveness check reads the same clock, so its age is right; /metrics shows
the field as a Unix time, and is off by the whole offset (`timestamp_since_boot`).

`oneInstant_iff`: in every run a published snapshot has the property if and only if the two clocks differ by no more
than its poll lasts.
Witness `oneInstant_iff_close`: clocks 10 ms apart, a poll of 20 ms.
-/
import GpuHealth.Render
import GpuHealth.Collector
import GpuHealth.Scenarios.Liveness

namespace GpuHealth.PollInstant

open GpuHealth.CText GpuHealth.Decimal GpuHealth.NumberText GpuHealth.HttpChild GpuHealth.Render GpuHealth.Collector
open GpuHealth.Liveness

/-! ## The property

Instants are readings of the monotonic clock, in ms; the real time clock reads `offset` ms more. -/

def timestampName : CStr := "gpu_health_last_poll_timestamp".toList

/-- between the two readings of the poll: that of `do_nvml_poll` and that of `snapshot_update` -/
def DuringPoll (env : PollEnv) (p : ℕ) : Prop := env.sampleMs.toNat ≤ p ∧ p ≤ env.snapMs.toNat

def duration (env : PollEnv) : ℚ := env.snapMs.toNat - env.sampleMs.toNat

/-- on a page with the snapshot, the value of its timestamp in seconds is the Unix time of `p` -/
def ShowsUnixTime (offset : ℚ) (env : PollEnv) (s : GpuSnapshot ℚ) (p : ℕ) : Prop :=
  ∃ family ∈ pageFamilies [⟨s, 1⟩], family.name = timestampName ∧
    ∃ text x, family.samples = [sampleText timestampName s.serial text] ∧
      strtod text = some (.fin x, false, []) ∧ |x * 1000 - (p + offset)| ≤ duration env

/-- the age that the liveness check compares with its threshold is the time since `p` -/
def AgeIsSince (env : PollEnv) (s : GpuSnapshot ℚ) (p : ℕ) : Prop :=
  ∀ nowMs staleMs, env.snapMs ≤ nowMs → 0 ≤ staleMs → staleMs < 2 ^ 31 →
    (checkLiveness nowMs staleMs [⟨s, 1⟩] = 1 ↔ (nowMs.toNat : ℤ) - p ≤ staleMs)

def OneInstant (offset : ℚ) (env : PollEnv) (s : GpuSnapshot ℚ) : Prop :=
  ∃ p, DuringPoll env p ∧ ShowsUnixTime offset env s p ∧ AgeIsSince env s p

/-! ## The snapshot -/

theorem published_lastPollMs {exp : Exporter ℚ} {st : PollState ℚ} {env : PollEnv} {s : GpuSnapshot ℚ}
    (h : published exp st env = some s) : s.lastPollMs = env.snapMs := by
  obtain ⟨ctx, -, -, rfl⟩ := published_eq_some.1 h
  rfl

/-! ## /metrics -/

def timestampRow : MetricRow :=
  row "gpu_health_last_poll_timestamp" "gauge"
    "Unix timestamp (seconds) of the last successful poll cycle for this GPU"
    "gpu_health_last_poll_timestamp" fun s => some (.gaugeFmt 3 (.fin s.lastPollMs.toNat / .fin 1000))

theorem timestampRow_mem : timestampRow ∈ metricRows := List.mem_of_getElem? (i := 58) rfl

theorem timestampRow_samples (s : GpuSnapshot ℚ) : (rowFamily [⟨s, 1⟩] timestampRow).samples =
    [sampleText timestampName s.serial (fixedText 3 (s.lastPollMs.toNat / 1000))] := by
  have hvalue : (.fin s.lastPollMs.toNat / .fin 1000 : Dbl ℚ) = .fin (s.lastPollMs.toNat / 1000) :=
    Dbl.fin_div _ (by norm_num)
  have htext : timestampRow.sampleText s =
      some (sampleText timestampName s.serial (fixedText 3 (s.lastPollMs.toNat / 1000))) := by
    rw [MetricRow.sampleText, timestampRow, row]
    simp only [hvalue, Option.map_some, MetricValue.text, printF]
    rfl
  have hreceived : received [⟨s, 1⟩] = [s] := rfl
  rw [rowFamily, hreceived, List.filterMap_cons_some htext, List.filterMap_nil]

/-- three decimals are enough for milliseconds -/
theorem roundDecimals_milliseconds (n : ℕ) : roundDecimals 3 (n / 1000) = n / 1000 := by
  have hscaled : (n / 1000 * 10 ^ 3 : ℚ) = (n : ℤ) := by
    push_cast
    ring
  have hround : roundHalfEven (n : ℤ) = n :=
    le_antisymm (roundHalfEven_le le_rfl) (le_roundHalfEven le_rfl)
  rw [roundDecimals, hscaled, hround]
  norm_num

theorem strtod_milliseconds {n : ℕ} (hn : n < 2 ^ 64) :
    strtod (fixedText 3 (n / 1000)) = some (.fin (n / 1000), false, []) := by
  obtain ⟨m, htext, hm⟩ := exists_decimalText 3 (x := n / 1000) (by positivity)
  rw [roundDecimals_milliseconds] at hm
  have hsmall : (n : ℚ) / 1000 ≤ 2 ^ 64 := by
    have hcast : (n : ℚ) ≤ 2 ^ 64 := by exact_mod_cast hn.le
    linarith [div_le_self (Nat.cast_nonneg n : (0 : ℚ) ≤ n) (by norm_num : (1 : ℚ) ≤ 1000)]
  have hfinite : (m : ℚ) / 10 ^ 3 < 2 ^ 1024 - 2 ^ 970 := bound_finite (hm.le.trans hsmall) (by norm_num)
  rw [htext, strtod_decimalText (by norm_num) (by norm_num) hfinite, hm]

/-- **The value shown** is the time of the monotonic clock. -/
theorem showsUnixTime_iff (offset : ℚ) {env : PollEnv} {s : GpuSnapshot ℚ} (hs : s.lastPollMs = env.snapMs) (p : ℕ) :
    ShowsUnixTime offset env s p ↔ |(env.snapMs.toNat : ℚ) - (p + offset)| ≤ duration env := by
  have hread := strtod_milliseconds env.snapMs.toNat_lt
  have hvalue : (env.snapMs.toNat / 1000 * 1000 : ℚ) = env.snapMs.toNat := by ring
  unfold ShowsUnixTime
  refine ⟨?_, fun hclose => ?_⟩
  · intro hshows
    obtain ⟨family, hfamily, hname, text, x, hsample, hx, hclose⟩ := hshows
    rw [row_of_name hfamily timestampRow_mem hname, timestampRow_samples, hs, List.singleton_inj] at hsample
    obtain rfl : fixedText 3 (env.snapMs.toNat / 1000) = text := List.append_cancel_left hsample
    rw [hread, Option.some.injEq, Prod.mk.injEq, Dbl.fin.injEq] at hx
    rwa [← hx.1, hvalue] at hclose
  · refine ⟨_, rowFamily_mem _ timestampRow_mem, rfl, _, _, timestampRow_samples s, hs ▸ hread, ?_⟩
    rwa [hs, hvalue]

/-! ## /live -/

/-- **The age used** is the time since `snapshot_update`, and since no earlier instant. -/
theorem ageIsSince_iff {env : PollEnv} {s : GpuSnapshot ℚ} (hs : s.lastPollMs = env.snapMs) {p : ℕ}
    (hp : p ≤ env.snapMs.toNat) : AgeIsSince env s p ↔ p = env.snapMs.toNat := by
  have hcheck : ∀ nowMs staleMs, env.snapMs ≤ nowMs → 0 ≤ staleMs → staleMs < 2 ^ 31 →
      (checkLiveness nowMs staleMs [⟨s, 1⟩] = 1 ↔ (nowMs.toNat : ℤ) ≤ env.snapMs.toNat + staleMs) := by
    intro nowMs staleMs hnow h0 h31
    rw [checkLiveness_eq_one, List.forall_mem_singleton, inTime_iff h0 h31]
    simp only [FreshAt, AgeInTime, hs, hnow, true_or, implies_true, and_true]
    exact ⟨fun h => h one_ne_zero, fun h _ => h⟩
  refine ⟨?_, ?_⟩
  · intro hsince
    -- at the snapshot itself the age is 0
    have hnow : checkLiveness env.snapMs 0 [⟨s, 1⟩] = 1 :=
      (hcheck env.snapMs 0 (UInt64.le_refl _) le_rfl (by norm_num)).2 (by omega)
    have hage := (hsince env.snapMs 0 (UInt64.le_refl _) le_rfl (by norm_num)).1 hnow
    omega
  · rintro rfl nowMs staleMs hnow h0 h31
    rw [hcheck nowMs staleMs hnow h0 h31]
    omega

/-! ## The condition -/

/-- **When both consumers see one instant.** For every run and every snapshot published in it: if and only if the two
clocks differ by no more than the poll lasts. -/
theorem oneInstant_iff (exp : Exporter ℚ) (ctx : GpuCtx ℚ) (envs : List PollEnv) (env : PollEnv) (s : GpuSnapshot ℚ)
    (h : published exp (Runs.run (step exp) (collectorStart ctx exp) envs) env = some s) (offset : ℚ) :
    OneInstant offset env s ↔ |offset| ≤ duration env := by
  have hs := published_lastPollMs h
  have herror : (env.snapMs.toNat : ℚ) - (env.snapMs.toNat + offset) = -offset := by ring
  refine ⟨?_, ?_⟩
  · intro hone
    obtain ⟨p, hp, hshows, hage⟩ := hone
    -- the age leaves one instant only
    obtain rfl := (ageIsSince_iff hs hp.2).1 hage
    rwa [showsUnixTime_iff offset hs, herror, abs_neg] at hshows
  · intro hclose
    have hduring : DuringPoll env env.snapMs.toNat := by
      have hlong : 0 ≤ duration env := (abs_nonneg offset).trans hclose
      unfold duration at hlong
      exact ⟨by exact_mod_cast sub_nonneg.1 hlong, le_rfl⟩
    refine ⟨env.snapMs.toNat, hduring, ?_, (ageIsSince_iff hs le_rfl).2 rfl⟩
    rwa [showsUnixTime_iff offset hs, herror, abs_neg]

/-! ## A poll of 20 ms -/

/-- the first poll, from 15.000 s to 15.020 s after the boot -/
def firstPoll : PollEnv := { quietEnv 15000 with snapMs := 15020 }

/-- its snapshot -/
def firstSnapshot : GpuSnapshot ℚ :=
  (publishedCtx smallExporter (collectorStart .zeroed smallExporter).ctx firstPoll).snapshot

theorem firstSnapshot_published :
    published smallExporter (collectorStart .zeroed smallExporter) firstPoll = some firstSnapshot := by decide +kernel

theorem duration_firstPoll : duration firstPoll = 20 := by decide +kernel

theorem oneInstant_iff_close : OneInstant 10 firstPoll firstSnapshot ↔ |(10 : ℚ)| ≤ duration firstPoll :=
  oneInstant_iff smallExporter .zeroed [] firstPoll firstSnapshot firstSnapshot_published 10

/-- The host was booted at the Unix time 1773584505: the gauge shows 15.02, the time since the boot. -/
theorem timestamp_since_boot :
    published smallExporter (collectorStart .zeroed smallExporter) firstPoll = some firstSnapshot ∧
    (rowFamily [⟨firstSnapshot, 1⟩] timestampRow).samples =
      ["gpu_health_last_poll_timestamp\x7bserial=\"\"\x7d 15.020".toList] ∧
    ¬ OneInstant 1773584505000 firstPoll firstSnapshot := by
  have hs := published_lastPollMs firstSnapshot_published
  refine ⟨firstSnapshot_published, ?_, ?_⟩
  · rw [timestampRow_samples, hs]
    decide +kernel
  intro hone
  obtain ⟨p, hp, hshows, hage⟩ := hone
  obtain rfl := (ageIsSince_iff hs hp.2).1 hage
  rw [showsUnixTime_iff _ hs, duration_firstPoll, sub_add_cancel_left, abs_neg] at hshows
  norm_num at hshows

end GpuHealth.PollInstant
