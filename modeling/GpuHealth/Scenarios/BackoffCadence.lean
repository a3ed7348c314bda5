/-
The back-off of the poll loop: how far a retry is from the attempt before it.

The property: in every run, with any readings of a clock that never goes back, a poll attempted while gpu_available = 0
starts at least nvml_retry_interval_s seconds after the attempt before it, the one that made the GPU unavailable
included. It fails. The guard measures from last_retry_ms, which starts at 0 and is set by retries only, so an outage
does not start the interval: with the tenth error at 235 s the first retry comes at 250 s (`retry_at_once`).

`spaced_iff`: for every loaded config and every such run, the property holds at every step if and only if, at every
iteration of an outage that has not been retried yet, the clock is either a full interval past the attempt that began
it, or less than one interval past the last retry of an earlier outage (past 0 when there was none), so that the
iteration is held back.
Witness `spaced_early_outage`: an outage in the first minute of the clock, a retry held back, and the retry.

The start of an attempt is the clock at the entry of its iteration (`PollEnv.nowMs`).
-/
import GpuHealth.Collector

namespace GpuHealth.BackoffCadence

open GpuHealth.Collector GpuHealth.Config GpuHealth.Runs

variable {K : Type} [Arith K]

/-! ## The property -/

/-- an attempt by its start, and whether it was made while gpu_available was 0 -/
structure Attempt where
  startMs : UInt64
  retry : Bool
deriving DecidableEq, Repr

def attemptOf (exp : Exporter K) (st : PollState K) (env : PollEnv) : Option Attempt :=
  (pollEntry exp st env).map fun _ => ⟨env.nowMs, decide (st.ctx.gpuAvailable = 0)⟩

/-- the attempts of a run, in order -/
def attemptsOf (exp : Exporter K) (st : PollState K) (envs : List PollEnv) : List Attempt :=
  outputs (step exp) (attemptOf exp) st envs

/-- `nowMs` is at least `nvml_retry_interval_s` seconds past `t` -/
def IntervalPast (cfg : GpuConfig (Dbl K)) (t nowMs : UInt64) : Prop :=
  (t.toNat : ℤ) + cfg.int .nvmlRetryIntervalS * 1000 ≤ nowMs.toNat

instance (cfg : GpuConfig (Dbl K)) (t nowMs : UInt64) : Decidable (IntervalPast cfg t nowMs) :=
  inferInstanceAs (Decidable (_ ≤ _))

/-- every attempt of an unavailable GPU comes an interval after the attempt before it -/
def Spaced (exp : Exporter K) (st : PollState K) (envs : List PollEnv) : Prop :=
  AtEveryStep (fun pre env => (run (step exp) st pre).ctx.gpuAvailable = 0 →
    (attemptOf exp (run (step exp) st pre) env).isSome = true →
      ∃ a, (attemptsOf exp st pre).getLast? = some a ∧ IntervalPast exp.cfg a.startMs env.nowMs) envs

/-- the start of the last retry, 0 before the first -/
def lastRetry (l : List Attempt) : UInt64 := ((l.filter Attempt.retry).getLast?.map Attempt.startMs).getD 0

/-- where an outage has not been retried yet, its first attempt is an interval ago, or the last retry is not -/
def FirstRetryDue (exp : Exporter K) (st : PollState K) (pre : List PollEnv) (env : PollEnv) : Prop :=
  (run (step exp) st pre).ctx.gpuPresent ≠ 0 → (run (step exp) st pre).ctx.gpuAvailable = 0 →
    ∀ a ∈ (attemptsOf exp st pre).getLast?, a.retry = false →
      IntervalPast exp.cfg a.startMs env.nowMs ∨ ¬ IntervalPast exp.cfg (lastRetry (attemptsOf exp st pre)) env.nowMs

instance (exp : Exporter K) (st : PollState K) (pre : List PollEnv) (env : PollEnv) :
    Decidable (FirstRetryDue exp st pre env) :=
  inferInstanceAs (Decidable (_ → _ → ∀ a ∈ (attemptsOf exp st pre).getLast?, _))

theorem attemptsOf_snoc (exp : Exporter K) (st : PollState K) (envs : List PollEnv) (env : PollEnv) :
    attemptsOf exp st (envs ++ [env]) =
      attemptsOf exp st envs ++ (attemptOf exp (run (step exp) st envs) env).toList :=
  outputs_snoc _ _ _ _ _

@[simp] theorem lastRetry_first (l : List Attempt) (t : UInt64) : lastRetry (l ++ [⟨t, false⟩]) = lastRetry l := by
  simp [lastRetry]

@[simp] theorem lastRetry_retry (l : List Attempt) (t : UInt64) : lastRetry (l ++ [⟨t, true⟩]) = t := by
  simp [lastRetry]

/-! ## The guard -/

omit [Arith K] in
theorem retryMs_toNat {cfg : GpuConfig (Dbl K)} (h0 : 0 ≤ cfg.int .nvmlRetryIntervalS)
    (h1 : cfg.int .nvmlRetryIntervalS ≤ 3600) :
    ((UInt64.ofInt (cfg.int .nvmlRetryIntervalS) * 1000).toNat : ℤ) = cfg.int .nvmlRetryIntervalS * 1000 := by
  have hs := u64OfInt_toNat h0 (by omega)
  have hthousand : (1000 : UInt64).toNat = 1000 := by decide
  have hsmall : (UInt64.ofInt (cfg.int .nvmlRetryIntervalS)).toNat * 1000 < 2 ^ 64 := by omega
  rw [UInt64.toNat_mul, hthousand, Nat.mod_eq_of_lt hsmall]
  push_cast
  rw [hs]

omit [Arith K] in
/-- the unsigned comparison of the guard, on readings that do not go back -/
theorem heldBack_iff {cfg : GpuConfig (Dbl K)} (h0 : 0 ≤ cfg.int .nvmlRetryIntervalS)
    (h1 : cfg.int .nvmlRetryIntervalS ≤ 3600) {t nowMs : UInt64} (hle : t ≤ nowMs) :
    nowMs - t < UInt64.ofInt (cfg.int .nvmlRetryIntervalS) * 1000 ↔ ¬ IntervalPast cfg t nowMs := by
  have hms := retryMs_toNat h0 h1
  have hle' := UInt64.le_iff_toNat_le.1 hle
  unfold IntervalPast
  rw [UInt64.lt_iff_toNat_lt, UInt64.toNat_sub_of_le _ _ hle]
  omega

/-! ## What an iteration leaves -/

omit [Arith K] in
theorem pollError_retry (exp : Exporter K) (ctx : GpuCtx K) (ret : ℤ) :
    (pollError exp ctx ret).ctx.lastRetryMs = ctx.lastRetryMs ∧
      ((pollError exp ctx ret).exited = true → (pollError exp ctx ret).ctx.gpuPresent = 0) := by
  simp only [pollError]
  split_ifs <;> simp

theorem publishedCtx_retry (exp : Exporter K) (ctx : GpuCtx K) (env : PollEnv) :
    (publishedCtx exp ctx env).lastRetryMs = ctx.lastRetryMs ∧ (publishedCtx exp ctx env).gpuAvailable = 1 := by
  simp only [publishedCtx, pollPublish, Snapshot.snapshotUpdate, baselineReload]
  split_ifs <;> simp

omit [Arith K] in
theorem pollEntry_retry {exp : Exporter K} {st : PollState K} {env : PollEnv} {ctx : GpuCtx K}
    (h : pollEntry exp st env = some ctx) :
    ctx.lastRetryMs = if st.ctx.gpuAvailable = 0 then env.nowMs else st.ctx.lastRetryMs := by
  simp only [pollEntry] at h
  split_ifs at h with h1 h2 h3
  · obtain rfl := Option.some.inj h
    rw [if_pos h3]
  · obtain rfl := Option.some.inj h
    rw [if_neg h3]

/-- what the loop keeps about the attempts `l` so far -/
structure Inv (st : PollState K) (l : List Attempt) : Prop where
  retry : st.ctx.lastRetryMs = lastRetry l
  begun : st.ctx.gpuAvailable = 0 → l ≠ []
  stopped : st.exited = true → st.ctx.gpuPresent = 0

theorem step_inv {exp : Exporter K} {st : PollState K} {l : List Attempt} (h : Inv st l) (env : PollEnv) :
    Inv (step exp st env) (l ++ (attemptOf exp st env).toList) := by
  have hlast : ∀ ctx, pollEntry exp st env = some ctx →
      ctx.lastRetryMs = lastRetry (l ++ (attemptOf exp st env).toList) := by
    intro ctx hentry
    rw [pollEntry_retry hentry, attemptOf, hentry, Option.map_some, Option.toList_some]
    by_cases hdown : st.ctx.gpuAvailable = 0
    · rw [if_pos hdown, decide_eq_true hdown, lastRetry_retry]
    · rw [if_neg hdown, decide_eq_false hdown, lastRetry_first, h.retry]
  have hbegun : ∀ ctx, pollEntry exp st env = some ctx → l ++ (attemptOf exp st env).toList ≠ [] := by
    intro ctx hentry
    simp [attemptOf, hentry]
  unfold step
  rcases pollIteration_cases exp st env with ⟨hentry, hit⟩ | ⟨ctx, hentry, -, hit⟩ | ⟨ctx, ret, hentry, -, hit⟩
  · rw [hit, attemptOf, hentry]
    simpa using h
  · obtain ⟨hretry, -⟩ := publishedCtx_retry exp ctx env
    rw [hit]
    exact ⟨hretry.trans (hlast ctx hentry), fun _ => hbegun ctx hentry, fun hstop => absurd hstop Bool.false_ne_true⟩
  · obtain ⟨hretry, hstop⟩ := pollError_retry exp ctx ret
    rw [hit]
    exact ⟨hretry.trans (hlast ctx hentry), fun _ => hbegun ctx hentry, hstop⟩

theorem inv_run (exp : Exporter K) (ctx : GpuCtx K) (envs : List PollEnv) :
    Inv (run (step exp) (collectorStart ctx exp) envs) (attemptsOf exp (collectorStart ctx exp) envs) := by
  induction envs using List.reverseRecOn with
  | nil => exact ⟨rfl, fun h => absurd h one_ne_zero, fun h => absurd h Bool.false_ne_true⟩
  | append_singleton envs env ih =>
    rw [run_snoc, attemptsOf_snoc]
    exact step_inv ih env

/-! ## The clock -/

/-- the readings of a clock that never goes back -/
def Monotonic (envs : List PollEnv) : Prop := (envs.map PollEnv.nowMs).Pairwise (· ≤ ·)

instance (envs : List PollEnv) : Decidable (Monotonic envs) :=
  inferInstanceAs (Decidable ((envs.map PollEnv.nowMs).Pairwise (· ≤ ·)))

/-- an attempt starts at the reading of its iteration -/
theorem startMs_mem {exp : Exporter K} {st : PollState K} {envs : List PollEnv} {a : Attempt}
    (h : a ∈ attemptsOf exp st envs) : a.startMs ∈ envs.map PollEnv.nowMs := by
  obtain ⟨v, hv, hattempt⟩ := List.mem_filterMap.1 h
  obtain ⟨ctx, -, rfl⟩ := Option.map_eq_some_iff.1 hattempt
  exact List.mem_map.2 ⟨v.2, mem_of_visits (step exp) hv, rfl⟩

theorem lastRetry_le {l : List Attempt} {t : UInt64} (h : ∀ a ∈ l, a.startMs ≤ t) : lastRetry l ≤ t := by
  unfold lastRetry
  cases hlast : (l.filter Attempt.retry).getLast? with
  | none => exact UInt64.zero_le
  | some a => exact h a (List.mem_of_mem_filter (List.mem_of_getLast? hlast))

/-! ## One step -/

omit [Arith K] in
/-- an iteration of an outage polls exactly when the last retry is an interval ago -/
theorem attemptOf_isSome {exp : Exporter K} (h0 : 0 ≤ exp.cfg.int .nvmlRetryIntervalS)
    (h1 : exp.cfg.int .nvmlRetryIntervalS ≤ 3600) {st : PollState K} {l : List Attempt} (h : Inv st l) {env : PollEnv}
    (hle : lastRetry l ≤ env.nowMs) (hdown : st.ctx.gpuAvailable = 0) :
    (attemptOf exp st env).isSome = true ↔
      st.ctx.gpuPresent ≠ 0 ∧ IntervalPast exp.cfg (lastRetry l) env.nowMs := by
  have hheld := heldBack_iff h0 h1 hle
  rw [← h.retry] at hheld ⊢
  rw [attemptOf, Option.isSome_map]
  by_cases hpresent : st.ctx.gpuPresent = 0
  · have hnone : pollEntry exp st env = none := by
      simp only [pollEntry, hpresent, if_true, ite_self]
    simp [hnone, hpresent]
  · have hexited : st.exited = false := by
      cases hstop : st.exited with
      | false => rfl
      | true => exact absurd (h.stopped hstop) hpresent
    by_cases hpast : IntervalPast exp.cfg st.ctx.lastRetryMs env.nowMs
    · have hgo := mt hheld.1 (not_not.2 hpast)
      simp [pollEntry, hexited, hpresent, hdown, hpast, hgo]
    · have hwait := hheld.2 hpast
      simp [pollEntry, hexited, hpresent, hdown, hpast, hwait]

/-- the attempt of one step is in time exactly when a first retry is due there -/
theorem spacedAt_iff {exp : Exporter K} (h0 : 0 ≤ exp.cfg.int .nvmlRetryIntervalS)
    (h1 : exp.cfg.int .nvmlRetryIntervalS ≤ 3600) (ctx : GpuCtx K) {pre : List PollEnv} {env : PollEnv}
    (hclock : ∀ t ∈ pre.map PollEnv.nowMs, t ≤ env.nowMs) :
    ((run (step exp) (collectorStart ctx exp) pre).ctx.gpuAvailable = 0 →
      (attemptOf exp (run (step exp) (collectorStart ctx exp) pre) env).isSome = true →
        ∃ a, (attemptsOf exp (collectorStart ctx exp) pre).getLast? = some a ∧
          IntervalPast exp.cfg a.startMs env.nowMs) ↔
      FirstRetryDue exp (collectorStart ctx exp) pre env := by
  have hinv := inv_run exp ctx pre
  have hle : lastRetry (attemptsOf exp (collectorStart ctx exp) pre) ≤ env.nowMs :=
    lastRetry_le fun a ha => hclock a.startMs (startMs_mem ha)
  unfold FirstRetryDue
  generalize run (step exp) (collectorStart ctx exp) pre = st at hinv ⊢
  generalize attemptsOf exp (collectorStart ctx exp) pre = l at hinv hle ⊢
  constructor
  · intro hspaced hpresent hdown a hlast hfirst
    by_cases hpast : IntervalPast exp.cfg (lastRetry l) env.nowMs
    · obtain ⟨a', hlast', htime⟩ := hspaced hdown ((attemptOf_isSome h0 h1 hinv hle hdown).2 ⟨hpresent, hpast⟩)
      obtain rfl : a = a' := Option.some.inj (hlast.symm.trans hlast')
      exact Or.inl htime
    · exact Or.inr hpast
  · intro hdue hdown hattempt
    obtain ⟨hpresent, hpast⟩ := (attemptOf_isSome h0 h1 hinv hle hdown).1 hattempt
    rcases List.eq_nil_or_concat l with hnil | ⟨l', a, rfl⟩
    · exact absurd hnil (hinv.begun hdown)
    · rw [List.concat_eq_append] at hpast hdue ⊢
      refine ⟨a, List.getLast?_concat, ?_⟩
      cases hretry : a.retry with
      | true =>
        -- a retry is the last retry
        obtain ⟨t, _⟩ := a
        obtain rfl : _ = true := hretry
        rwa [lastRetry_retry] at hpast
      | false =>
        rcases hdue hpresent hdown a List.getLast?_concat hretry with htime | hheld
        · exact htime
        · exact absurd hpast hheld

/-! ## The condition -/

/-- **When the back-off keeps its distance.** At every step, if and only if no outage has its first retry early. -/
theorem spaced_iff (fopen getenv : CStr → Option CStr) (path : Option CStr) (exp : Exporter K)
    (hcfg : configLoad fopen getenv path = some exp.cfg) (ctx : GpuCtx K) (envs : List PollEnv)
    (hclock : Monotonic envs) :
    Spaced exp (collectorStart ctx exp) envs ↔ AtEveryStep (FirstRetryDue exp (collectorStart ctx exp)) envs := by
  obtain ⟨h1, h3600⟩ := configLoad_admitted hcfg
    ⟨"nvml_retry_interval_s".toList, .int .nvmlRetryIntervalS 1 3600⟩ (by decide +kernel)
  have hstep : ∀ pre env post, envs = pre ++ env :: post → ∀ t ∈ pre.map PollEnv.nowMs, t ≤ env.nowMs := by
    intro pre env post heq t ht
    rw [Monotonic, heq, List.map_append, List.map_cons, List.pairwise_append] at hclock
    exact hclock.2.2 t ht env.nowMs List.mem_cons_self
  constructor
  · intro h pre env post heq
    exact (spacedAt_iff (by omega) h3600 ctx (hstep pre env post heq)).1 (h pre env post heq)
  · intro h pre env post heq
    exact (spacedAt_iff (by omega) h3600 ctx (hstep pre env post heq)).2 (h pre env post heq)

/-! ## Two outages -/

/-- ten errors in the first second of the clock, a retry held back, and the retry -/
def earlyOutage : List PollEnv :=
  List.replicate 10 (failingEnv 1000 999) ++ [failingEnv 30000 999, failingEnv 61000 999]

theorem spaced_early_outage : Spaced smallExporter (collectorStart .zeroed smallExporter) earlyOutage :=
  (spaced_iff _ _ _ smallExporter smallConfig_load .zeroed earlyOutage (by decide +kernel)).2 (by decide +kernel)

/-- ten errors, 15 s apart, from 100 s on -/
def tenErrors : List PollEnv :=
  [100000, 115000, 130000, 145000, 160000, 175000, 190000, 205000, 220000, 235000].map fun ms => failingEnv ms 999

/-- The tenth error makes the GPU unavailable at 235 s, and it is polled again at 250 s. -/
theorem retry_at_once :
    (run (step smallExporter) (collectorStart .zeroed smallExporter) tenErrors).ctx.gpuAvailable = 0 ∧
    smallExporter.cfg.int .nvmlRetryIntervalS = 60 ∧
    attemptOf smallExporter (run (step smallExporter) (collectorStart .zeroed smallExporter) tenErrors)
      (failingEnv 250000 999) = some ⟨250000, true⟩ ∧
    Monotonic (tenErrors ++ [failingEnv 250000 999]) ∧
    ¬ Spaced smallExporter (collectorStart .zeroed smallExporter) (tenErrors ++ [failingEnv 250000 999]) := by
  have hdown : (run (step smallExporter) (collectorStart .zeroed smallExporter) tenErrors).ctx.gpuAvailable = 0 := by
    decide +kernel
  have hattempt : attemptOf smallExporter (run (step smallExporter) (collectorStart .zeroed smallExporter) tenErrors)
      (failingEnv 250000 999) = some ⟨250000, true⟩ := by decide +kernel
  have hlast : (attemptsOf smallExporter (collectorStart .zeroed smallExporter) tenErrors).getLast? =
      some ⟨235000, false⟩ := by decide +kernel
  refine ⟨hdown, by decide +kernel, hattempt, by decide +kernel, ?_⟩
  intro hspaced
  obtain ⟨a, ha, hpast⟩ := (atEveryStep_snoc.1 hspaced).2 hdown (by rw [hattempt]; rfl)
  rw [hlast] at ha
  cases ha
  exact absurd hpast (by decide +kernel)

end GpuHealth.BackoffCadence
