/-
Whether loss and unavailability of a GPU reach the HTTP child, over whole runs of the poll loop.

The property: after every handled poll attempt the last snapshot sent to the child carries the gpu_present,
gpu_available and collector_errors_total of the context (`FlagsShown`). Snapshots are assembled and sent on the success
path only, and the error path changes all three values.

- `loss_not_sent`: one successful poll, then one that finds the GPU lost. The thread leaves its loop with
  gpu_present = 0; the child's last snapshot says 1.
- `flagsShown_iff`: after any run in which every write succeeds, the flags are shown exactly when no snapshot was sent
  yet or the last attempt succeeded.
Witness `flagsShown_recovered`: a failed poll between two successful ones.

Premise: the config comes from `config_load`; its nvml_error_threshold of at most 1000 rules out that 2^64 errors in a
row bring the 64-bit error counter back to the value in the snapshot while the GPU still counts as available.
-/
import GpuHealth.Collector

namespace GpuHealth.LossPublication

open GpuHealth.Collector GpuHealth.Config GpuHealth.Runs GpuHealth.Nvml

variable {K : Type} [Arith K]

/-! ## The property -/

/-- the messages the child received in a run -/
def messages (exp : Exporter K) (st : PollState K) (envs : List PollEnv) : List (GpuIpcMsg K) :=
  outputs (step exp) (sent exp) st envs

/-- whether each attempt of the run succeeded: every required NVML call returned NVML_SUCCESS -/
def attempts (exp : Exporter K) (st : PollState K) (envs : List PollEnv) : List Bool :=
  outputs (step exp) (fun st env => (pollEntry exp st env).map fun _ => decide (Responds env.nvml)) st envs

/-- the snapshot carries the flags and the error count of the context -/
def Carries (s : GpuSnapshot K) (ctx : GpuCtx K) : Prop :=
  s.gpuPresent = ctx.gpuPresent ∧ s.gpuAvailable = ctx.gpuAvailable ∧ s.collectorErrorsTotal = ctx.collectorErrorsTotal

instance (s : GpuSnapshot K) (ctx : GpuCtx K) : Decidable (Carries s ctx) := inferInstanceAs (Decidable (_ ∧ _ ∧ _))

def FlagsShown (exp : Exporter K) (st : PollState K) (envs : List PollEnv) : Prop :=
  ∀ m, (messages exp st envs).getLast? = some m → Carries m.snapshot (run (step exp) st envs).ctx

/-! ## The two paths on flags and counters -/

omit [Arith K] in
theorem pollError_flags (exp : Exporter K) (ctx : GpuCtx K) (ret : ℤ) :
    (pollError exp ctx ret).ctx.consecutiveErrors = ctx.consecutiveErrors + 1 ∧
    (pollError exp ctx ret).ctx.collectorErrorsTotal = ctx.collectorErrorsTotal + 1 ∧
    ((pollError exp ctx ret).ctx.gpuPresent = 0 ∨ (pollError exp ctx ret).ctx.gpuPresent = ctx.gpuPresent) ∧
    (exp.cfg.int .nvmlErrorThreshold ≤ ctx.consecutiveErrors + 1 →
      (pollError exp ctx ret).ctx.gpuPresent = 0 ∨ (pollError exp ctx ret).ctx.gpuAvailable = 0) := by
  simp only [pollError]
  split_ifs <;> simp_all

theorem publishedCtx_flags (exp : Exporter K) (ctx : GpuCtx K) (env : PollEnv) :
    (publishedCtx exp ctx env).consecutiveErrors = 0 ∧
    (publishedCtx exp ctx env).gpuPresent = ctx.gpuPresent ∧ (publishedCtx exp ctx env).gpuAvailable = 1 ∧
    (publishedCtx exp ctx env).collectorErrorsTotal = ctx.collectorErrorsTotal ∧
    Carries (publishedCtx exp ctx env).snapshot (publishedCtx exp ctx env) := by
  simp only [publishedCtx, pollPublish, Snapshot.snapshotUpdate, baselineReload, Carries]
  split_ifs <;> simp

/-! ## The invariant -/

/-- what the loop keeps about its context, the last message and the outcome of the last attempt -/
structure Inv (exp : Exporter K) (ctx : GpuCtx K) (last : Option (GpuIpcMsg K)) (outcome : Option Bool) : Prop where
  present : ctx.gpuPresent = 0 ∨ ctx.gpuPresent = 1
  /-- no message without an attempt -/
  silent : outcome = none → last = none
  /-- the last message says that all is well, and the errors since then are counted -/
  counted : ∃ n : ℕ, ctx.consecutiveErrors = n ∧ ∀ m, last = some m → m.snapshot.gpuPresent = 1 ∧
    m.snapshot.gpuAvailable = 1 ∧ ctx.collectorErrorsTotal = m.snapshot.collectorErrorsTotal + UInt64.ofNat n
  succeeded : outcome = some true → ctx.gpuPresent = 1 ∧ ctx.gpuAvailable = 1 ∧ ctx.consecutiveErrors = 0
  failed : outcome = some false → 0 < ctx.consecutiveErrors ∧
    (exp.cfg.int .nvmlErrorThreshold ≤ ctx.consecutiveErrors → ctx.gpuPresent = 0 ∨ ctx.gpuAvailable = 0)

omit [Arith K] in
theorem inv_of_start {exp : Exporter K} {ctx : GpuCtx K} (hpresent : ctx.gpuPresent = 1)
    (herr : ctx.consecutiveErrors = 0) : Inv exp ctx none none where
  present := Or.inr hpresent
  silent := fun _ => rfl
  counted := ⟨0, herr, by simp⟩
  succeeded := by simp
  failed := by simp

omit [Arith K] in
/-- the time of the last retry is in no clause -/
theorem inv_retry {exp : Exporter K} {ctx : GpuCtx K} {last : Option (GpuIpcMsg K)} {outcome : Option Bool}
    (h : Inv exp ctx last outcome) (t : UInt64) : Inv exp { ctx with lastRetryMs := t } last outcome :=
  ⟨h.present, h.silent, h.counted, h.succeeded, h.failed⟩

theorem inv_publish {exp : Exporter K} {ctx : GpuCtx K} {last : Option (GpuIpcMsg K)} {outcome : Option Bool}
    (h : Inv exp ctx last outcome) (hpresent : ctx.gpuPresent ≠ 0) (env : PollEnv) :
    Inv exp { publishedCtx exp ctx env with ready := 1 } (some ⟨(publishedCtx exp ctx env).gpuIndex,
      (publishedCtx exp ctx env).snapshot⟩) (some true) := by
  obtain ⟨herr, hpres, havail, -, hsnap⟩ := publishedCtx_flags exp ctx env
  have hone : (publishedCtx exp ctx env).gpuPresent = 1 := hpres.trans (h.present.resolve_left hpresent)
  refine ⟨Or.inr hone, by simp, ⟨0, herr, ?_⟩, fun _ => ⟨hone, havail, herr⟩, by simp⟩
  intro m hm
  cases hm
  exact ⟨hsnap.1.trans hone, hsnap.2.1.trans havail, by simp [hsnap.2.2]⟩

omit [Arith K] in
theorem inv_error {exp : Exporter K} {ctx : GpuCtx K} {last : Option (GpuIpcMsg K)} {outcome : Option Bool}
    (h : Inv exp ctx last outcome) (ret : ℤ) : Inv exp (pollError exp ctx ret).ctx last (some false) := by
  obtain ⟨herr, htotal, hpres, hthr⟩ := pollError_flags exp ctx ret
  obtain ⟨n, hn, hlast⟩ := h.counted
  have hn' : (pollError exp ctx ret).ctx.consecutiveErrors = (n + 1 : ℕ) := by rw [herr, hn]; push_cast; rfl
  refine ⟨?_, by simp, ⟨n + 1, hn', ?_⟩, by simp, fun _ => ⟨?_, ?_⟩⟩
  · rcases hpres with h0 | h0
    · exact Or.inl h0
    · rw [h0]; exact h.present
  · intro m hm
    obtain ⟨h1, h2, h3⟩ := hlast m hm
    refine ⟨h1, h2, ?_⟩
    rw [htotal, h3, UInt64.ofNat_add, UInt64.add_assoc]; rfl
  · rw [herr, hn]; positivity
  · rw [herr]; exact hthr

theorem messages_snoc (exp : Exporter K) (st : PollState K) (envs : List PollEnv) (env : PollEnv) :
    messages exp st (envs ++ [env]) = messages exp st envs ++ (sent exp (run (step exp) st envs) env).toList :=
  outputs_snoc _ _ _ _ _

theorem attempts_snoc (exp : Exporter K) (st : PollState K) (envs : List PollEnv) (env : PollEnv) :
    attempts exp st (envs ++ [env]) = attempts exp st envs ++
      ((pollEntry exp (run (step exp) st envs) env).map fun _ => decide (Responds env.nvml)).toList :=
  outputs_snoc _ _ _ _ _

theorem inv_run (exp : Exporter K) (ctx : GpuCtx K) (envs : List PollEnv) (hw : ∀ env ∈ envs, env.written = true) :
    Inv exp (run (step exp) (collectorStart ctx exp) envs).ctx
      (messages exp (collectorStart ctx exp) envs).getLast? (attempts exp (collectorStart ctx exp) envs).getLast? := by
  induction envs using List.reverseRecOn with
  | nil => exact inv_of_start rfl rfl
  | append_singleton envs env ih =>
    have hinv := ih fun e he => hw e (List.mem_append_left _ he)
    have hwritten : env.written = true := hw env (by simp)
    rw [run_snoc, messages_snoc, attempts_snoc]
    generalize run (step exp) (collectorStart ctx exp) envs = st at hinv ⊢
    rcases pollIteration_cases exp st env with ⟨hentry, hit⟩ | ⟨c, hentry, hok, hit⟩ | ⟨c, ret, hentry, hok, hit⟩
    · simpa [step, sent, hit, hentry] using hinv
    · obtain ⟨-, hpresent, t, rfl⟩ := pollEntry_some hentry
      simpa [step, sent, hit, hentry, hok, Snapshot.snapshotSend, hwritten] using
        inv_publish (inv_retry hinv t) hpresent env
    · obtain ⟨-, -, t, rfl⟩ := pollEntry_some hentry
      simpa [step, sent, hit, hentry, hok] using inv_error (inv_retry hinv t) ret

/-! ## The condition -/

/-- **When the flags are shown.** With every write succeeding: exactly when nothing was sent yet or the last attempt
succeeded. -/
theorem flagsShown_iff (fopen getenv : CStr → Option CStr) (path : Option CStr) (exp : Exporter K)
    (hcfg : configLoad fopen getenv path = some exp.cfg) (ctx : GpuCtx K) (envs : List PollEnv)
    (hw : ∀ env ∈ envs, env.written = true) :
    FlagsShown exp (collectorStart ctx exp) envs ↔
      messages exp (collectorStart ctx exp) envs = [] ∨
      (attempts exp (collectorStart ctx exp) envs).getLast? = some true := by
  have hinv := inv_run exp ctx envs hw
  have hthr : exp.cfg.int .nvmlErrorThreshold ≤ 1000 :=
    (configLoad_admitted hcfg ⟨"nvml_error_threshold".toList, .int .nvmlErrorThreshold 1 1000⟩ (by decide +kernel)).2
  obtain ⟨n, hn, hlast⟩ := hinv.counted
  constructor
  · intro hshown
    by_contra hcon
    rw [not_or] at hcon
    obtain ⟨m, hm⟩ := Option.isSome_iff_exists.1 (List.getLast?_isSome.2 hcon.1)
    obtain ⟨hpresent, havail, htotal⟩ := hshown m hm
    obtain ⟨h1, h2, h3⟩ := hlast m hm
    have hfailed : (attempts exp (collectorStart ctx exp) envs).getLast? = some false := by
      cases ho : (attempts exp (collectorStart ctx exp) envs).getLast? with
      | none => rw [hinv.silent ho] at hm; cases hm
      | some b => cases b with
        | false => rfl
        | true => exact absurd ho hcon.2
    obtain ⟨hpos, hdown⟩ := hinv.failed hfailed
    -- the counter differs from the snapshot's unless 2^64 errors in a row brought it back
    have hwrap : UInt64.ofNat n = 0 := by
      rw [htotal] at h3
      exact UInt64.add_eq_left.1 h3.symm
    have hbig : 2 ^ 64 ≤ n := by
      have hmod := congrArg UInt64.toNat hwrap
      rw [UInt64.toNat_ofNat'] at hmod
      rw [hn] at hpos
      have hdvd : 2 ^ 64 ∣ n := Nat.dvd_of_mod_eq_zero hmod
      exact Nat.le_of_dvd (by exact_mod_cast hpos) hdvd
    rcases hdown (by rw [hn]; omega) with h0 | h0
    · rw [← hpresent, h1] at h0; exact absurd h0 one_ne_zero
    · rw [← havail, h2] at h0; exact absurd h0 one_ne_zero
  · intro hcase m hm
    rcases hcase with hnil | hok
    · rw [hnil] at hm; cases hm
    · obtain ⟨h1, h2, h3⟩ := hinv.succeeded hok
      obtain ⟨p1, p2, p3⟩ := hlast m hm
      have hn0 : n = 0 := by rw [h3] at hn; exact_mod_cast hn.symm
      refine ⟨p1.trans h1.symm, p2.trans h2.symm, ?_⟩
      rw [p3, hn0]; simp

/-- the next successful poll shows the flags again -/
theorem flagsShown_recovered :
    FlagsShown smallExporter (collectorStart .zeroed smallExporter) [quietEnv 0, failingEnv 15000 999, quietEnv 30000] :=
  (flagsShown_iff _ _ _ smallExporter smallConfig_load .zeroed _ (by decide)).2 (Or.inr (by decide +kernel))

/-! ## A lost GPU -/

/-- the thread has left its loop with gpu_present = 0, and the child still shows 1 -/
theorem loss_not_sent :
    (run (step smallExporter) (collectorStart .zeroed smallExporter)
      [quietEnv 0, failingEnv 15000 errorGpuIsLost]).ctx.gpuPresent = 0 ∧
    (messages smallExporter (collectorStart .zeroed smallExporter)
      [quietEnv 0, failingEnv 15000 errorGpuIsLost]).getLast?.map (fun m => m.snapshot.gpuPresent) = some 1 ∧
    ¬ FlagsShown smallExporter (collectorStart .zeroed smallExporter) [quietEnv 0, failingEnv 15000 errorGpuIsLost] := by
  have hlost : (run (step smallExporter) (collectorStart .zeroed smallExporter)
      [quietEnv 0, failingEnv 15000 errorGpuIsLost]).ctx.gpuPresent = 0 := by decide +kernel
  have hsent : (messages smallExporter (collectorStart .zeroed smallExporter)
      [quietEnv 0, failingEnv 15000 errorGpuIsLost]).getLast?.map (fun m => m.snapshot.gpuPresent) = some 1 := by
    decide +kernel
  refine ⟨hlost, hsent, ?_⟩
  intro hshown
  obtain ⟨m, hm, hm1⟩ := Option.map_eq_some_iff.1 hsent
  have hpresent := (hshown m hm).1
  rw [hm1, hlost] at hpresent
  exact absurd hpresent one_ne_zero

end GpuHealth.LossPublication
