/-
Whether a hot reload installs the baseline a restart would.

The property (`Agrees`): whenever an iteration of the poll loop reloads, in any run from any start, the baseline it
installs is the one `main` computes at startup from the same file for the same device, driver_mismatch included. It
fails: `main` compares the driver versions of a valid baseline only, the poll loop those of whatever `baseline_load`
returned, and a file that is missing has the empty version (`removed_file_mismatches`).

`agrees_iff`: for every run, reload, file and device, the two agree if and only if the file is a baseline of the device
(`Accepts`), or the driver version it leaves behind (`fileDriver`) is the device's.
Witness `agrees_iff_own`: a reload of the device's own baseline.
-/
import GpuHealth.Collector
import GpuHealth.Scenarios.BaselineAcceptance

namespace GpuHealth.RestartAgreement

open GpuHealth.CText GpuHealth.State GpuHealth.StateText GpuHealth.Settings GpuHealth.BaselineAcceptance
open GpuHealth.Collector GpuHealth.Runs

variable {K : Type} [Arith K]

/-! ## The property -/

/-- the iteration publishes and finds an inotify event -/
structure Reloads (exp : Exporter K) (st : PollState K) (env : PollEnv) : Prop where
  publishes : Publishes exp st env
  watched : exp.baselineInotifyFd ≥ 0
  event : env.inotify = 1

/-- the loop after `envs`, from the context `main` loaded -/
def polled (exp : Exporter K) (ctx : GpuCtx K) (envs : List PollEnv) : PollState K :=
  run (step exp) (collectorStart ctx exp) envs

/-- the baseline in use after the iteration is the one a restart on the same file computes -/
def Agrees (exp : Exporter K) (ctx : GpuCtx K) (envs : List PollEnv) (env : PollEnv) : Prop :=
  ∀ probeFile nowS, (step exp (polled exp ctx envs) env).ctx.baseline =
    (mainLoadFiles exp ctx env.baselineFile probeFile nowS).baseline

/-! ## The condition -/

instance : DecidablePred Rejects
  | (.perfWMean, t) => inferInstanceAs (Decidable (parseDouble t 0 (10 ^ 9) = none))
  | (.establishedAt, t) => inferInstanceAs (Decidable (parseIso8601 t = 0))
  | (.sampleCount, t) => inferInstanceAs (Decidable (parseInt t 1 1000000 = none))
  | (.serial, _) => isFalse id
  | (.uuid, _) => isFalse id
  | (.driverVersion, _) => isFalse id
  | (.workload, _) => isFalse id

/-- `f` is a baseline of the device: well formed, with its serial and a mean that is not 0 or less -/
structure Accepts (f serial : CStr) : Prop where
  wellFormed : WellFormed (settingsOf f)
  serial : ∃ t, lastText (settingsOf f) .serial = some t ∧ t.take 31 = serial
  mean : ∃ t v, lastText (settingsOf f) .perfWMean = some t ∧ parseDouble t 0 (10 ^ 9) = some v ∧ ¬ v ≤ .fin 0

/-- the last driver_version in front of the first rejected text, as stored; empty without one -/
def fileDriver : Option CStr → CStr
  | none => []
  | some f =>
    ((lastText ((settingsOf f).takeWhile fun s => ¬ Rejects s) .driverVersion).map fun t => t.take 63).getD []

/-! ## The file -/

theorem before_eq (l : List (BaselineKey × CStr)) :
    (baselineRules K).before l = l.takeWhile fun s => ¬ Rejects s := by
  unfold Rules.before
  congr 1
  funext s
  obtain ⟨k, t⟩ := s
  rw [Bool.eq_iff_iff, decide_eq_true_iff]
  cases k <;> simp [baselineRules, Rejects, isoTime, Option.isSome_iff_ne_none]

theorem driverVersion_eq (file : Option CStr) (serial : CStr) :
    (baselineLoad file serial : GpuBaseline K).driverVersion = fileDriver file := by
  cases file with
  | none => rfl
  | some f =>
    have hfield := StateValue.str.inj (baselineLoad_field (K := K) f serial .driverVersion)
    rw [hfield, baselineScan_driverVersion, before_eq]
    rfl

theorem fileDriver_length (file : Option CStr) : (fileDriver file).length ≤ 63 := by
  cases file with
  | none => exact Nat.zero_le _
  | some f =>
    simp only [fileDriver]
    cases lastText ((settingsOf f).takeWhile fun s => ¬ Rejects s) .driverVersion with
    | none => exact Nat.zero_le _
    | some t => exact List.length_take_le 63 t

/-- `baseline_load` returns a valid baseline of an accepted file, an invalid one of any other -/
theorem accepts_iff (f serial : CStr) : Accepts f serial ↔ (baselineScan f : BaselineScan K).accepted serial := by
  by_cases hwell : WellFormed (settingsOf f)
  · obtain ⟨text, t, mean, htext, hserial, ht, hmean, hnumber⟩ := scan_texts (K := K) hwell
    have hpos : ¬ (mean.ofRat : Dbl K) ≤ .fin 0 ↔ ¬ mean ≤ .fin 0 := by
      rw [mean_positive_iff hmean, ← Dbl.ofRat_rat mean, mean_positive_iff hmean, Dbl.ofRat_rat]
    obtain ⟨herr, hfields⟩ := (wellFormed_iff (K := K) f).1 hwell
    refine ⟨fun h => ?_, fun h => ?_⟩
    · obtain ⟨text', htext', htake⟩ := h.serial
      obtain ⟨t', v, ht', hv, hle⟩ := h.mean
      cases htext.symm.trans htext'
      cases ht.symm.trans ht'
      cases hmean.symm.trans hv
      exact ⟨herr, hfields, hserial.trans htake, hnumber ▸ hpos.2 hle⟩
    · obtain ⟨-, -, hsame, hle⟩ := h
      exact ⟨hwell, ⟨text, htext, hserial.symm.trans hsame⟩, ⟨t, mean, ht, hmean, hpos.1 (hnumber ▸ hle)⟩⟩
  · refine iff_of_false (fun h => hwell h.wellFormed) fun h => hwell ?_
    exact (wellFormed_iff (K := K) f).2 ⟨h.1, h.2.1⟩

/-! ## The two computations -/

/-- the verdict of the driver check is not set before it -/
theorem baselineLoad_driverMismatch (file : Option CStr) (serial : CStr) :
    (baselineLoad file serial : GpuBaseline K).driverMismatch = 0 := by
  cases file with
  | none => rfl
  | some f =>
    have hzero := (baselineScan_verdicts (K := K) f).2
    unfold baselineLoad
    dsimp only
    split_ifs <;> exact hzero

omit [Arith K] in
theorem set_driverMismatch (b : GpuBaseline K) (x : ℤ) : { b with driverMismatch := x } = b ↔ x = b.driverMismatch :=
  ⟨congrArg GpuBaseline.driverMismatch, fun h => by rw [h]⟩

theorem driverMismatch_eq_zero {a b : CStr} (ha : a.length ≤ 63) : driverMismatch a b = 0 ↔ a = b.take 64 := by
  rw [driverMismatch, List.take_of_length_le (by omega)]
  split_ifs with h
  · exact iff_of_false one_ne_zero h
  · exact iff_of_true rfl (not_not.1 h)

/-- a reload compares the versions of whatever it has loaded, `main` those of an accepted file -/
theorem reloaded_eq_iff (exp : Exporter K) (ctx : GpuCtx K) (file probeFile : Option CStr) (nowS : UInt64) :
    reloadedBaseline ctx file = (mainLoadFiles exp ctx file probeFile nowS).baseline ↔
      (∃ f, file = some f ∧ Accepts f ctx.serial) ∨ fileDriver file = ctx.driverVersion.take 64 := by
  have hdriver := driverVersion_eq (K := K) file ctx.serial
  have hsame : driverMismatch (fileDriver file) ctx.driverVersion = 0 ↔ fileDriver file = ctx.driverVersion.take 64 :=
    driverMismatch_eq_zero (fileDriver_length file)
  have hrejected : (baselineLoad file ctx.serial : GpuBaseline K).available = 0 ∨
      (baselineLoad file ctx.serial : GpuBaseline K).valid = 0 →
      (reloadedBaseline ctx file = (mainLoadFiles exp ctx file probeFile nowS).baseline ↔
        fileDriver file = ctx.driverVersion.take 64) := by
    intro hinvalid
    have hskip : ¬ ((baselineLoad file ctx.serial : GpuBaseline K).available ≠ 0 ∧
        (baselineLoad file ctx.serial : GpuBaseline K).valid ≠ 0) := by tauto
    simp only [reloadedBaseline, mainLoadFiles, if_neg hskip]
    rw [set_driverMismatch, hdriver, baselineLoad_driverMismatch, hsame]
  cases file with
  | none =>
    rw [hrejected (Or.inl rfl)]
    exact ⟨Or.inr, fun h => h.resolve_left (by rintro ⟨f, hf, -⟩; cases hf)⟩
  | some f =>
    by_cases hacc : Accepts f ctx.serial
    · refine iff_of_true ?_ (Or.inl ⟨f, rfl, hacc⟩)
      have hload := baselineLoad_accepted ((accepts_iff (K := K) f ctx.serial).1 hacc)
      have hvalid : (baselineLoad (some f) ctx.serial : GpuBaseline K).available ≠ 0 ∧
          (baselineLoad (some f) ctx.serial : GpuBaseline K).valid ≠ 0 := by
        rw [hload]
        exact ⟨by rw [(baselineScan_kept f).available]; exact one_ne_zero, one_ne_zero⟩
      simp only [reloadedBaseline, mainLoadFiles, if_pos hvalid]
    · rw [hrejected (Or.inr (baselineLoad_rejected fun h => hacc ((accepts_iff f ctx.serial).2 h)))]
      exact ⟨Or.inr, fun h => h.resolve_left (by rintro ⟨f', hf, hacc'⟩; cases hf; exact hacc hacc')⟩

/-! ## The run -/

/-- an iteration keeps the device's identity -/
theorem step_identity (exp : Exporter K) (st : PollState K) (env : PollEnv) :
    (step exp st env).ctx.serial = st.ctx.serial ∧ (step exp st env).ctx.driverVersion = st.ctx.driverVersion := by
  rcases pollIteration_cases exp st env with ⟨-, hit⟩ | ⟨ctx, hentry, -, hit⟩ | ⟨ctx, ret, hentry, -, hit⟩
  · rw [step, hit]
    exact ⟨rfl, rfl⟩
  · obtain ⟨-, -, t, rfl⟩ := pollEntry_some hentry
    rw [step, hit]
    simp only [publishedCtx, pollPublish, Snapshot.snapshotUpdate, baselineReload]
    split_ifs <;> exact ⟨rfl, rfl⟩
  · obtain ⟨-, -, t, rfl⟩ := pollEntry_some hentry
    rw [step, hit]
    simp only [pollError]
    split_ifs <;> exact ⟨rfl, rfl⟩

/-- and so does a run -/
theorem polled_identity (exp : Exporter K) (ctx : GpuCtx K) (envs : List PollEnv) :
    (polled exp ctx envs).ctx.serial = ctx.serial ∧ (polled exp ctx envs).ctx.driverVersion = ctx.driverVersion := by
  induction envs using List.reverseRecOn with
  | nil => exact ⟨rfl, rfl⟩
  | append_singleton envs env ih =>
    obtain ⟨hserial, hdriver⟩ := step_identity exp (polled exp ctx envs) env
    rw [polled, run_snoc]
    exact ⟨hserial.trans ih.1, hdriver.trans ih.2⟩

/-- a reload installs the file's baseline -/
theorem step_reloads {exp : Exporter K} {st : PollState K} {env : PollEnv} (h : Reloads exp st env) :
    (step exp st env).ctx.baseline = reloadedBaseline st.ctx env.baselineFile := by
  obtain ⟨⟨hentry, hresp⟩, hfd, hevent⟩ := h
  obtain ⟨ctx, hctx⟩ := Option.isSome_iff_exists.1 hentry
  obtain ⟨-, -, t, hsame⟩ := pollEntry_some hctx
  rw [step, pollIteration, hctx]
  dsimp only
  rw [pollAttempt_ok hresp]
  change (publishedCtx exp ctx env).baseline = _
  rw [(publishedCtx_frame exp ctx env).2.2.1, baselineReload, if_pos ⟨hfd, hevent⟩, hsame]
  rfl

/-- **When a reload agrees with a restart**: the file is a baseline of the device, or its driver version, empty without
one, is the device's. -/
theorem agrees_iff (exp : Exporter K) (ctx : GpuCtx K) (envs : List PollEnv) (env : PollEnv)
    (h : Reloads exp (polled exp ctx envs) env) :
    Agrees exp ctx envs env ↔ (∃ f, env.baselineFile = some f ∧ Accepts f ctx.serial) ∨
      fileDriver env.baselineFile = ctx.driverVersion.take 64 := by
  have hinstalled : reloadedBaseline (polled exp ctx envs).ctx env.baselineFile =
      reloadedBaseline ctx env.baselineFile := by
    simp only [reloadedBaseline, (polled_identity exp ctx envs).1, (polled_identity exp ctx envs).2]
  unfold Agrees
  rw [step_reloads h, hinstalled]
  refine ⟨fun hall => (reloaded_eq_iff exp ctx _ none 0).1 (hall none 0), fun hcond probeFile nowS => ?_⟩
  exact (reloaded_eq_iff exp ctx _ probeFile nowS).2 hcond

/-! ## Two reloads -/

/-- a watched baseline directory, and a device with a driver -/
def watching : Exporter ℚ := { smallExporter with baselineInotifyFd := 5 }

def device : GpuCtx ℚ := { GpuCtx.zeroed with serial := "1".toList, driverVersion := "535.104".toList }

/-- an iteration that finds an event, and then this file -/
def reloadEnv (file : Option CStr) : PollEnv := { quietEnv 0 with inotify := 1, baselineFile := file }

theorem reloadEnv_reloads (file : Option CStr) : Reloads watching (polled watching device []) (reloadEnv file) :=
  ⟨⟨rfl, (by decide : Nvml.Responds quietVtable)⟩, by decide, rfl⟩

/-- the device's own baseline, without a driver version -/
theorem agrees_iff_own : Agrees watching device [] (reloadEnv (some (baselineOf "1" "2"))) := by
  refine (agrees_iff watching device [] _ (reloadEnv_reloads _)).2 (Or.inl ⟨_, rfl, ?_⟩)
  obtain ⟨hserial, hmean, hparse⟩ := ownBaseline_texts
  exact ⟨ownBaseline_wellFormed, ⟨_, hserial, rfl⟩, ⟨_, _, hmean, hparse, by decide⟩⟩

/-- After the baseline file is removed the reload reports a driver mismatch, and a restart none. -/
theorem removed_file_mismatches : Reloads watching (polled watching device []) (reloadEnv none) ∧
    (step watching (polled watching device []) (reloadEnv none)).ctx.baseline.driverMismatch = 1 ∧
    (mainLoadFiles watching device none none 0).baseline.driverMismatch = 0 ∧
    ¬ Agrees watching device [] (reloadEnv none) := by
  have hreload : (step watching (polled watching device []) (reloadEnv none)).ctx.baseline.driverMismatch = 1 := by
    rw [step_reloads (reloadEnv_reloads none)]
    rfl
  refine ⟨reloadEnv_reloads none, hreload, rfl, fun hagrees => ?_⟩
  have hsame := congrArg GpuBaseline.driverMismatch (hagrees none 0)
  rw [hreload] at hsame
  exact absurd hsame one_ne_zero

end GpuHealth.RestartAgreement
