/-
Whether the row-remap penalty is applied for failed remaps, and for nothing else.

The property: in the snapshot of every successful poll whose window passes the gate, GPU_REASON_ROW_REMAP is set if and
only if a remap failure is reported (`FailureReported`): by the DCGM field when it is present, otherwise by the
failure_occurred flag of `DeviceGetRemappedRows`. It fails without DCGM: `do_nvml_poll` stores the number of rows
remapped after uncorrectable errors as the number of failures, and reads the flag into a variable nothing uses
(`repaired_row_penalised`).

`remap_iff`: for every poll of every state, the snapshot meets the property if and only if DCGM reports, or the NVML
call is missing or fails, or its count of uncorrectable rows and its flag are both zero or both nonzero.
-/
import GpuHealth.Collector

namespace GpuHealth.RowRemap

open GpuHealth.Scorer GpuHealth.Nvml GpuHealth.Dcgm GpuHealth.Collector

variable {K : Type} [Arith K]

/-! ## The property -/

/-- the DCGM field of the cycle, none when it is unavailable -/
def dcgmFailures (exp : Exporter K) (env : PollEnv) : Option UInt32 :=
  if exp.dcgmAvailable = 0 then none
  else (dcgmPoll env.dcgm : Option (DcgmFields K)).bind fun d =>
    if d.rowRemapFailures = unavailableU32 then none else some d.rowRemapFailures

/-- a successful `DeviceGetRemappedRows` that reports a failure -/
def NvmlFailure (vt : NvmlVtable) : Prop := ∃ r, vt.deviceGetRemappedRows = some r ∧ r.ret = 0 ∧ r.val.failed ≠ 0

def FailureReported (exp : Exporter K) (env : PollEnv) : Prop :=
  match dcgmFailures exp env with
  | some n => n > 0
  | none => NvmlFailure env.nvml

/-- the snapshot shows the reason exactly when a failure is reported -/
def ShowsFailures (exp : Exporter K) (env : PollEnv) (s : GpuSnapshot K) : Prop :=
  s.reasonMask &&& Reason.rowRemap ≠ 0 ↔ FailureReported exp env

/-! ## The condition -/

/-- without DCGM, the count of uncorrectable rows and the failure flag agree on being zero -/
def CountMatchesFlag (exp : Exporter K) (env : PollEnv) : Prop :=
  dcgmFailures exp env = none → ∀ r, env.nvml.deviceGetRemappedRows = some r → r.ret = 0 →
    (r.val.uncorr ≠ 0 ↔ r.val.failed ≠ 0)

/-! ## The bit in the reason mask -/

theorem or_and_of_disjoint (x : UInt32) {b c : UInt32} (h : b &&& c = 0) : (x ||| b) &&& c = x &&& c := by
  have hbits : b.toBitVec &&& c.toBitVec = 0 := congrArg UInt32.toBitVec h
  apply UInt32.eq_of_toBitVec_eq
  rw [UInt32.toBitVec_and, UInt32.toBitVec_or, UInt32.toBitVec_and, BitVec.and_or_distrib_right, hbits]
  exact BitVec.or_zero

/-- a block that does not touch the bit -/
def Keeps (bit : UInt32) (f : Acc K → Acc K) : Prop := ∀ a, (f a).reasons &&& bit = a.reasons &&& bit

theorem penalise_keeps (a : Acc K) (p : Dbl K) {b bit : UInt32} (h : b &&& bit = 0) :
    (a.penalise p b).reasons &&& bit = a.reasons &&& bit := or_and_of_disjoint a.reasons h

theorem thermalTier_keeps (p95 warn bad : Dbl K) {warnBit badBit bit : UInt32} (hwarn : warnBit &&& bit = 0)
    (hbad : badBit &&& bit = 0) : Keeps bit (thermalTier p95 warn bad warnBit badBit) := by
  intro a
  unfold thermalTier
  split_ifs
  · exact penalise_keeps a _ hbad
  · exact penalise_keeps a _ hwarn
  · rfl
  · rfl

theorem pcieDegraded_keeps (cur max : ℤ) (penalty : Dbl K) {b bit : UInt32} (h : b &&& bit = 0) :
    Keeps bit (pcieDegraded cur max penalty b) := by
  intro a
  unfold pcieDegraded
  split_ifs
  · exact penalise_keeps a _ h
  · rfl

/-- the reason for a drop of perf/W is one of its own three bits -/
theorem perfBlock_keeps (drop : Option (Dbl K)) (cfg : GpuConfig (Dbl K)) :
    Keeps Reason.rowRemap (perfBlock drop cfg) := by
  intro a
  unfold perfBlock
  cases drop with
  | none => rfl
  | some drop =>
    dsimp only
    split_ifs
    · exact penalise_keeps a _ (by decide)
    · exact penalise_keeps a _ (by decide)
    · exact penalise_keeps a _ (by decide)
    · rfl

omit [Arith K] in
theorem staleBlock_keeps (probe : Option (GpuProbeResult K)) : Keeps Reason.rowRemap (staleBlock probe) := by
  intro a
  unfold staleBlock
  cases probe with
  | none => rfl
  | some p =>
    dsimp only
    split_ifs
    · exact or_and_of_disjoint a.reasons (by decide)
    · rfl

/-- the blocks of the window's statistics and of the retired pages -/
theorem firstBlocks_keep (st : WindowStats K) (state : GpuState K) (cfg : GpuConfig (Dbl K)) :
    Keeps Reason.rowRemap (tempBlock st cfg) ∧ Keeps Reason.rowRemap (hbmBlock st cfg) ∧
    Keeps Reason.rowRemap (clockBlock st cfg) ∧ Keeps Reason.rowRemap (powerBlock st cfg) ∧
    Keeps Reason.rowRemap (eccSbeBlock st cfg) ∧ Keeps Reason.rowRemap (eccDbeBlock st cfg) ∧
    Keeps Reason.rowRemap (retiredBlock state cfg) := by
  refine ⟨thermalTier_keeps _ _ _ (by decide) (by decide), thermalTier_keeps _ _ _ (by decide) (by decide), ?_, ?_, ?_,
    ?_, ?_⟩
  · intro a
    unfold clockBlock
    split_ifs
    · exact penalise_keeps a _ (by decide)
    · rfl
  · intro a
    unfold powerBlock
    split_ifs
    · exact penalise_keeps a _ (by decide)
    · rfl
  · intro a
    unfold eccSbeBlock
    split_ifs
    · exact penalise_keeps a _ (by decide)
    · rfl
  · intro a
    unfold eccDbeBlock
    split_ifs
    · exact penalise_keeps a _ (by decide)
    · rfl
  · intro a
    unfold retiredBlock
    split_ifs
    · exact penalise_keeps a _ (by decide)
    · exact penalise_keeps a _ (by decide)
    · rfl

/-- **The bit is set by its own block only.** -/
theorem penalties_remap (st : WindowStats K) (state : GpuState K) (baseline : Option (GpuBaseline K))
    (probe : Option (GpuProbeResult K)) (cfg : GpuConfig (Dbl K)) :
    (penalties st state baseline probe cfg).reasons &&& Reason.rowRemap ≠ 0 ↔ state.rowRemapFailures > 0 := by
  obtain ⟨htemp, hhbm, hclock, hpower, hsbe, hdbe, hretired⟩ := firstBlocks_keep st state cfg
  have hgen : Keeps Reason.rowRemap (pcieGenBlock state cfg) := pcieDegraded_keeps _ _ _ (by decide)
  have hwidth : Keeps Reason.rowRemap (pcieWidthBlock state cfg) := pcieDegraded_keeps _ _ _ (by decide)
  unfold penalties
  dsimp only
  rw [staleBlock_keeps, perfBlock_keeps, hwidth, hgen]
  -- what stands before the row-remap block has no such bit
  set a := retiredBlock state cfg (eccDbeBlock st cfg (eccSbeBlock st cfg (powerBlock st cfg (clockBlock st cfg
    (hbmBlock st cfg (tempBlock st cfg ⟨.fin 100, 0⟩)))))) with ha
  have hnone : a.reasons &&& Reason.rowRemap = 0 := by
    rw [ha, hretired, hdbe, hsbe, hpower, hclock, hhbm, htemp]
    exact UInt32.zero_and
  unfold rowRemapBlock
  split_ifs with hfailures
  · refine iff_of_true ?_ hfailures
    have hbits : (a.reasons ||| Reason.rowRemap) &&& Reason.rowRemap = Reason.rowRemap := by
      apply UInt32.eq_of_toBitVec_eq
      rw [UInt32.toBitVec_and, UInt32.toBitVec_or, BitVec.and_or_distrib_right]
      have hzero := congrArg UInt32.toBitVec hnone
      rw [UInt32.toBitVec_and] at hzero
      rw [hzero, BitVec.and_self]
      decide
    rw [Acc.penalise, hbits]
    decide
  · exact iff_of_false (not_not.2 hnone) hfailures

/-! ## The published snapshot -/

/-- the failures the scorer sees: DCGM's, else NVML's uncorrectable rows -/
theorem published_failures {exp : Exporter K} {st : PollState K} {env : PollEnv} {s : GpuSnapshot K}
    (h : published exp st env = some s) (hgate : s.telemetryOk = 1) :
    s.reasonMask &&& Reason.rowRemap ≠ 0 ↔
      (dcgmFailures exp env).getD (optional env.nvml.deviceGetRemappedRows (·.uncorr) 0) > 0 := by
  obtain ⟨ctx, -, -, rfl⟩ := published_eq_some.1 h
  obtain ⟨-, -, -, hstate⟩ := publishedCtx_frame exp ctx env
  have hmask : (publishedCtx exp ctx env).snapshot.reasonMask = (scoreGpu env.malloc (publishedCtx exp ctx env).ring
      (publishedCtx exp ctx env).state (some (publishedCtx exp ctx env).baseline)
      (some (publishedCtx exp ctx env).probe) exp.cfg).reasonMask := rfl
  have hok : (publishedCtx exp ctx env).snapshot.telemetryOk =
      completenessGate (publishedCtx exp ctx env).ring exp.cfg := scoreGpu_telemetryOk _ _ _ _ _ _
  rw [hok] at hgate
  have hscore : ∀ state baseline probe, (scoreGpu env.malloc (publishedCtx exp ctx env).ring state baseline probe
      exp.cfg).reasonMask = (penalties (ringStats env.malloc (publishedCtx exp ctx env).ring exp.cfg) state baseline
        probe exp.cfg).reasons := by
    intro state baseline probe
    rw [scoreGpu, if_neg (by rw [hgate]; decide)]
    rfl
  have hfailures : (dcgmState exp env (nvmlState env.nvml (freshState ctx))).rowRemapFailures =
      (dcgmFailures exp env).getD (optional env.nvml.deviceGetRemappedRows (·.uncorr) 0) := by
    unfold dcgmState dcgmFailures
    by_cases havailable : exp.dcgmAvailable = 0
    · rw [if_neg (not_not.2 havailable), if_pos havailable]
      rfl
    · rw [if_pos havailable, if_neg havailable]
      cases hpoll : (dcgmPoll env.dcgm : Option (DcgmFields K)) with
      | none => rfl
      | some d =>
        rw [Option.bind_some]
        have hfield : ∀ state : GpuState K, (applyDcgmState state d).rowRemapFailures =
            if d.rowRemapFailures ≠ unavailableU32 then d.rowRemapFailures else state.rowRemapFailures := fun _ => rfl
        dsimp only
        rw [hfield]
        by_cases hsentinel : d.rowRemapFailures = unavailableU32
        · rw [if_pos hsentinel, if_neg (not_not.2 hsentinel)]
          rfl
        · rw [if_neg hsentinel, if_pos hsentinel]
          rfl
  rw [hmask, hscore, penalties_remap, hstate, hfailures]

/-- **When the penalty is for failed remaps.** For every successful poll whose window passes the gate: if and only if
DCGM reports, or NVML's count and flag agree. -/
theorem remap_iff (exp : Exporter K) (st : PollState K) (env : PollEnv) (s : GpuSnapshot K)
    (h : published exp st env = some s) (hgate : s.telemetryOk = 1) :
    ShowsFailures exp env s ↔ CountMatchesFlag exp env := by
  rw [ShowsFailures, published_failures h hgate, CountMatchesFlag, FailureReported]
  cases hdcgm : dcgmFailures exp env with
  | some n => simp
  | none =>
    have hpos : ∀ n : UInt32, n > 0 ↔ n ≠ 0 := fun n => UInt32.pos_iff_ne_zero
    simp only [Option.getD_none, NvmlFailure, true_imp_iff]
    cases hcall : env.nvml.deviceGetRemappedRows with
    | none => simp [Nvml.optional]
    | some r =>
      by_cases hret : r.ret = 0
      · simp [Nvml.optional, hret, hpos]
      · simp [Nvml.optional, hret]

/-! ## A repaired row -/

/-- an iteration in which NVML reports one row remapped after uncorrectable errors, and no failure -/
def repairedEnv (ms : UInt64) : PollEnv :=
  { quietEnv ms with nvml := { quietVtable with deviceGetRemappedRows := some ⟨0, ⟨0, 1, 0, 0⟩⟩ } }

/-- three polls, 15 s apart -/
def afterThree : PollState ℚ :=
  Runs.run (step smallExporter) (collectorStart .zeroed smallExporter)
    [quietEnv 15000, quietEnv 30000, quietEnv 45000]

/-- the snapshot of the fourth -/
def fourth (env : PollEnv) : GpuSnapshot ℚ := (publishedCtx smallExporter afterThree.ctx env).snapshot

theorem fourth_scored (env : PollEnv) (h : env = quietEnv 60000 ∨ env = repairedEnv 60000) :
    published smallExporter afterThree env = some (fourth env) ∧ (fourth env).telemetryOk = 1 := by
  rcases h with rfl | rfl <;> decide +kernel

theorem remap_iff_quiet : ShowsFailures smallExporter (quietEnv 60000) (fourth (quietEnv 60000)) ↔
    CountMatchesFlag smallExporter (quietEnv 60000) :=
  remap_iff smallExporter afterThree (quietEnv 60000) _ (fourth_scored _ (Or.inl rfl)).1 (fourth_scored _ (Or.inl rfl)).2

/-- The repaired row costs the GPU its 25 points. -/
theorem repaired_row_penalised : published smallExporter afterThree (repairedEnv 60000) =
      some (fourth (repairedEnv 60000)) ∧ (fourth (repairedEnv 60000)).telemetryOk = 1 ∧
    (fourth (repairedEnv 60000)).score = .fin 75 ∧
    ¬ ShowsFailures smallExporter (repairedEnv 60000) (fourth (repairedEnv 60000)) := by
  obtain ⟨hpublished, hok⟩ := fourth_scored (repairedEnv 60000) (Or.inr rfl)
  refine ⟨hpublished, hok, by decide +kernel, ?_⟩
  intro hshows
  have hbit : (fourth (repairedEnv 60000)).reasonMask &&& Reason.rowRemap ≠ 0 := by decide +kernel
  have hreported := hshows.1 hbit
  have hnone : dcgmFailures smallExporter (repairedEnv 60000) = none := rfl
  rw [FailureReported, hnone] at hreported
  obtain ⟨r, hr, -, hfailed⟩ := hreported
  cases hr
  exact hfailed rfl

end GpuHealth.RowRemap
