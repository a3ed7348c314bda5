/-
Lifetime counters over whole runs of the poll loop.

The property: when the device-side lifetime counters never decrease, and NVML and DCGM report them truthfully
whenever they report them, the values in successive published snapshots never decrease (`NeverDecrease`), whatever
optional call, dcgm_poll or DCGM field fails. The code rebuilds the state from zero in every cycle, and a counter that
no source delivers stays zero.

- `failure_resets_counter`: a GPU with 12 retired pages; the second DeviceGetRetiredPages fails, and the snapshot goes
  back to 0.
- `neverDecrease_iff`: the counters of a run never decrease exactly when no counter above zero that some source
  delivers in a publishing cycle is delivered by none in the next (`StaysReadable`).
Witness `neverDecrease_steady`: two cycles in which NVML delivers everything but NVLink and XID.

Premises: the device's counters never decrease over the run, and a delivered value is the device's.
-/
import GpuHealth.Collector

namespace GpuHealth.LifetimeCounters

open GpuHealth.Nvml GpuHealth.Dcgm GpuHealth.Collector GpuHealth.Runs

variable {K : Type} [Arith K]

/-! ## Counters and their sources -/

inductive LifetimeCounter where
  | retiredPagesSbe
  | retiredPagesDbe
  | rowRemapFailures
  | pcieReplayCount
  | nvlinkReplayCount
  | nvlinkRecoveryCount
  | nvlinkCrcCount
  | xidCount
  | eccSbeAggregate
  | eccDbeAggregate
deriving DecidableEq, Repr

namespace LifetimeCounter

/-- the published value -/
def value (s : GpuSnapshot K) : LifetimeCounter → ℕ
  | retiredPagesSbe => s.retiredPagesSbe.toNat
  | retiredPagesDbe => s.retiredPagesDbe.toNat
  | rowRemapFailures => s.rowRemapFailures.toNat
  | pcieReplayCount => s.pcieReplayCount.toNat
  | nvlinkReplayCount => s.nvlinkReplayCount.toNat
  | nvlinkRecoveryCount => s.nvlinkRecoveryCount.toNat
  | nvlinkCrcCount => s.nvlinkCrcCount.toNat
  | xidCount => s.xidCount.toNat
  | eccSbeAggregate => s.eccSbeAggregate.toNat
  | eccDbeAggregate => s.eccDbeAggregate.toNat

/-- the answer of a call that exists and succeeds -/
def answered {α : Type} (r : Option (Reply α)) (f : α → ℕ) : Option ℕ :=
  r.bind fun r => if r.ret = 0 then some (f r.val) else none

/-- what NVML delivers -/
def nvml (vt : NvmlVtable) : LifetimeCounter → Option ℕ
  | retiredPagesSbe => answered (vt.deviceGetRetiredPages.map fun get => get retirementMultipleSingleBit) UInt32.toNat
  | retiredPagesDbe => answered (vt.deviceGetRetiredPages.map fun get => get retirementDoubleBit) UInt32.toNat
  | rowRemapFailures => answered vt.deviceGetRemappedRows fun r => r.uncorr.toNat
  | pcieReplayCount => answered vt.deviceGetPcieReplayCounter UInt32.toNat
  | eccSbeAggregate => answered (some (vt.deviceGetTotalEccErrors memoryErrorTypeCorrected aggregateEcc)) UInt64.toNat
  | eccDbeAggregate => answered (some (vt.deviceGetTotalEccErrors memoryErrorTypeUncorrected aggregateEcc)) UInt64.toNat
  | nvlinkReplayCount | nvlinkRecoveryCount | nvlinkCrcCount | xidCount => none

/-- a 64-bit entry without error that is neither blank nor the sentinel -/
def entryU64 (v : DcgmFieldValue) : Option ℕ := ((deliveredU64 v).filter (· ≠ unavailableU64)).map UInt64.toNat

def entryU32 (v : DcgmFieldValue) : Option ℕ := ((deliveredU32 v).filter (· ≠ unavailableU32)).map UInt32.toNat

/-- what a successful dcgm_poll delivers -/
def dcgm (values : PollField → DcgmFieldValue) : LifetimeCounter → Option ℕ
  | rowRemapFailures => entryU32 (values .rowRemapFailure)
  | pcieReplayCount => entryU64 (values .pcieReplayCounter)
  | nvlinkReplayCount => entryU64 (values .nvlinkReplayErrorCountTotal)
  | nvlinkRecoveryCount => entryU64 (values .nvlinkRecoveryErrorCountTotal)
  | nvlinkCrcCount => entryU64 (values .nvlinkCrcFlitErrorCountTotal)
  | xidCount => entryU64 (values .xidErrors)
  | retiredPagesSbe | retiredPagesDbe | eccSbeAggregate | eccDbeAggregate => none

/-- what DCGM delivers in a cycle -/
def dcgmReading (exp : Exporter K) (env : PollEnv) (c : LifetimeCounter) : Option ℕ :=
  if exp.dcgmAvailable ≠ 0 ∧ env.dcgm.ret = 0 then c.dcgm env.dcgm.val else none

/-- what the cycle can read: DCGM's value first -/
def reading (exp : Exporter K) (env : PollEnv) (c : LifetimeCounter) : Option ℕ :=
  (c.dcgmReading exp env).or (c.nvml env.nvml)

end LifetimeCounter

open LifetimeCounter

/-! ## The property -/

/-- the environment of an iteration, and the device's counters -/
structure DeviceEnv extends PollEnv where
  device : LifetimeCounter → ℕ

/-- the loop, driven by such environments -/
def stepDevice (exp : Exporter K) (st : PollState K) (i : DeviceEnv) : PollState K := step exp st i.toPollEnv

/-- the values of a counter in the published snapshots of a run -/
def series (exp : Exporter K) (st : PollState K) (l : List DeviceEnv) (c : LifetimeCounter) : List ℕ :=
  outputs (stepDevice exp) (fun st i => (published exp st i.toPollEnv).map fun s => c.value s) st l

def NeverDecrease (exp : Exporter K) (st : PollState K) (l : List DeviceEnv) : Prop :=
  ∀ c, (series exp st l c).IsChain (· ≤ ·)

/-- both sources report the device's value whenever they report one -/
def Truthful (exp : Exporter K) (i : DeviceEnv) : Prop :=
  ∀ c x, c.dcgmReading exp i.toPollEnv = some x ∨ c.nvml i.nvml = some x → x = i.device c

/-! ## The condition -/

/-- the publishing cycles of a run -/
def publishing (exp : Exporter K) (st : PollState K) (l : List DeviceEnv) : List DeviceEnv :=
  outputs (stepDevice exp) (fun st i => if decide (Publishes exp st i.toPollEnv) then some i else none) st l

/-- a counter above zero that `i` can read can be read by `j` -/
def StaysReadable (exp : Exporter K) (i j : DeviceEnv) : Prop :=
  ∀ c : LifetimeCounter, (c.reading exp i.toPollEnv).isSome → i.device c ≠ 0 → (c.reading exp j.toPollEnv).isSome

/-! ## One cycle -/

theorem optional_value {α β : Type} (r : Option (Reply α)) (f : α → β) (g : β → ℕ) (old : β) :
    g (Nvml.optional r f old) = (answered r fun x => g (f x)).getD (g old) := by
  unfold Nvml.optional answered
  cases r with
  | none => rfl
  | some r => simp only [Option.bind_some]; split_ifs <;> rfl

/-- the sentinel is not copied -/
theorem overlay_value {β : Type} [DecidableEq β] (d : Option β) (sentinel old : β) (g : β → ℕ) :
    g (if d.getD sentinel ≠ sentinel then d.getD sentinel else old) =
      ((d.filter (· ≠ sentinel)).map g).getD (g old) := by
  cases d with
  | none => simp
  | some x =>
    rw [Option.getD_some, Option.filter_some]
    by_cases h : x = sentinel
    · rw [if_neg (not_not.2 h), if_neg (by simp [h])]; rfl
    · rw [if_pos h, if_pos (by simp [h])]; rfl

/-- the counters of the state a cycle ends with -/
def stateValue (state : GpuState K) : LifetimeCounter → ℕ
  | retiredPagesSbe => state.retiredPagesSbe.toNat
  | retiredPagesDbe => state.retiredPagesDbe.toNat
  | rowRemapFailures => state.rowRemapFailures.toNat
  | pcieReplayCount => state.pcieReplayCount.toNat
  | nvlinkReplayCount => state.nvlinkReplayCount.toNat
  | nvlinkRecoveryCount => state.nvlinkRecoveryCount.toNat
  | nvlinkCrcCount => state.nvlinkCrcCount.toNat
  | xidCount => state.xidCount.toNat
  | eccSbeAggregate => state.eccSbeAggregate.toNat
  | eccDbeAggregate => state.eccDbeAggregate.toNat

/-- NVML's part of a cycle starts from zero -/
theorem nvmlState_value {vt : NvmlVtable} (h : Responds vt) (ctx : GpuCtx K) (c : LifetimeCounter) :
    stateValue (nvmlState vt (freshState ctx)) c = (c.nvml vt).getD 0 := by
  simp only [Responds, requiredRets, List.forall_mem_cons] at h
  obtain ⟨-, -, -, -, -, -, hsbe, hdbe, -⟩ := h
  cases c with
  | retiredPagesSbe => exact optional_value _ id UInt32.toNat 0
  | retiredPagesDbe => exact optional_value _ id UInt32.toNat 0
  | rowRemapFailures => exact optional_value _ RemappedRows.uncorr UInt32.toNat 0
  | pcieReplayCount =>
    have hval := optional_value vt.deviceGetPcieReplayCounter (fun u => u.toUInt64) UInt64.toNat 0
    simp only [UInt32.toNat_toUInt64] at hval
    exact hval
  | nvlinkReplayCount => rfl
  | nvlinkRecoveryCount => rfl
  | nvlinkCrcCount => rfl
  | xidCount => rfl
  | eccSbeAggregate => simp [LifetimeCounter.nvml, answered, hsbe, stateValue, nvmlState]
  | eccDbeAggregate => simp [LifetimeCounter.nvml, answered, hdbe, stateValue, nvmlState]

/-- DCGM's part replaces what it delivers -/
theorem dcgmState_value (exp : Exporter K) (env : PollEnv) (state : GpuState K) (c : LifetimeCounter) :
    stateValue (dcgmState exp env state) c = (c.dcgmReading exp env).getD (stateValue state c) := by
  unfold dcgmState dcgmReading
  rw [dcgmPoll_eq]
  by_cases hav : exp.dcgmAvailable = 0
  · simp [hav]
  by_cases hret : env.dcgm.ret = 0
  · simp only [hav, hret, ne_eq, not_false_eq_true, and_self, if_true]
    cases c with
    | retiredPagesSbe => rfl
    | retiredPagesDbe => rfl
    | eccSbeAggregate => rfl
    | eccDbeAggregate => rfl
    | rowRemapFailures => exact overlay_value _ _ _ UInt32.toNat
    | pcieReplayCount => exact overlay_value _ _ _ UInt64.toNat
    | nvlinkReplayCount => exact overlay_value _ _ _ UInt64.toNat
    | nvlinkRecoveryCount => exact overlay_value _ _ _ UInt64.toNat
    | nvlinkCrcCount => exact overlay_value _ _ _ UInt64.toNat
    | xidCount => exact overlay_value _ _ _ UInt64.toNat
  · simp [hav, hret]

/-- **A published counter is what the cycle can read, and 0 otherwise.** -/
theorem published_value {exp : Exporter K} {st : PollState K} {env : PollEnv} {s : GpuSnapshot K}
    (h : published exp st env = some s) (c : LifetimeCounter) : c.value s = (c.reading exp env).getD 0 := by
  obtain ⟨ctx, -, hok, rfl⟩ := published_eq_some.1 h
  have hsnap : c.value (publishedCtx exp ctx env).snapshot = stateValue (publishedCtx exp ctx env).state c := by
    cases c <;> rfl
  calc c.value (publishedCtx exp ctx env).snapshot
      = stateValue (dcgmState exp env (nvmlState env.nvml (freshState ctx))) c := by
        rw [hsnap, (publishedCtx_frame exp ctx env).2.2.2]
    _ = (c.dcgmReading exp env).getD ((c.nvml env.nvml).getD 0) := by rw [dcgmState_value, nvmlState_value hok]
    _ = (c.reading exp env).getD 0 := Option.getD_or.symm

/-! ## A run -/

/-- what a cycle with a truthful environment publishes -/
def shown (exp : Exporter K) (c : LifetimeCounter) (i : DeviceEnv) : ℕ :=
  if (c.reading exp i.toPollEnv).isSome then i.device c else 0

theorem value_eq_shown {exp : Exporter K} {st : PollState K} {i : DeviceEnv} {s : GpuSnapshot K}
    (htrue : Truthful exp i) (h : published exp st i.toPollEnv = some s) (c : LifetimeCounter) :
    c.value s = shown exp c i := by
  rw [published_value h, shown]
  cases hr : c.reading exp i.toPollEnv with
  | none => rfl
  | some x =>
    rw [Option.isSome_some, if_pos rfl, Option.getD_some]
    rw [reading, Option.or_eq_some_iff] at hr
    exact htrue c x (hr.imp id And.right)

/-- the series is what the publishing cycles show -/
theorem series_eq (exp : Exporter K) (st : PollState K) {l : List DeviceEnv} (htrue : ∀ i ∈ l, Truthful exp i)
    (c : LifetimeCounter) : series exp st l c = (publishing exp st l).map (shown exp c) := by
  unfold series publishing
  induction l generalizing st with
  | nil => rfl
  | cons i l ih =>
    have htail := ih (stepDevice exp st i) (by
      intro j hj
      exact htrue j (List.mem_cons_of_mem _ hj))
    rw [outputs_cons, outputs_cons, List.map_append, htail]
    congr 1
    by_cases hpub : Publishes exp st i.toPollEnv
    · obtain ⟨s, hs⟩ := published_isSome.2 hpub
      simp [hs, hpub, value_eq_shown (htrue i List.mem_cons_self) hs c]
    · have hnone : published exp st i.toPollEnv = none := by
        rw [← Option.not_isSome_iff_eq_none, Option.isSome_iff_exists, published_isSome]
        exact hpub
      simp [hnone, hpub]

omit [Arith K] in
/-- between two cycles, the device's counter having grown -/
theorem shown_le_iff (exp : Exporter K) {i j : DeviceEnv} {c : LifetimeCounter} (h : i.device c ≤ j.device c) :
    shown exp c i ≤ shown exp c j ↔
      ((c.reading exp i.toPollEnv).isSome → i.device c ≠ 0 → (c.reading exp j.toPollEnv).isSome) := by
  unfold shown
  split_ifs with hi hj hj
  · simp [hj, h]
  · simp [hi, hj]
  · simp [hj]
  · simp [hi]

/-- **A counter goes back exactly when a cycle cannot read it.** -/
theorem neverDecrease_iff (exp : Exporter K) (st : PollState K) {l : List DeviceEnv}
    (hmono : l.Pairwise fun i j => ∀ c, i.device c ≤ j.device c) (htrue : ∀ i ∈ l, Truthful exp i) :
    NeverDecrease exp st l ↔ (publishing exp st l).IsChain (StaysReadable exp) := by
  have hsub : (publishing exp st l).Sublist l := outputs_sublist _ _ st l
  have hpair := (hmono.sublist hsub).isChain
  unfold NeverDecrease
  simp only [series_eq exp st htrue, List.isChain_map]
  simp only [List.isChain_iff_getElem] at hpair ⊢
  constructor
  · intro h k hk c
    exact (shown_le_iff exp (hpair k hk c)).1 (h c k hk)
  · intro h c k hk
    exact (shown_le_iff exp (hpair k hk c)).2 (h k hk c)

/-! ## Two cycles -/

/-- a GPU with 12 retired pages, and no other event in its life -/
def retired12 : LifetimeCounter → ℕ
  | .retiredPagesDbe => 12
  | _ => 0

/-- a cycle in which DeviceGetRetiredPages returns `ret` -/
def retiredEnv (ret : ℤ) : DeviceEnv :=
  { quietEnv 0 with
    nvml := { quietVtable with
      deviceGetRetiredPages := some fun cause => ⟨ret, if cause = retirementDoubleBit then 12 else 0⟩ }
    device := retired12 }

theorem retiredEnv_truthful (ret : ℤ) : Truthful smallExporter (retiredEnv ret) := by
  intro c x h
  rcases h with h | h
  · simp [dcgmReading, smallExporter] at h
  · cases c <;> simp [LifetimeCounter.nvml, answered, retiredEnv, quietEnv, quietVtable, retirementMultipleSingleBit,
      retirementDoubleBit] at h <;> simp [retiredEnv, retired12, h]

theorem neverDecrease_steady :
    NeverDecrease smallExporter (collectorStart .zeroed smallExporter) [retiredEnv 0, retiredEnv 0] := by
  have hmono : [retiredEnv 0, retiredEnv 0].Pairwise fun i j => ∀ c, i.device c ≤ j.device c := by simp
  have htrue : ∀ i ∈ [retiredEnv 0, retiredEnv 0], Truthful smallExporter i := by simp [retiredEnv_truthful]
  have hpair : [retiredEnv 0, retiredEnv 0].Pairwise (StaysReadable smallExporter) := by
    apply List.pairwise_pair.2
    intro c hreading _
    exact hreading
  apply (neverDecrease_iff smallExporter _ hmono htrue).2
  exact (hpair.sublist (outputs_sublist _ _ _ _)).isChain

/-- the failed call takes the counter back from 12 to 0 -/
theorem failure_resets_counter :
    series smallExporter (collectorStart .zeroed smallExporter) [retiredEnv 0, retiredEnv 999] .retiredPagesDbe =
      [12, 0] ∧
    ¬ NeverDecrease smallExporter (collectorStart .zeroed smallExporter) [retiredEnv 0, retiredEnv 999] := by
  have hseries : series smallExporter (collectorStart .zeroed smallExporter) [retiredEnv 0, retiredEnv 999]
      .retiredPagesDbe = [12, 0] := by decide +kernel
  refine ⟨hseries, ?_⟩
  intro h
  have hchain := h .retiredPagesDbe
  rw [hseries] at hchain
  exact absurd hchain (by decide)

end GpuHealth.LifetimeCounters
