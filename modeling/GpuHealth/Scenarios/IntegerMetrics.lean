/-
The integers of `/metrics`.

The property: for every slot table and every integer-valued family of `render_metrics`, the family stands in the body up
to its end, and the value printed for a received GPU, read as a decimal integer, is the value of the field that the
family documents (`Faithful`). It fails in two ways:
- `retired_pages_sbe`, `retired_pages_dbe`, `row_remap_failures` and `xid_last_code` are `uint32_t`, and their loops cast
  them to `int` for `M_GAUGE_I`, where `M_COUNTER_U64` would print them as they are. From 2^31 on the value printed is
  negative (`remap_failures_negative`).
- `bprintf` drops what does not fit the buffer of 256 KiB, so that a longer page ends anywhere, also inside a value.

`faithful_iff`: for every slot table, all values are the fields' if and only if the four fields of every received GPU
are below 2^31 and the whole page has fewer than 262144 characters.

The fields behind the other rows (`fan_speed_pct`, `util_gpu_pct`, `util_mem_pct`, `last_poll_ms`) are shown as ratios
and seconds with decimals: these rows print no integer (`Integers.row`).
-/
import GpuHealth.Scenarios.MetricsComplete

namespace GpuHealth.IntegerMetrics

open GpuHealth.Decimal GpuHealth.HttpChild GpuHealth.Exposition GpuHealth.Render

/-! ## The families -/

/-- the types of the fields in `gpu_snapshot_t` -/
inductive FieldType where
  | enum
  | int
  | uint32
  | uint64
  deriving DecidableEq

/-- an integer-valued family, and the field it documents -/
structure IntegerFamily where
  name : CStr
  type : FieldType
  field : GpuSnapshot ℚ → ℤ

def enumField (name : String) (field : GpuSnapshot ℚ → ℤ) : IntegerFamily := ⟨name.toList, .enum, field⟩

def intField (name : String) (field : GpuSnapshot ℚ → ℤ) : IntegerFamily := ⟨name.toList, .int, field⟩

def uint32Field (name : String) (field : GpuSnapshot ℚ → UInt32) : IntegerFamily :=
  ⟨name.toList, .uint32, fun s => (field s).toNat⟩

def uint64Field (name : String) (field : GpuSnapshot ℚ → UInt64) : IntegerFamily :=
  ⟨name.toList, .uint64, fun s => (field s).toNat⟩

/-- the families, in the order of the page -/
def integerFamilies : List IntegerFamily :=
  [ enumField "gpu_identity_source" fun s => intOfIdentity s.identitySource,
    enumField "gpu_health_class" fun s => intOfClass s.classification,
    intField "gpu_telemetry_ok" GpuSnapshot.telemetryOk,
    intField "gpu_ecc_dbe_in_window" GpuSnapshot.eccDbeInWindow,
    uint64Field "gpu_power_violation_microseconds_total" GpuSnapshot.powerViolationUs,
    uint64Field "gpu_thermal_violation_microseconds_total" GpuSnapshot.thermalViolationUs,
    intField "gpu_throttle_sw_power_cap" GpuSnapshot.throttleSwPowerCap,
    intField "gpu_throttle_hw_slowdown" GpuSnapshot.throttleHwSlowdown,
    intField "gpu_throttle_hw_power_brake" GpuSnapshot.throttleHwPowerBrake,
    intField "gpu_throttle_sw_thermal" GpuSnapshot.throttleSwThermal,
    intField "gpu_throttle_hw_thermal" GpuSnapshot.throttleHwThermal,
    uint64Field "gpu_memory_used_bytes" GpuSnapshot.memUsedBytes,
    uint64Field "gpu_memory_free_bytes" GpuSnapshot.memFreeBytes,
    uint64Field "gpu_memory_total_bytes" GpuSnapshot.memTotalBytes,
    uint64Field "gpu_ecc_sbe_volatile_total" GpuSnapshot.eccSbeVolatile,
    uint64Field "gpu_ecc_dbe_volatile_total" GpuSnapshot.eccDbeVolatile,
    uint64Field "gpu_ecc_sbe_aggregate_total" GpuSnapshot.eccSbeAggregate,
    uint64Field "gpu_ecc_dbe_aggregate_total" GpuSnapshot.eccDbeAggregate,
    uint32Field "gpu_retired_pages_sbe" GpuSnapshot.retiredPagesSbe,
    uint32Field "gpu_retired_pages_dbe" GpuSnapshot.retiredPagesDbe,
    uint32Field "gpu_row_remap_failures" GpuSnapshot.rowRemapFailures,
    intField "gpu_pending_row_remap" GpuSnapshot.pendingRowRemap,
    intField "gpu_pcie_link_gen" GpuSnapshot.pcieLinkGen,
    intField "gpu_pcie_link_width" GpuSnapshot.pcieLinkWidth,
    uint64Field "gpu_pcie_replay_total" GpuSnapshot.pcieReplayCount,
    uint64Field "gpu_nvlink_replay_total" GpuSnapshot.nvlinkReplayCount,
    uint64Field "gpu_nvlink_recovery_total" GpuSnapshot.nvlinkRecoveryCount,
    uint64Field "gpu_nvlink_crc_total" GpuSnapshot.nvlinkCrcCount,
    uint64Field "gpu_xid_errors_total" GpuSnapshot.xidCount,
    uint32Field "gpu_xid_last_code" GpuSnapshot.xidLastCode,
    intField "gpu_pstate" GpuSnapshot.pstate,
    intField "gpu_baseline_available" GpuSnapshot.baselineAvailable,
    intField "gpu_baseline_valid" GpuSnapshot.baselineValid,
    intField "gpu_baseline_serial_mismatch" GpuSnapshot.baselineSerialMismatch,
    intField "gpu_baseline_driver_mismatch" GpuSnapshot.baselineDriverMismatch,
    uint64Field "gpu_baseline_age_seconds" GpuSnapshot.baselineAgeS,
    intField "gpu_probe_available" GpuSnapshot.probeAvailable,
    intField "gpu_probe_result_stale" GpuSnapshot.probeStale,
    intField "gpu_dcgm_available" GpuSnapshot.dcgmAvailable,
    intField "gpu_present" GpuSnapshot.gpuPresent,
    intField "gpu_available" GpuSnapshot.gpuAvailable,
    uint64Field "gpu_health_collector_errors_total" GpuSnapshot.collectorErrorsTotal ]

/-! ## The property -/

/-- the body shows the family, and all before it -/
def Stands (slots : List (HttpSlot ℚ)) (family : Family) : Prop :=
  ∃ before after, pageFamilies slots = before ++ family :: after ∧
    page ((before ++ [family]).flatMap Family.lines) <+: renderMetrics metricsBufSize (some slots)

/-- in the body's family of this name each received GPU has one sample, and its value is the field's -/
def ShowsField (slots : List (HttpSlot ℚ)) (f : IntegerFamily) : Prop :=
  ∃ family, Stands slots family ∧ family.name = f.name ∧ ∃ text : GpuSnapshot ℚ → CStr,
    family.samples = (received slots).map (fun s => sampleText f.name s.serial (text s)) ∧
    ∀ s ∈ received slots, readInt (text s) = some (f.field s)

def Faithful (slots : List (HttpSlot ℚ)) : Prop := ∀ f ∈ integerFamilies, ShowsField slots f

/-- the `uint32_t` fields are in the range of `int` -/
structure InIntRange (s : GpuSnapshot ℚ) : Prop where
  retiredPagesSbe : s.retiredPagesSbe.toNat < 2 ^ 31
  retiredPagesDbe : s.retiredPagesDbe.toNat < 2 ^ 31
  rowRemapFailures : s.rowRemapFailures.toNat < 2 ^ 31
  xidLastCode : s.xidLastCode.toNat < 2 ^ 31

/-! ## What a row prints -/

/-- the integer that a sample macro is given -/
def integer : MetricValue → Option ℤ
  | .gaugeI z => some z
  | .counterU64 u => some (u.toNat : ℤ)
  | _ => none

theorem readInt_text {v : MetricValue} {z : ℤ} (h : integer v = some z) : readInt v.text = some z := by
  cases v with
  | gaugeI val =>
    cases h
    exact readInt_intText _
  | counterU64 val =>
    cases h
    exact readInt_natText _
  | gaugeFmt k val => cases h
  | gaugeNan val => cases h
  | nan => cases h

/-- the cast keeps what an `int` can hold, and nothing else -/
theorem intOfU32_eq_iff (x : UInt32) : Render.intOfU32 x = (x.toNat : ℤ) ↔ x.toNat < 2 ^ 31 := by
  unfold Render.intOfU32
  split_ifs with hsmall
  · exact ⟨fun _ => hsmall, fun _ => rfl⟩
  · refine ⟨fun heq => ?_, fun hlt => absurd hlt hsmall⟩
    omega

/-- the row prints the family's field, a `uint32_t` only below 2^31 -/
structure Prints (f : IntegerFamily) (r : MetricRow) : Prop where
  name : r.name = f.name
  sample : r.sample = f.name
  value : ∀ s, ∃ v z, r.value s = some v ∧ integer v = some z ∧
    (z = f.field s ↔ (f.type = .uint32 → f.field s < 2 ^ 31))

/-- the families of a list of rows: each row prints one of them or no integer -/
inductive Integers : List IntegerFamily → List MetricRow → Prop
  | nil : Integers [] []
  | row {f : IntegerFamily} {fs : List IntegerFamily} {r : MetricRow} {rs : List MetricRow} (h : Prints f r)
      (rest : Integers fs rs) : Integers (f :: fs) (r :: rs)
  | other {fs : List IntegerFamily} {r : MetricRow} {rs : List MetricRow}
      (h : ∀ s v, r.value s = some v → integer v = none) (rest : Integers fs rs) : Integers fs (r :: rs)

theorem Integers.printed {fs : List IntegerFamily} {rs : List MetricRow} (h : Integers fs rs) :
    ∀ f ∈ fs, ∃ r ∈ rs, Prints f r := by
  induction h with
  | nil => exact List.forall_mem_nil _
  | row hprints _ ih =>
    refine List.forall_mem_cons.2 ⟨⟨_, List.mem_cons_self, hprints⟩, fun f hf => ?_⟩
    obtain ⟨r, hr, hprinted⟩ := ih f hf
    exact ⟨r, List.mem_cons_of_mem _ hr, hprinted⟩
  | other _ _ ih =>
    intro f hf
    obtain ⟨r, hr, hprinted⟩ := ih f hf
    exact ⟨r, List.mem_cons_of_mem _ hr, hprinted⟩

section Rows

variable {name type help : String}

theorem enum_prints (field : GpuSnapshot ℚ → ℤ) :
    Prints (enumField name field) (row name type help name fun s => some (.gaugeI (field s))) :=
  ⟨rfl, rfl, fun s => ⟨_, field s, rfl, rfl, iff_of_true rfl fun h => nomatch h⟩⟩

theorem int_prints (field : GpuSnapshot ℚ → ℤ) :
    Prints (intField name field) (row name type help name fun s => some (.gaugeI (field s))) :=
  ⟨rfl, rfl, fun s => ⟨_, field s, rfl, rfl, iff_of_true rfl fun h => nomatch h⟩⟩

theorem uint64_prints (field : GpuSnapshot ℚ → UInt64) :
    Prints (uint64Field name field) (row name type help name fun s => some (.counterU64 (field s))) :=
  ⟨rfl, rfl, fun s => ⟨_, ((field s).toNat : ℤ), rfl, rfl, iff_of_true rfl fun h => nomatch h⟩⟩

theorem uint32_prints (field : GpuSnapshot ℚ → UInt32) :
    Prints (uint32Field name field) (row name type help name fun s => some (.gaugeI (Render.intOfU32 (field s)))) := by
  refine ⟨rfl, rfl, fun s => ⟨_, Render.intOfU32 (field s), rfl, rfl, (intOfU32_eq_iff (field s)).trans ?_⟩⟩
  change _ ↔ (FieldType.uint32 = .uint32 → ((field s).toNat : ℤ) < 2 ^ 31)
  refine ⟨fun hlt _ => ?_, fun h => ?_⟩
  · exact_mod_cast hlt
  · exact_mod_cast h rfl

theorem gaugeFmt_other (sample : String) (k : ℕ) (val : GpuSnapshot ℚ → Dbl ℚ) :
    ∀ s v, (row name type help sample fun s => some (.gaugeFmt k (val s))).value s = some v → integer v = none := by
  intro s v hv
  cases hv
  rfl

theorem gaugeNan_other (sample : String) (val : GpuSnapshot ℚ → Dbl ℚ) :
    ∀ s v, (row name type help sample fun s => some (.gaugeNan (val s))).value s = some v → integer v = none := by
  intro s v hv
  cases hv
  rfl

theorem fan_other (sample : String) :
    ∀ s v, (row name type help sample fun s =>
      if s.fanSpeedPct < 0 then none else some (.gaugeFmt 4 (.fin s.fanSpeedPct / .fin 100))).value s = some v →
      integer v = none := by
  intro s v hv
  change (if s.fanSpeedPct < 0 then none else _) = some v at hv
  split_ifs at hv
  cases hv
  rfl

theorem bandwidth_other (sample : String) :
    ∀ s v, (row name type help sample fun s =>
      if s.memBwUtilPct.isnan then some .nan else some (.gaugeFmt 4 (s.memBwUtilPct / .fin 100))).value s = some v →
      integer v = none := by
  intro s v hv
  change (if s.memBwUtilPct.isnan then _ else _) = some v at hv
  split_ifs at hv <;> cases hv <;> rfl

end Rows

/-- the families are those of the rows that print an integer -/
theorem metricRows_integers : Integers integerFamilies metricRows := by
  unfold integerFamilies metricRows
  refine .row (enum_prints _) ?_
  refine .other (gaugeFmt_other _ _ _) ?_
  refine .row (enum_prints _) ?_
  refine .row (int_prints _) ?_
  iterate 5 refine .other (gaugeFmt_other _ _ _) ?_
  refine .row (int_prints _) ?_
  iterate 2 refine .other (gaugeFmt_other _ _ _) ?_
  refine .other (fan_other _) ?_
  iterate 2 refine .other (gaugeFmt_other _ _ _) ?_
  iterate 2 refine .other (gaugeNan_other _ _) ?_
  iterate 2 refine .row (uint64_prints _) ?_
  iterate 5 refine .row (int_prints _) ?_
  iterate 3 refine .row (uint64_prints _) ?_
  refine .other (bandwidth_other _) ?_
  iterate 4 refine .row (uint64_prints _) ?_
  iterate 3 refine .row (uint32_prints _) ?_
  iterate 3 refine .row (int_prints _) ?_
  iterate 5 refine .row (uint64_prints _) ?_
  refine .row (uint32_prints _) ?_
  iterate 4 refine .other (gaugeFmt_other _ _ _) ?_
  iterate 5 refine .row (int_prints _) ?_
  refine .row (uint64_prints _) ?_
  iterate 2 refine .row (int_prints _) ?_
  refine .other (gaugeNan_other _ _) ?_
  refine .row (int_prints _) ?_
  refine .other (gaugeFmt_other _ _ _) ?_
  iterate 2 refine .row (int_prints _) ?_
  refine .row (uint64_prints _) ?_
  exact .nil

/-! ## The page -/

/-- the samples of a row that prints a family -/
theorem Prints.samples {f : IntegerFamily} {r : MetricRow} (h : Prints f r) (slots : List (HttpSlot ℚ)) :
    ∃ text : GpuSnapshot ℚ → CStr,
      (rowFamily slots r).samples = (received slots).map (fun s => sampleText f.name s.serial (text s)) ∧
      ∀ s, readInt (text s) = some (f.field s) ↔ (f.type = .uint32 → f.field s < 2 ^ 31) := by
  choose v z hvalue hinteger hexact using h.value
  have htext : ∀ s, r.sampleText s = some (sampleText f.name s.serial (v s).text) := fun s => by
    rw [MetricRow.sampleText, hvalue, h.sample, Option.map_some]
  refine ⟨fun s => (v s).text, ?_, fun s => ?_⟩
  · rw [← List.filterMap_eq_map]
    exact List.filterMap_congr fun s _ => htext s
  · rw [readInt_text (hinteger s), Option.some_inj]
    exact hexact s

theorem Stands.mem {slots : List (HttpSlot ℚ)} {family : Family} (h : Stands slots family) :
    family ∈ pageFamilies slots := by
  obtain ⟨before, after, hsplit, -⟩ := h
  rw [hsplit]
  exact List.mem_append_right _ List.mem_cons_self

theorem showsField_iff {f : IntegerFamily} (hf : f ∈ integerFamilies) (slots : List (HttpSlot ℚ)) :
    ShowsField slots f ↔ (∃ family, Stands slots family ∧ family.name = f.name) ∧
      ∀ s ∈ received slots, f.type = .uint32 → f.field s < 2 ^ 31 := by
  obtain ⟨r, hr, hprints⟩ := metricRows_integers.printed f hf
  obtain ⟨printed, hsamples, hexact⟩ := hprints.samples slots
  refine ⟨?_, ?_⟩
  · rintro ⟨family, hstands, hname, text, htexts, hread⟩
    refine ⟨⟨family, hstands, hname⟩, fun s hs => ?_⟩
    rw [row_of_name hstands.mem hr (hname.trans hprints.name.symm), hsamples, List.map_inj_left] at htexts
    have hsame : printed s = text s := List.append_cancel_left (htexts s hs)
    exact (hexact s).1 (hsame ▸ hread s hs)
  · rintro ⟨⟨family, hstands, hname⟩, hsmall⟩
    have hrow : family = rowFamily slots r := row_of_name hstands.mem hr (hname.trans hprints.name.symm)
    exact ⟨family, hstands, hname, printed, hrow ▸ hsamples, fun s hs => (hexact s).2 (hsmall s hs)⟩

/-! ## The end of the page -/

/-- the last integer family is the last of the page -/
theorem lastFamily_last (slots : List (HttpSlot ℚ)) : ∃ f ∈ integerFamilies, ∃ family front,
    pageFamilies slots = front ++ [family] ∧ family.name = f.name := by
  refine ⟨uint64Field "gpu_health_collector_errors_total" GpuSnapshot.collectorErrorsTotal, ?_, ?_⟩
  · unfold integerFamilies
    iterate 41 refine List.mem_cons_of_mem _ ?_
    exact List.mem_cons_self
  · have hrows : metricRows = metricRows.dropLast ++ [metricRows.getLast (List.cons_ne_nil _ _)] :=
      (List.dropLast_append_getLast _).symm
    refine ⟨rowFamily slots (metricRows.getLast (List.cons_ne_nil _ _)),
      exporterFamily :: infoFamily slots :: metricRows.dropLast.map (rowFamily slots), ?_, rfl⟩
    · conv_lhs => rw [pageFamilies, hrows, List.map_append, List.map_singleton]
      rfl

/-- a family that is the last of the page stands in the body when the page fits the buffer -/
theorem stands_last {slots : List (HttpSlot ℚ)} {front : List Family} {family : Family}
    (hlast : pageFamilies slots = front ++ [family]) (h : Stands slots family) :
    (pageText slots).length ≤ metricsBufSize - 1 := by
  obtain ⟨before, after, hsplit, hprefix⟩ := h
  have hnames := pageFamilies_names slots
  rw [renderMetrics_eq] at hprefix
  have hafter : after = [] := by
    rcases List.eq_nil_or_concat after with hnil | ⟨rest, last, hconcat⟩
    · exact hnil
    · exfalso
      rw [hconcat, List.concat_eq_append, ← List.cons_append, ← List.append_assoc] at hsplit
      have hsame := List.append_inj_right' (hlast.symm.trans hsplit) rfl
      rw [hsplit, ← List.singleton_inj.1 hsame, List.append_assoc, List.map_append] at hnames
      have htwice := (List.nodup_cons.1 hnames.of_append_right).1
      exact htwice (by simp)
  have hpage : page ((before ++ [family]).flatMap Family.lines) = pageText slots := by
    rw [pageText, hsplit, hafter]
  rw [hpage] at hprefix
  have hlength := hprefix.length_le
  rw [List.length_take] at hlength
  omega

theorem stands_of_fits {slots : List (HttpSlot ℚ)} (hfits : (pageText slots).length ≤ metricsBufSize - 1)
    {family : Family} (hmem : family ∈ pageFamilies slots) : Stands slots family := by
  obtain ⟨before, after, hsplit⟩ := List.append_of_mem hmem
  refine ⟨before, after, hsplit, ?_⟩
  rw [List.append_cons] at hsplit
  have hlines : (before ++ [family] ++ after).flatMap Family.lines =
      (before ++ [family]).flatMap Family.lines ++ after.flatMap Family.lines := List.flatMap_append
  rw [renderMetrics_eq, List.take_of_length_le hfits, pageText, hsplit, hlines, page_append]
  exact List.prefix_append _ _

/-- all integer families stand in the body if and only if the page fits it -/
theorem stand_iff (slots : List (HttpSlot ℚ)) :
    (∀ f ∈ integerFamilies, ∃ family, Stands slots family ∧ family.name = f.name) ↔
      MetricsComplete.pageSize slots < 262144 := by
  rw [← MetricsComplete.fits_iff]
  refine ⟨?_, ?_⟩
  · intro hall
    obtain ⟨f, hf, last, front, hlast, hname⟩ := lastFamily_last slots
    obtain ⟨family, hstands, hfamily⟩ := hall f hf
    have hsame : family = last := List.inj_on_of_nodup_map (pageFamilies_names slots) hstands.mem
      (hlast ▸ List.mem_append_right _ List.mem_cons_self) (hfamily.trans hname.symm)
    exact stands_last hlast (hsame ▸ hstands)
  · intro hfits f hf
    obtain ⟨r, hr, hprints⟩ := metricRows_integers.printed f hf
    exact ⟨_, stands_of_fits hfits (rowFamily_mem slots hr), hprints.name⟩

/-! ## The condition -/

/-- the families of a `uint32_t` are four -/
theorem inIntRange_iff (s : GpuSnapshot ℚ) :
    InIntRange s ↔ ∀ f ∈ integerFamilies, f.type = .uint32 → f.field s < 2 ^ 31 := by
  simp only [integerFamilies, enumField, intField, uint32Field, uint64Field, List.forall_mem_cons,
    List.not_mem_nil, reduceCtorEq, false_imp_iff, true_imp_iff, implies_true, true_and, and_true]
  refine ⟨fun h => ?_, fun h => ?_⟩
  · exact ⟨by exact_mod_cast h.retiredPagesSbe, by exact_mod_cast h.retiredPagesDbe,
      by exact_mod_cast h.rowRemapFailures, by exact_mod_cast h.xidLastCode⟩
  · obtain ⟨hsbe, hdbe, hremap, hxid⟩ := h
    exact ⟨by exact_mod_cast hsbe, by exact_mod_cast hdbe, by exact_mod_cast hremap, by exact_mod_cast hxid⟩

/-- **A body shows the fields if and only if no `uint32_t` of a received GPU leaves the range of `int`** and the page
is not cut. -/
theorem faithful_iff (slots : List (HttpSlot ℚ)) :
    Faithful slots ↔ (∀ s ∈ received slots, InIntRange s) ∧ MetricsComplete.pageSize slots < 262144 := by
  rw [← stand_iff]
  refine ⟨fun h => ⟨fun s hs => (inIntRange_iff s).2 fun f hf => ?_, fun f hf => ?_⟩, ?_⟩
  · exact ((showsField_iff hf slots).1 (h f hf)).2 s hs
  · exact ((showsField_iff hf slots).1 (h f hf)).1
  · rintro ⟨hrange, hstand⟩ f hf
    exact (showsField_iff hf slots).2 ⟨hstand f hf, fun s hs => (inIntRange_iff s).1 (hrange s hs) f hf⟩

/-! ## A count that is printed as a negative number -/

/-- a GPU with 2^31 row remapping failures -/
def manyFailures : GpuSnapshot ℚ := { GpuSnapshot.zeroed with rowRemapFailures := 2147483648 }

/-- Its sample is -2147483648. -/
theorem remap_failures_negative :
    (∃ r ∈ metricRows, r.sampleText manyFailures =
      some "gpu_row_remap_failures\x7bserial=\"\"\x7d -2147483648".toList) ∧
    ¬ Faithful [⟨manyFailures, 1⟩] := by
  refine ⟨?_, fun h => ?_⟩
  · refine ⟨_, List.mem_of_getElem? (i := 34) rfl, ?_⟩
    decide +kernel
  · have hmem : uint32Field "gpu_row_remap_failures" GpuSnapshot.rowRemapFailures ∈ integerFamilies := by
      unfold integerFamilies
      iterate 20 refine List.mem_cons_of_mem _ ?_
      exact List.mem_cons_self
    have hsmall := ((showsField_iff hmem _).1 (h _ hmem)).2 manyFailures List.mem_cons_self rfl
    exact absurd hsmall (by decide)

end GpuHealth.IntegerMetrics
