/-
The page of `/metrics` (`render_metrics` and its helpers, `src/http.c`).

A page is the texts of the `bprintf` calls, one after the other in a buffer of `cap` bytes; `bprintf` keeps of a text
what fits. After the two families at the top every family is a row of `metricRows`: the header, and a loop over the received
slots with one sample each (none where the loop body continues). The row's first name is that of the header, its last
that of the samples.

Doubles are printed by `printF` and `printG`; a NaN prints as "nan", its sign is not modelled.

`renderMetrics_eq`: the page is the text of `pageFamilies`, cut to the buffer. `pageSize` is the length of that text.
-/
import GpuHealth.HttpChild
import GpuHealth.Metrics
import GpuHealth.NumberText
import GpuHealth.Core.Exposition

namespace GpuHealth.Render

open GpuHealth.Decimal GpuHealth.NumberText GpuHealth.HttpChild GpuHealth.Metrics GpuHealth.Exposition

/-! ## The buffer -/

def metricsBufSize : ℕ := 256 * 1024

/-- `bprintf`: `buf` is what stands in the buffer of `cap` bytes -/
def bprintf (cap : ℕ) (buf text : CStr) : CStr :=
  if buf.length ≥ cap - 1 then buf else buf ++ text.take (cap - buf.length - 1)

/-! ## The values of the sample macros -/

/-- the enumerators' values -/
def intOfClass : GpuClass → ℤ
  | .na => 0
  | .healthy => 1
  | .monitor => 2
  | .degrading => 3
  | .decommission => 4

def intOfIdentity : GpuIdentitySrc → ℤ
  | .serial => 0
  | .uuid => 1

/-- `(int)` of a `uint32_t` -/
def intOfU32 (x : UInt32) : ℤ := if x.toNat < 2 ^ 31 then x.toNat else (x.toNat : ℤ) - 2 ^ 32

/-- what a sample macro prints behind the labels -/
inductive MetricValue where
  /-- `M_GAUGE_FMT` with "%.kf" -/
  | gaugeFmt (k : ℕ) (val : Dbl ℚ)
  /-- `M_GAUGE_I` -/
  | gaugeI (val : ℤ)
  /-- `M_COUNTER_U64` -/
  | counterU64 (val : UInt64)
  /-- `M_GAUGE_NAN` -/
  | gaugeNan (val : Dbl ℚ)
  /-- the text "NaN" -/
  | nan

def MetricValue.text : MetricValue → CStr
  | .gaugeFmt k val => printF k val
  | .gaugeI val => intText val
  | .counterU64 val => natText val.toNat
  | .gaugeNan val => if val.isnan then nanText else printG val
  | .nan => nanText

/-! ## The families -/

/-- a family: its header, and the value of each received slot's sample -/
structure MetricRow where
  name : CStr
  type : CStr
  help : CStr
  /-- the name on the sample lines -/
  sample : CStr
  value : GpuSnapshot ℚ → Option MetricValue

def row (name type help sample : String) (value : GpuSnapshot ℚ → Option MetricValue) : MetricRow :=
  ⟨name.toList, type.toList, help.toList, sample.toList, value⟩

/-- the families of one loop each, in order -/
def metricRows : List MetricRow :=
  [ row "gpu_identity_source" "gauge" "Identity source used for metric labels (0=serial, 1=uuid_fallback)"
      "gpu_identity_source" fun s => some (.gaugeI (intOfIdentity s.identitySource)),
    row "gpu_health_score" "gauge" "GPU health score (0=worst, 100=fully healthy); N/A class when telemetry_ok=0"
      "gpu_health_score" fun s => some (.gaugeFmt 2 s.score),
    row "gpu_health_class" "gauge" "Health classification: 0=N/A 1=Healthy 2=Monitor 3=Degrading 4=Decommission"
      "gpu_health_class" fun s => some (.gaugeI (intOfClass s.classification)),
    row "gpu_telemetry_ok" "gauge" "1 if telemetry completeness gate passed and score is valid"
      "gpu_telemetry_ok" fun s => some (.gaugeI s.telemetryOk),
    row "gpu_temp_p95_celsius" "gauge" "GPU die temperature p95 over scoring window (Celsius)"
      "gpu_temp_p95_celsius" fun s => some (.gaugeFmt 2 s.tempP95C),
    row "gpu_hbm_temp_p95_celsius" "gauge" "HBM temperature p95 over scoring window (Celsius)"
      "gpu_hbm_temp_p95_celsius" fun s => some (.gaugeFmt 2 s.hbmTempP95C),
    row "gpu_sm_clock_std_mhz" "gauge" "SM clock standard deviation over scoring window (MHz)"
      "gpu_sm_clock_std_mhz" fun s => some (.gaugeFmt 2 s.clkStdMhz),
    row "gpu_power_saturation_ratio" "gauge" "Fraction of scoring window where power >= high_ratio * limit"
      "gpu_power_saturation_ratio" fun s => some (.gaugeFmt 4 s.powerSaturationFrac),
    row "gpu_ecc_sbe_rate_per_hour" "gauge" "ECC single-bit error rate over scoring window (errors/hour)"
      "gpu_ecc_sbe_rate_per_hour" fun s => some (.gaugeFmt 2 s.eccSbeRatePerHour),
    row "gpu_ecc_dbe_in_window" "gauge" "1 if any ECC double-bit error delta was observed in the scoring window"
      "gpu_ecc_dbe_in_window" fun s => some (.gaugeI s.eccDbeInWindow),
    row "gpu_temp_celsius" "gauge" "GPU die temperature current value (Celsius)"
      "gpu_temp_celsius" fun s => some (.gaugeFmt 1 (.fin s.tempC)),
    row "gpu_hbm_temp_celsius" "gauge" "HBM temperature current value (Celsius)"
      "gpu_hbm_temp_celsius" fun s => some (.gaugeFmt 1 (.fin s.hbmTempC)),
    row "gpu_fan_speed_ratio" "gauge" "Fan speed as a fraction (0.0-1.0); absent for liquid-cooled GPUs"
      "gpu_fan_speed_ratio" fun s =>
        if s.fanSpeedPct < 0 then none else some (.gaugeFmt 4 (.fin s.fanSpeedPct / .fin 100)),
    row "gpu_power_watts" "gauge" "Current GPU power draw (Watts)"
      "gpu_power_watts" fun s => some (.gaugeFmt 2 (.fin s.powerW)),
    row "gpu_power_limit_watts" "gauge" "Current power management limit (Watts)"
      "gpu_power_limit_watts" fun s => some (.gaugeFmt 2 (.fin s.powerLimitW)),
    row "gpu_board_power_watts" "gauge" "Total board power draw (Watts); NaN if DCGM unavailable"
      "gpu_board_power_watts" fun s => some (.gaugeNan s.boardPowerW),
    row "gpu_energy_joules_total" "counter" "Total energy consumed (Joules); NaN if DCGM unavailable"
      "gpu_energy_joules_total" fun s => some (.gaugeNan s.energyJ),
    row "gpu_power_violation_microseconds_total" "counter"
      "Cumulative power violation time (microseconds); 0 if DCGM unavailable"
      "gpu_power_violation_microseconds_total" fun s => some (.counterU64 s.powerViolationUs),
    row "gpu_thermal_violation_microseconds_total" "counter"
      "Cumulative thermal violation time (microseconds); 0 if DCGM unavailable"
      "gpu_thermal_violation_microseconds_total" fun s => some (.counterU64 s.thermalViolationUs),
    row "gpu_throttle_sw_power_cap" "gauge" "1 if software power cap throttle is active"
      "gpu_throttle_sw_power_cap" fun s => some (.gaugeI s.throttleSwPowerCap),
    row "gpu_throttle_hw_slowdown" "gauge" "1 if hardware thermal slowdown throttle is active"
      "gpu_throttle_hw_slowdown" fun s => some (.gaugeI s.throttleHwSlowdown),
    row "gpu_throttle_hw_power_brake" "gauge" "1 if hardware power brake throttle is active"
      "gpu_throttle_hw_power_brake" fun s => some (.gaugeI s.throttleHwPowerBrake),
    row "gpu_throttle_sw_thermal" "gauge" "1 if software thermal throttle is active"
      "gpu_throttle_sw_thermal" fun s => some (.gaugeI s.throttleSwThermal),
    row "gpu_throttle_hw_thermal" "gauge" "1 if hardware thermal throttle is active"
      "gpu_throttle_hw_thermal" fun s => some (.gaugeI s.throttleHwThermal),
    row "gpu_memory_used_bytes" "gauge" "GPU memory currently in use (bytes)"
      "gpu_memory_used_bytes" fun s => some (.counterU64 s.memUsedBytes),
    row "gpu_memory_free_bytes" "gauge" "GPU memory free (bytes)"
      "gpu_memory_free_bytes" fun s => some (.counterU64 s.memFreeBytes),
    row "gpu_memory_total_bytes" "gauge" "Total GPU memory capacity (bytes)"
      "gpu_memory_total_bytes" fun s => some (.counterU64 s.memTotalBytes),
    row "gpu_memory_bandwidth_utilization_ratio" "gauge"
      "Memory bandwidth utilization (0.0-1.0); NaN if DCGM unavailable"
      "gpu_memory_bandwidth_utilization_ratio" fun s =>
        if s.memBwUtilPct.isnan then some .nan else some (.gaugeFmt 4 (s.memBwUtilPct / .fin 100)),
    row "gpu_ecc_sbe_volatile_total" "counter" "ECC single-bit errors (volatile counter; resets on driver reload)"
      "gpu_ecc_sbe_volatile_total" fun s => some (.counterU64 s.eccSbeVolatile),
    row "gpu_ecc_dbe_volatile_total" "counter" "ECC double-bit errors (volatile counter; resets on driver reload)"
      "gpu_ecc_dbe_volatile_total" fun s => some (.counterU64 s.eccDbeVolatile),
    row "gpu_ecc_sbe_aggregate_total" "counter"
      "ECC single-bit errors (aggregate lifetime counter; does not reset on driver reload)"
      "gpu_ecc_sbe_aggregate_total" fun s => some (.counterU64 s.eccSbeAggregate),
    row "gpu_ecc_dbe_aggregate_total" "counter"
      "ECC double-bit errors (aggregate lifetime counter; does not reset on driver reload)"
      "gpu_ecc_dbe_aggregate_total" fun s => some (.counterU64 s.eccDbeAggregate),
    row "gpu_retired_pages_sbe" "gauge" "GPU memory pages retired due to single-bit errors"
      "gpu_retired_pages_sbe" fun s => some (.gaugeI (intOfU32 s.retiredPagesSbe)),
    row "gpu_retired_pages_dbe" "gauge" "GPU memory pages retired due to double-bit errors"
      "gpu_retired_pages_dbe" fun s => some (.gaugeI (intOfU32 s.retiredPagesDbe)),
    row "gpu_row_remap_failures" "gauge"
      "Count of row remapping failures; any non-zero value indicates irreversible damage"
      "gpu_row_remap_failures" fun s => some (.gaugeI (intOfU32 s.rowRemapFailures)),
    row "gpu_pending_row_remap" "gauge" "1 if a row remapping operation is pending (requires reboot to take effect)"
      "gpu_pending_row_remap" fun s => some (.gaugeI s.pendingRowRemap),
    row "gpu_pcie_link_gen" "gauge" "Current PCIe link generation"
      "gpu_pcie_link_gen" fun s => some (.gaugeI s.pcieLinkGen),
    row "gpu_pcie_link_width" "gauge" "Current PCIe link width (number of lanes)"
      "gpu_pcie_link_width" fun s => some (.gaugeI s.pcieLinkWidth),
    row "gpu_pcie_replay_total" "counter" "PCIe replay counter (total)"
      "gpu_pcie_replay_total" fun s => some (.counterU64 s.pcieReplayCount),
    row "gpu_nvlink_replay_total" "counter" "NVLink replay error counter (total)"
      "gpu_nvlink_replay_total" fun s => some (.counterU64 s.nvlinkReplayCount),
    row "gpu_nvlink_recovery_total" "counter" "NVLink recovery error counter (total)"
      "gpu_nvlink_recovery_total" fun s => some (.counterU64 s.nvlinkRecoveryCount),
    row "gpu_nvlink_crc_total" "counter" "NVLink CRC flit error counter (total)"
      "gpu_nvlink_crc_total" fun s => some (.counterU64 s.nvlinkCrcCount),
    row "gpu_xid_errors_total" "counter" "XID error counter (total)"
      "gpu_xid_errors_total" fun s => some (.counterU64 s.xidCount),
    row "gpu_xid_last_code" "gauge" "Last XID error code observed (0 if none)"
      "gpu_xid_last_code" fun s => some (.gaugeI (intOfU32 s.xidLastCode)),
    row "gpu_sm_clock_mhz" "gauge" "Current SM (shader) clock frequency (MHz)"
      "gpu_sm_clock_mhz" fun s => some (.gaugeFmt 1 (.fin s.smClockMhz)),
    row "gpu_mem_clock_mhz" "gauge" "Current memory clock frequency (MHz)"
      "gpu_mem_clock_mhz" fun s => some (.gaugeFmt 1 (.fin s.memClockMhz)),
    row "gpu_utilization_gpu_ratio" "gauge" "GPU compute utilization (0.0-1.0)"
      "gpu_utilization_gpu_ratio" fun s => some (.gaugeFmt 4 (.fin s.utilGpuPct / .fin 100)),
    row "gpu_utilization_memory_ratio" "gauge" "GPU memory controller utilization (0.0-1.0)"
      "gpu_utilization_memory_ratio" fun s => some (.gaugeFmt 4 (.fin s.utilMemPct / .fin 100)),
    row "gpu_pstate" "gauge" "Current GPU performance state (0=P0=maximum performance, 15=minimum)"
      "gpu_pstate" fun s => some (.gaugeI s.pstate),
    row "gpu_baseline_available" "gauge" "1 if a baseline file is present and parseable"
      "gpu_baseline_available" fun s => some (.gaugeI s.baselineAvailable),
    row "gpu_baseline_valid" "gauge" "1 if the baseline passed all validation checks"
      "gpu_baseline_valid" fun s => some (.gaugeI s.baselineValid),
    row "gpu_baseline_serial_mismatch" "gauge"
      "1 if the baseline file serial does not match the device serial (hard fault)"
      "gpu_baseline_serial_mismatch" fun s => some (.gaugeI s.baselineSerialMismatch),
    row "gpu_baseline_driver_mismatch" "gauge"
      "1 if the driver version changed since the baseline was established (soft warning)"
      "gpu_baseline_driver_mismatch" fun s => some (.gaugeI s.baselineDriverMismatch),
    row "gpu_baseline_age_seconds" "gauge" "Seconds since the baseline was established (0 if baseline unavailable)"
      "gpu_baseline_age_seconds" fun s => some (.counterU64 s.baselineAgeS),
    row "gpu_probe_available" "gauge" "1 if a probe result file is present and parseable"
      "gpu_probe_available" fun s => some (.gaugeI s.probeAvailable),
    row "gpu_probe_result_stale" "gauge" "1 if the probe result is older than the configured TTL"
      "gpu_probe_result_stale" fun s => some (.gaugeI s.probeStale),
    row "gpu_perf_drop_ratio" "gauge"
      "Performance/Watt drop relative to baseline (0.0=no drop); NaN if baseline or probe unavailable"
      "gpu_perf_drop_ratio" fun s => some (.gaugeNan s.perfDropFrac),
    row "gpu_dcgm_available" "gauge" "1 if DCGM is connected and responding"
      "gpu_dcgm_available" fun s => some (.gaugeI s.dcgmAvailable),
    row "gpu_health_last_poll_timestamp" "gauge"
      "Unix timestamp (seconds) of the last successful poll cycle for this GPU"
      "gpu_health_last_poll_timestamp" fun s => some (.gaugeFmt 3 (.fin s.lastPollMs.toNat / .fin 1000)),
    row "gpu_present" "gauge" "1 if the GPU device is still visible; 0 if it disappeared mid-run"
      "gpu_present" fun s => some (.gaugeI s.gpuPresent),
    row "gpu_available" "gauge" "1 if NVML is responding for this GPU; 0 if above error threshold"
      "gpu_available" fun s => some (.gaugeI s.gpuAvailable),
    row "gpu_health_collector_errors_total" "counter" "Cumulative NVML call errors for this GPU"
      "gpu_health_collector_errors_total" fun s => some (.counterU64 s.collectorErrorsTotal) ]

/-! ## The page -/

/-- `M_HEADER` -/
def mHeader (name type help : CStr) : CStr :=
  "# HELP ".toList ++ name ++ " ".toList ++ help ++ "\n# TYPE ".toList ++ name ++ " ".toList ++ type ++ "\n".toList

def exporterName : CStr := "gpu_health_exporter_info".toList

def exporterHelp : CStr := "GPU health exporter build information".toList

def exporterText : CStr := "gpu_health_exporter_info\x7bversion=\"0.1.0\"\x7d 1".toList

def infoName : CStr := "gpu_info".toList

def infoHelp : CStr := "GPU identity and static properties; join on serial label for metadata".toList

/-- the sample of `gpu_info`, without its newline -/
def infoText (s : GpuSnapshot ℚ) : CStr :=
  "gpu_info\x7bserial=\"".toList ++ s.serial ++ "\",uuid=\"".toList ++ s.uuid ++ "\",model=\"".toList ++ s.gpuModel ++
    "\",driver=\"".toList ++ s.driverVersion ++ "\",index=\"".toList ++ intText s.gpuIndex ++
    "\",pcie_gen_max=\"".toList ++ intText s.pcieLinkGenMax ++ "\",pcie_width_max=\"".toList ++
    intText s.pcieLinkWidthMax ++ "\"\x7d 1".toList

def infoLine (s : GpuSnapshot ℚ) : CStr := infoText s ++ "\n".toList

/-- the snapshots of the slots a loop does not skip -/
def received (slots : List (HttpSlot ℚ)) : List (GpuSnapshot ℚ) :=
  slots.filterMap fun slot => if slot.received = 0 then none else some slot.snap

/-- the text of one pass of a row's loop -/
def MetricRow.sampleLine (r : MetricRow) (s : GpuSnapshot ℚ) : Option CStr :=
  (r.value s).map fun v => Metrics.sampleLine r.sample s.serial v.text

/-- the texts of the `bprintf` calls -/
def pageTexts (slots : List (HttpSlot ℚ)) : List CStr :=
  [ mHeader exporterName "gauge".toList exporterHelp,
    exporterText ++ "\n".toList,
    mHeader infoName "gauge".toList infoHelp ] ++
  (received slots).map infoLine ++
  metricRows.flatMap fun r => mHeader r.name r.type r.help :: (received slots).filterMap r.sampleLine

/-- `render_metrics` on the copied slots, none when they cannot be copied -/
def renderMetrics (cap : ℕ) : Option (List (HttpSlot ℚ)) → CStr
  | none => bprintf cap [] "# ERROR: allocation failed\n".toList
  | some slots => (pageTexts slots).foldl (bprintf cap) []

/-! ## Its families -/

/-- a sample line without its newline -/
def sampleText (name serial value : CStr) : CStr :=
  name ++ "\x7bserial=\"".toList ++ serial ++ "\"\x7d ".toList ++ value

def MetricRow.sampleText (r : MetricRow) (s : GpuSnapshot ℚ) : Option CStr :=
  (r.value s).map fun v => Render.sampleText r.sample s.serial v.text

def exporterFamily : Family := ⟨exporterName, exporterHelp, "gauge".toList, [exporterText]⟩

def infoFamily (slots : List (HttpSlot ℚ)) : Family :=
  ⟨infoName, infoHelp, "gauge".toList, (received slots).map infoText⟩

def rowFamily (slots : List (HttpSlot ℚ)) (r : MetricRow) : Family :=
  ⟨r.name, r.help, r.type, (received slots).filterMap r.sampleText⟩

/-- what the page is to show -/
def pageFamilies (slots : List (HttpSlot ℚ)) : List Family :=
  exporterFamily :: infoFamily slots :: metricRows.map (rowFamily slots)

/-- the characters of a page that is not cut -/
def pageText (slots : List (HttpSlot ℚ)) : CStr := page ((pageFamilies slots).flatMap Family.lines)

theorem bprintf_take (cap : ℕ) (done text : CStr) :
    bprintf cap (done.take (cap - 1)) text = (done ++ text).take (cap - 1) := by
  unfold bprintf
  rcases Nat.lt_or_ge done.length (cap - 1) with hroom | hfull
  · rw [List.take_of_length_le hroom.le, if_neg (by omega), List.take_append, List.take_of_length_le hroom.le,
      Nat.sub_right_comm]
  · rw [if_pos (by rw [List.length_take]; omega), List.take_append_of_le_length hfull]

/-- what stands in the buffer in the end -/
theorem foldl_bprintf (cap : ℕ) (texts : List CStr) (done : CStr) :
    texts.foldl (bprintf cap) (done.take (cap - 1)) = (done ++ texts.flatten).take (cap - 1) := by
  induction texts generalizing done with
  | nil => rw [List.foldl_nil, List.flatten_nil, List.append_nil]
  | cons text texts ih => rw [List.foldl_cons, bprintf_take, ih, List.flatten_cons, List.append_assoc]

theorem newline_text : "\n".toList = ['\n'] := rfl

theorem mHeader_eq (f : Family) : mHeader f.name f.type f.help = page [f.helpLine, f.typeLine] := by
  have hhelp : "# HELP ".toList = ['#', ' ', 'H', 'E', 'L', 'P', ' '] := rfl
  have htype : "\n# TYPE ".toList = ['\n', '#', ' ', 'T', 'Y', 'P', 'E', ' '] := rfl
  have hblank : " ".toList = [' '] := rfl
  unfold mHeader
  rw [page_cons, page_cons, hhelp, htype, hblank, newline_text]
  unfold Family.helpLine Family.typeLine helpFront typeFront
  simp only [List.append_assoc, page_nil, List.cons_append, List.nil_append]

theorem family_page (f : Family) : page f.lines = mHeader f.name f.type f.help ++ page f.samples := by
  rw [mHeader_eq, ← page_append]
  rfl

/-- the texts of the samples, each with its newline -/
theorem samples_flatten {α : Type} (l : List α) (text line : α → CStr) (h : ∀ a, line a = text a ++ ['\n']) :
    (l.map line).flatten = page (l.map text) := by
  rw [page, List.flatMap_map, ← List.flatMap_def]
  exact List.flatMap_congr fun a _ => h a

theorem row_page (slots : List (HttpSlot ℚ)) (r : MetricRow) :
    (mHeader r.name r.type r.help :: (received slots).filterMap r.sampleLine).flatten =
      page (rowFamily slots r).lines := by
  have hlines : (received slots).filterMap r.sampleLine =
      (rowFamily slots r).samples.map fun line => line ++ ['\n'] := by
    rw [rowFamily, List.map_filterMap]
    refine List.filterMap_congr fun s _ => ?_
    rw [MetricRow.sampleText, Option.map_map]
    rfl
  rw [hlines, family_page, List.flatten_cons]
  rfl

/-- the texts printed are those of the families -/
theorem pageTexts_flatten (slots : List (HttpSlot ℚ)) : (pageTexts slots).flatten = pageText slots := by
  have hrows : (metricRows.flatMap fun r =>
      mHeader r.name r.type r.help :: (received slots).filterMap r.sampleLine).flatten =
      page ((metricRows.map (rowFamily slots)).flatMap Family.lines) := by
    rw [List.flatMap_map, page, List.flatMap_assoc, List.flatMap_def, List.flatten_flatten, List.map_map,
      ← List.flatMap_def]
    exact List.flatMap_congr fun r _ => row_page slots r
  have hexporter : page exporterFamily.lines = mHeader exporterName "gauge".toList exporterHelp ++
      (exporterText ++ "\n".toList) := by
    rw [family_page]
    rfl
  have hinfo : page (infoFamily slots).lines = mHeader infoName "gauge".toList infoHelp ++
      ((received slots).map infoLine).flatten := by
    rw [family_page, samples_flatten _ infoText infoLine fun _ => rfl]
    rfl
  rw [pageText, pageFamilies, List.flatMap_cons, List.flatMap_cons, page_append, page_append, ← hrows, hexporter,
    hinfo, pageTexts]
  simp only [List.flatten_append, List.flatten_cons, List.flatten_nil, List.append_assoc, List.append_nil]

/-- **The page is the text of its families, cut to the buffer.** -/
theorem renderMetrics_eq (cap : ℕ) (slots : List (HttpSlot ℚ)) :
    renderMetrics cap (some slots) = (pageText slots).take (cap - 1) := by
  have hfold := foldl_bprintf cap (pageTexts slots) []
  rw [List.take_nil, List.nil_append, pageTexts_flatten] at hfold
  exact hfold

/-! ## Names and values -/

/-- no character that ends a name, and no newline in the header -/
structure Headed (name type help : CStr) : Prop where
  blank : ' ' ∉ name
  brace : '\x7b' ∉ name
  hash : '#' ∉ name
  newline : '\n' ∉ name ∧ '\n' ∉ help ∧ '\n' ∉ type

theorem headed_of_all {name type help : CStr} (hname : name.all (fun c => c ∉ [' ', '\x7b', '#', '\n']) = true)
    (htype : type.all (· ≠ '\n') = true) (hhelp : help.all (· ≠ '\n') = true) : Headed name type help := by
  simp only [List.all_eq_true, decide_eq_true_eq] at hname htype hhelp
  have hnot : ∀ c ∈ [' ', '\x7b', '#', '\n'], c ∉ name := fun c hc hmem => hname c hmem hc
  exact ⟨hnot _ (by decide), hnot _ (by decide), hnot _ (by decide), hnot _ (by decide), fun h => hhelp _ h rfl,
    fun h => htype _ h rfl⟩

/-- the same of a row, from the characters of its strings -/
theorem row_headed {name type help : List Char} {value : GpuSnapshot ℚ → Option MetricValue}
    (hname : name.all (fun c => c ∉ [' ', '\x7b', '#', '\n']) = true) (htype : type.all (· ≠ '\n') = true)
    (hhelp : help.all (· ≠ '\n') = true) :
    Headed (row (.ofList name) (.ofList type) (.ofList help) (.ofList name) value).name
      (row (.ofList name) (.ofList type) (.ofList help) (.ofList name) value).type
      (row (.ofList name) (.ofList type) (.ofList help) (.ofList name) value).help ∧
    (row (.ofList name) (.ofList type) (.ofList help) (.ofList name) value).sample =
      (row (.ofList name) (.ofList type) (.ofList help) (.ofList name) value).name := by
  simp only [row, String.toList_ofList]
  exact ⟨headed_of_all hname htype hhelp, trivial⟩

/-- header and samples of a row have one name -/
theorem metricRows_headed : ∀ r ∈ metricRows, Headed r.name r.type r.help ∧ r.sample = r.name := by
  unfold metricRows
  repeat' refine List.forall_mem_cons.2 ⟨row_headed ?_ ?_ ?_, ?_⟩
  all_goals first | decide | exact List.forall_mem_nil _

/-- every family has a name of its own -/
theorem pageFamilies_names (slots : List (HttpSlot ℚ)) : ((pageFamilies slots).map Family.name).Nodup := by
  have hnames : (pageFamilies slots).map Family.name = exporterName :: infoName :: metricRows.map MetricRow.name := by
    rw [pageFamilies, List.map_cons, List.map_cons, List.map_map]
    rfl
  have hexporter : String.ofList exporterName = "gpu_health_exporter_info" := String.ofList_toList
  have hinfo : String.ofList infoName = "gpu_info" := String.ofList_toList
  have hrows : (metricRows.map MetricRow.name).map String.ofList = metricRows.map fun r => String.ofList r.name :=
    List.map_map
  have hstrings : ("gpu_health_exporter_info" :: "gpu_info" ::
      metricRows.map fun r => String.ofList r.name).Nodup := by
    simp only [metricRows, row, List.map_cons, List.map_nil, String.ofList_toList]
    simp
  rw [← hexporter, ← hinfo, ← hrows, ← List.map_cons, ← List.map_cons] at hstrings
  rw [hnames]
  exact List.Nodup.of_map String.ofList hstrings

theorem rowFamily_mem (slots : List (HttpSlot ℚ)) {r : MetricRow} (hr : r ∈ metricRows) :
    rowFamily slots r ∈ pageFamilies slots :=
  List.mem_cons_of_mem _ (List.mem_cons_of_mem _ (List.mem_map_of_mem hr))

/-- no other family of the page has the row's name -/
theorem row_of_name {slots : List (HttpSlot ℚ)} {family : Family} (hfamily : family ∈ pageFamilies slots)
    {r : MetricRow} (hr : r ∈ metricRows) (hname : family.name = r.name) : family = rowFamily slots r :=
  List.inj_on_of_nodup_map (pageFamilies_names slots) hfamily (rowFamily_mem slots hr) hname

theorem infoText_front (s : GpuSnapshot ℚ) : sampleFront infoName <+: infoText s := by
  have hfront : "gpu_info\x7bserial=\"".toList = sampleFront infoName ++ "serial=\"".toList := rfl
  unfold infoText
  rw [hfront]
  simp only [List.append_assoc]
  exact List.prefix_append _ _

theorem sampleText_front (name serial value : CStr) : sampleFront name <+: sampleText name serial value := by
  have hfront : "\x7bserial=\"".toList = '\x7b' :: "serial=\"".toList := rfl
  unfold sampleText sampleFront
  rw [hfront]
  simp only [List.append_assoc]
  rw [List.prefix_append_right_inj, List.cons_append, List.cons_prefix_cons]
  exact ⟨rfl, List.nil_prefix⟩

theorem pageFamilies_named (slots : List (HttpSlot ℚ)) : ∀ f ∈ pageFamilies slots, f.Named := by
  intro f hf
  rcases List.mem_cons.1 hf with rfl | hrest
  · exact ⟨by decide, by decide, by decide, by decide⟩
  · rcases List.mem_cons.1 hrest with rfl | hrow
    · have hname : ' ' ∉ infoName ∧ '\x7b' ∉ infoName ∧ '#' ∉ infoName := by decide
      refine ⟨hname.1, hname.2.1, hname.2.2, ?_⟩
      intro line hline
      obtain ⟨s, -, rfl⟩ := List.mem_map.1 hline
      exact infoText_front s
    · obtain ⟨r, hr, rfl⟩ := List.mem_map.1 hrow
      obtain ⟨hheaded, hname⟩ := metricRows_headed r hr
      refine ⟨hheaded.blank, hheaded.brace, hheaded.hash, ?_⟩
      intro line hline
      obtain ⟨s, -, htext⟩ := List.mem_filterMap.1 hline
      obtain ⟨v, -, rfl⟩ := Option.map_eq_some_iff.1 htext
      exact hname ▸ sampleText_front r.sample s.serial v.text

/-- a value is a number or one of the special values -/
theorem printF_form (k : ℕ) (v : Dbl ℚ) :
    Numeral (printF k v) ∨ printF k v ∈ ["nan".toList, "-inf".toList, "inf".toList] := by
  cases v with
  | fin x => exact Or.inl (fixedText_numeral k x)
  | nan => exact Or.inr List.mem_cons_self
  | ninf => exact Or.inr (List.mem_cons_of_mem _ List.mem_cons_self)
  | pinf => exact Or.inr (List.mem_cons_of_mem _ (List.mem_cons_of_mem _ List.mem_cons_self))

theorem printG_form (v : Dbl ℚ) : Numeral (printG v) ∨ printG v ∈ ["nan".toList, "-inf".toList, "inf".toList] := by
  cases v with
  | fin x => exact Or.inl (generalText_numeral 6 x)
  | nan => exact Or.inr List.mem_cons_self
  | ninf => exact Or.inr (List.mem_cons_of_mem _ List.mem_cons_self)
  | pinf => exact Or.inr (List.mem_cons_of_mem _ (List.mem_cons_of_mem _ List.mem_cons_self))

theorem MetricValue.text_form (v : MetricValue) :
    Numeral v.text ∨ v.text ∈ ["nan".toList, "-inf".toList, "inf".toList, nanText] := by
  have hwiden : ∀ t : CStr, Numeral t ∨ t ∈ ["nan".toList, "-inf".toList, "inf".toList] →
      Numeral t ∨ t ∈ ["nan".toList, "-inf".toList, "inf".toList, nanText] := fun t h =>
    h.imp_right fun hmem => List.mem_append_left [nanText] hmem
  cases v with
  | gaugeFmt k val => exact hwiden _ (printF_form k val)
  | gaugeI val => exact Or.inl (intText_numeral val)
  | counterU64 val => exact Or.inl (natText_numeral _)
  | gaugeNan val =>
    rw [MetricValue.text]
    split_ifs
    · right; simp
    · exact hwiden _ (printG_form val)
  | nan => right; simp [MetricValue.text]

theorem MetricValue.text_newline (v : MetricValue) : '\n' ∉ v.text := by
  intro hmem
  rcases v.text_form with hnumeral | hspecial
  · rcases hnumeral.char hmem with hdigit | hmark
    · exact absurd hdigit (by decide)
    · exact absurd hmark (by decide)
  · revert hmem
    generalize v.text = t at hspecial ⊢
    revert t
    decide

end GpuHealth.Render
