/-
The config table, `config_load` and `config_validate` (`src/config.c`, defaults in `src/types.h`).

A row of `cfg_table` names a field, its type and its bounds: `CfgField` has one constructor for each type, and the key
of the field in place of its offset. The table drives parsing, environment override and range check, here as in the
source. The file system and the environment are functions of a path and of a variable name.

`configLoad_admitted`: every loaded config meets the bounds of every row, except that a double may be NaN (the text
"nan" passes `parse_double`). `Accepted.inRange`: a loaded and validated config whose doubles are finite is the image
of a config `c` with `InRange c`. `defaults_inRange`, `defaults_valid`: the defaults pass their own checks.
-/
import GpuHealth.CText
import GpuHealth.Core.Runs

namespace GpuHealth.Config

open GpuHealth.CText

/-! ## The table -/

inductive CfgField where
  | int (offset : IntKey) (min max : ℤ)
  | dbl (offset : DblKey) (min max : ℚ)
  | str (offset : StrKey) (maxlen : ℕ)
deriving DecidableEq, Repr

structure CfgEntry where
  key : CStr
  field : CfgField
deriving DecidableEq, Repr

def cfgTable : List CfgEntry := [
  ⟨"state_dir".toList, .str .stateDir 256⟩,
  ⟨"baseline_dir".toList, .str .baselineDir 256⟩,
  ⟨"listen_addr".toList, .str .listenAddr 64⟩,
  ⟨"listen_port".toList, .int .listenPort 1 65535⟩,
  ⟨"poll_interval_s".toList, .int .pollIntervalS 1 60⟩,
  ⟨"window_s".toList, .int .windowS 60 3600⟩,
  ⟨"state_write_interval_s".toList, .int .stateWriteIntervalS 1 3600⟩,
  ⟨"min_sample_ratio".toList, .dbl .minSampleRatio 0 1⟩,
  ⟨"max_median_step_s".toList, .dbl .maxMedianStepS (1 / 10) 30⟩,
  ⟨"min_samples_absolute".toList, .int .minSamplesAbsolute 1 1000⟩,
  ⟨"temp_p95_warn_c".toList, .dbl .tempP95WarnC 50 120⟩,
  ⟨"temp_p95_bad_c".toList, .dbl .tempP95BadC 50 120⟩,
  ⟨"hbm_temp_p95_warn_c".toList, .dbl .hbmTempP95WarnC 50 120⟩,
  ⟨"hbm_temp_p95_bad_c".toList, .dbl .hbmTempP95BadC 50 120⟩,
  ⟨"clk_std_warn_mhz".toList, .dbl .clkStdWarnMhz 1 1000⟩,
  ⟨"power_high_ratio".toList, .dbl .powerHighRatio (1 / 2) 1⟩,
  ⟨"power_penalty_max".toList, .dbl .powerPenaltyMax 0 100⟩,
  ⟨"ecc_sbe_rate_warn_per_hour".toList, .dbl .eccSbeRateWarnPerHour 0 (10 ^ 9)⟩,
  ⟨"ecc_sbe_penalty".toList, .dbl .eccSbePenalty 0 100⟩,
  ⟨"ecc_dbe_penalty".toList, .dbl .eccDbePenalty 0 100⟩,
  ⟨"retired_pages_warn".toList, .int .retiredPagesWarn 0 10000⟩,
  ⟨"retired_pages_bad".toList, .int .retiredPagesBad 0 10000⟩,
  ⟨"retired_pages_pen_warn".toList, .dbl .retiredPagesPenWarn 0 100⟩,
  ⟨"retired_pages_pen_bad".toList, .dbl .retiredPagesPenBad 0 100⟩,
  ⟨"row_remap_failure_penalty".toList, .dbl .rowRemapFailurePenalty 0 100⟩,
  ⟨"pcie_link_degraded_penalty".toList, .dbl .pcieLinkDegradedPenalty 0 100⟩,
  ⟨"pcie_width_degraded_penalty".toList, .dbl .pcieWidthDegradedPenalty 0 100⟩,
  ⟨"perf_drop_warn".toList, .dbl .perfDropWarn 0 1⟩,
  ⟨"perf_drop_bad".toList, .dbl .perfDropBad 0 1⟩,
  ⟨"perf_drop_severe".toList, .dbl .perfDropSevere 0 1⟩,
  ⟨"perf_drop_pen_warn".toList, .dbl .perfDropPenWarn 0 100⟩,
  ⟨"perf_drop_pen_bad".toList, .dbl .perfDropPenBad 0 100⟩,
  ⟨"perf_drop_pen_severe".toList, .dbl .perfDropPenSevere 0 100⟩,
  ⟨"probe_interval_s".toList, .int .probeIntervalS 60 604800⟩,
  ⟨"probe_ttl_s".toList, .int .probeTtlS 60 604800⟩,
  ⟨"nvml_timeout_ms".toList, .int .nvmlTimeoutMs 100 60000⟩,
  ⟨"nvml_error_threshold".toList, .int .nvmlErrorThreshold 1 1000⟩,
  ⟨"nvml_hard_error_threshold".toList, .int .nvmlHardErrorThreshold 1 100⟩,
  ⟨"nvml_retry_interval_s".toList, .int .nvmlRetryIntervalS 1 3600⟩,
  ⟨"dcgm_timeout_ms".toList, .int .dcgmTimeoutMs 100 60000⟩,
  ⟨"dcgm_error_threshold".toList, .int .dcgmErrorThreshold 1 1000⟩,
  ⟨"dcgm_retry_interval_s".toList, .int .dcgmRetryIntervalS 1 3600⟩,
  ⟨"file_sd_path".toList, .str .fileSdPath 256⟩,
  ⟨"tls_cert_path".toList, .str .tlsCertPath 256⟩,
  ⟨"tls_key_path".toList, .str .tlsKeyPath 256⟩]

/-! ## Defaults -/

def defaultInt : IntKey → ℤ
  | .listenPort => 9108
  | .pollIntervalS => 1
  | .windowS => 300
  | .stateWriteIntervalS => 30
  | .minSamplesAbsolute => 10
  | .retiredPagesWarn => 1
  | .retiredPagesBad => 10
  | .probeIntervalS => 86400
  | .probeTtlS => 129600
  | .nvmlTimeoutMs => 5000
  | .nvmlErrorThreshold => 10
  | .nvmlHardErrorThreshold => 1
  | .nvmlRetryIntervalS => 60
  | .dcgmTimeoutMs => 5000
  | .dcgmErrorThreshold => 10
  | .dcgmRetryIntervalS => 60

def defaultDbl : DblKey → ℚ
  | .minSampleRatio => 80 / 100
  | .maxMedianStepS => 25 / 10
  | .tempP95WarnC => 80
  | .tempP95BadC => 90
  | .hbmTempP95WarnC => 85
  | .hbmTempP95BadC => 95
  | .clkStdWarnMhz => 120
  | .powerHighRatio => 98 / 100
  | .powerPenaltyMax => 3
  | .eccSbeRateWarnPerHour => 100
  | .eccSbePenalty => 5
  | .eccDbePenalty => 25
  | .retiredPagesPenWarn => 5
  | .retiredPagesPenBad => 15
  | .rowRemapFailurePenalty => 25
  | .pcieLinkDegradedPenalty => 10
  | .pcieWidthDegradedPenalty => 15
  | .perfDropWarn => 3 / 100
  | .perfDropBad => 7 / 100
  | .perfDropSevere => 12 / 100
  | .perfDropPenWarn => 5
  | .perfDropPenBad => 15
  | .perfDropPenSevere => 30

def defaultStr : StrKey → CStr
  | .stateDir => "/var/run/gpu-health".toList
  | .baselineDir => "/etc/gpu-health/baseline".toList
  | .listenAddr => "0.0.0.0".toList
  | .fileSdPath => []
  | .tlsCertPath => []
  | .tlsKeyPath => []

variable {K : Type} [Arith K]

/-- the compiled-in values, in `K` -/
def defaults : GpuConfig K := ⟨defaultInt, fun k => (defaultDbl k : K), defaultStr⟩

def cfgDefaults : GpuConfig (Dbl K) := defaults.toDbl

/-! ## `config_load` and `config_validate` -/

def findEntry (key : CStr) : Option CfgEntry := cfgTable.find? fun e => e.key = key

def applyEntry (cfg : GpuConfig (Dbl K)) (e : CfgEntry) (val : CStr) : Option (GpuConfig (Dbl K)) :=
  match e.field with
  | .int k min max => (parseInt val min max).map fun v => { cfg with int := Function.update cfg.int k v }
  | .dbl k min max => (parseDouble val min max).map fun v => { cfg with dbl := Function.update cfg.dbl k v.ofRat }
  | .str k maxlen => some { cfg with str := Function.update cfg.str k (safeStrncpy val maxlen) }

def keyToEnvvar (key : CStr) (buflen : ℕ) : CStr :=
  if buflen ≤ "GPU_HEALTH_".length then []
  else ("GPU_HEALTH_".toList ++ key.map Char.toUpper).take (buflen - 1)

/-- one line of the file; a blank line, a comment, a line without '=' and an unknown key change nothing -/
def applyLine (cfg : GpuConfig (Dbl K)) (line : CStr) : Option (GpuConfig (Dbl K)) :=
  match splitKv line with
  | none => some cfg
  | some (key, val) =>
    match findEntry key with
    | none => some cfg
    | some e => applyEntry cfg e val

def applyEnv (getenv : CStr → Option CStr) (cfg : GpuConfig (Dbl K)) (e : CfgEntry) : Option (GpuConfig (Dbl K)) :=
  match getenv (keyToEnvvar e.key 128) with
  | none => some cfg
  | some val => applyEntry cfg e val

/-- the first half of `config_load`: the defaults under the file's lines -/
def configFile (fopen : CStr → Option CStr) (path : Option CStr) : Option (GpuConfig (Dbl K)) :=
  match path with
  | none => some cfgDefaults
  | some path => (fopen path).bind fun file => (fgetsLines 1024 file).foldlM applyLine cfgDefaults

/-- none is the return value -1 -/
def configLoad (fopen getenv : CStr → Option CStr) (path : Option CStr) : Option (GpuConfig (Dbl K)) :=
  (configFile fopen path).bind fun cfg => cfgTable.foldlM (applyEnv getenv) cfg

def configValidate (cfg : GpuConfig (Dbl K)) : ℤ :=
  if cfg.dbl .tempP95BadC ≤ cfg.dbl .tempP95WarnC then -1
  else if cfg.dbl .hbmTempP95BadC ≤ cfg.dbl .hbmTempP95WarnC then -1
  else if cfg.dbl .perfDropBad ≤ cfg.dbl .perfDropWarn then -1
  else if cfg.dbl .perfDropSevere ≤ cfg.dbl .perfDropBad then -1
  else if cfg.int .retiredPagesWarn > cfg.int .retiredPagesBad then -1
  else if cfg.int .probeTtlS < cfg.int .probeIntervalS then -1
  else 0

/-! ## Ranges -/

/-- the field of this row is within the row's bounds -/
def CfgField.Holds (c : GpuConfig K) : CfgField → Prop
  | .int k min max => min ≤ c.int k ∧ c.int k ≤ max
  | .dbl k min max => (min : K) ≤ c.dbl k ∧ c.dbl k ≤ (max : K)
  | .str k maxlen => (c.str k).length < maxlen

/-- every field lies in its `cfg_table` range -/
def InRange (c : GpuConfig K) : Prop := ∀ e ∈ cfgTable, e.field.Holds c

instance (c : GpuConfig K) : (f : CfgField) → Decidable (f.Holds c)
  | .int k min max => inferInstanceAs (Decidable (min ≤ c.int k ∧ c.int k ≤ max))
  | .dbl k min max => inferInstanceAs (Decidable ((min : K) ≤ c.dbl k ∧ c.dbl k ≤ (max : K)))
  | .str k maxlen => inferInstanceAs (Decidable ((c.str k).length < maxlen))

instance (c : GpuConfig K) : Decidable (InRange c) := inferInstanceAs (Decidable (∀ e ∈ cfgTable, e.field.Holds c))

/-- `Holds`, or a double that is NaN -/
def CfgField.Admits (cfg : GpuConfig (Dbl K)) : CfgField → Prop
  | .int k min max => min ≤ cfg.int k ∧ cfg.int k ≤ max
  | .dbl k min max => cfg.dbl k = .nan ∨ ∃ x, cfg.dbl k = .fin x ∧ (min : K) ≤ x ∧ x ≤ (max : K)
  | .str k maxlen => (cfg.str k).length < maxlen

/-- the config holds finite doubles only -/
def Finite (cfg : GpuConfig (Dbl K)) : Prop := ∀ k, (cfg.dbl k).IsFin

/-- accepted by `config_load` and `config_validate`, with finite doubles -/
structure Accepted (fopen getenv : CStr → Option CStr) (path : Option CStr) (cfg : GpuConfig (Dbl K)) : Prop where
  load : configLoad fopen getenv path = some cfg
  validate : configValidate cfg = 0
  finite : Finite cfg

theorem InRange.int {c : GpuConfig K} (h : InRange c) (k : IntKey) (min max : ℤ)
    (hf : .int k min max ∈ cfgTable.map (·.field)) : min ≤ c.int k ∧ c.int k ≤ max := by
  obtain ⟨e, he, hfield⟩ := List.mem_map.1 hf
  have hrow := h e he
  rwa [hfield] at hrow

theorem InRange.dbl {c : GpuConfig K} (h : InRange c) (k : DblKey) (min max : ℚ)
    (hf : .dbl k min max ∈ cfgTable.map (·.field)) : (min : K) ≤ c.dbl k ∧ c.dbl k ≤ (max : K) := by
  obtain ⟨e, he, hfield⟩ := List.mem_map.1 hf
  have hrow := h e he
  rwa [hfield] at hrow

/-- the field a row writes -/
inductive CfgSlot where
  | int (k : IntKey)
  | dbl (k : DblKey)
  | str (k : StrKey)
deriving DecidableEq, Repr

def CfgField.slot : CfgField → CfgSlot
  | .int k _ _ => .int k
  | .dbl k _ _ => .dbl k
  | .str k _ => .str k

theorem cfgTable_slots_nodup : (cfgTable.map fun e => e.field.slot).Nodup := by decide +kernel

theorem cfgTable_str_pos : ∀ e ∈ cfgTable, ∀ k n, e.field = .str k n → 0 < n := by
  intro e he k n hn
  have hall : ∀ e ∈ cfgTable, (match e.field with | .str _ n => decide (0 < n) | _ => true) = true := by decide +kernel
  simpa [hn] using hall e he

/-- no two rows write the same field -/
theorem eq_of_slot_eq {e e' : CfgEntry} (he : e ∈ cfgTable) (he' : e' ∈ cfgTable) (h : e.field.slot = e'.field.slot) :
    e = e' :=
  List.inj_on_of_nodup_map cfgTable_slots_nodup he he' h

/-! ## Every loaded config is in range -/

theorem ofRat_range {min max : ℚ} {v : Dbl ℚ} (h : v = .nan ∨ ∃ x, v = .fin x ∧ min ≤ x ∧ x ≤ max) :
    (v.ofRat : Dbl K) = .nan ∨ ∃ x, v.ofRat = .fin x ∧ (min : K) ≤ x ∧ x ≤ (max : K) := by
  rcases h with rfl | ⟨x, rfl, h1, h2⟩
  · exact Or.inl rfl
  · exact Or.inr ⟨x, rfl, by exact_mod_cast h1, by exact_mod_cast h2⟩

/-- `apply_entry` writes a value the row admits -/
theorem applyEntry_admits_self {cfg cfg' : GpuConfig (Dbl K)} {e : CfgEntry} {val : CStr} (he : e ∈ cfgTable)
    (h : applyEntry cfg e val = some cfg') : e.field.Admits cfg' := by
  unfold applyEntry at h
  cases hf : e.field with
  | int k min max =>
    rw [hf] at h
    obtain ⟨v, hv, rfl⟩ := Option.map_eq_some_iff.1 h
    simpa [CfgField.Admits] using parseInt_range hv
  | dbl k min max =>
    rw [hf] at h
    obtain ⟨v, hv, rfl⟩ := Option.map_eq_some_iff.1 h
    simpa [CfgField.Admits] using ofRat_range (K := K) (parseDouble_range hv)
  | str k maxlen =>
    rw [hf] at h
    obtain rfl := Option.some.inj h
    simpa [CfgField.Admits] using safeStrncpy_length val (cfgTable_str_pos e he k maxlen hf)

/-- `apply_entry` leaves the fields of all other rows alone -/
theorem applyEntry_admits_other {cfg cfg' : GpuConfig (Dbl K)} {e : CfgEntry} {val : CStr} {f : CfgField}
    (hne : f.slot ≠ e.field.slot) (h : applyEntry cfg e val = some cfg') (hf : f.Admits cfg) : f.Admits cfg' := by
  unfold applyEntry at h
  cases he : e.field with
  | int k min max =>
    rw [he] at h hne
    obtain ⟨v, -, rfl⟩ := Option.map_eq_some_iff.1 h
    cases f <;> simp_all [CfgField.Admits, CfgField.slot]
  | dbl k min max =>
    rw [he] at h hne
    obtain ⟨v, -, rfl⟩ := Option.map_eq_some_iff.1 h
    cases f <;> simp_all [CfgField.Admits, CfgField.slot]
  | str k maxlen =>
    rw [he] at h hne
    obtain rfl := Option.some.inj h
    cases f <;> simp_all [CfgField.Admits, CfgField.slot]

/-- every row's bounds are met, up to NaN -/
def Admitted (cfg : GpuConfig (Dbl K)) : Prop := ∀ e ∈ cfgTable, e.field.Admits cfg

theorem Admitted.int {cfg : GpuConfig (Dbl K)} (h : Admitted cfg) (k : IntKey) (min max : ℤ)
    (hf : .int k min max ∈ cfgTable.map (·.field)) : min ≤ cfg.int k ∧ cfg.int k ≤ max := by
  obtain ⟨e, he, hfield⟩ := List.mem_map.1 hf
  have hrow := h e he
  rwa [hfield] at hrow

theorem Admitted.dbl {cfg : GpuConfig (Dbl K)} (h : Admitted cfg) (k : DblKey) (min max : ℚ)
    (hf : .dbl k min max ∈ cfgTable.map (·.field)) :
    cfg.dbl k = .nan ∨ ∃ x, cfg.dbl k = .fin x ∧ (min : K) ≤ x ∧ x ≤ (max : K) := by
  obtain ⟨e, he, hfield⟩ := List.mem_map.1 hf
  have hrow := h e he
  rwa [hfield] at hrow

theorem InRange.admitted {c : GpuConfig K} (h : InRange c) : Admitted c.toDbl := by
  intro e he
  have hrow := h e he
  cases hf : e.field with
  | int k min max => rw [hf] at hrow; exact hrow
  | dbl k min max => rw [hf] at hrow; exact Or.inr ⟨_, rfl, hrow⟩
  | str k maxlen => rw [hf] at hrow; exact hrow

theorem applyEntry_admitted {cfg cfg' : GpuConfig (Dbl K)} {e : CfgEntry} {val : CStr} (he : e ∈ cfgTable)
    (hcfg : Admitted cfg) (h : applyEntry cfg e val = some cfg') : Admitted cfg' := by
  intro e' he'
  by_cases hs : e'.field.slot = e.field.slot
  · rw [eq_of_slot_eq he' he hs]
    exact applyEntry_admits_self he h
  · exact applyEntry_admits_other hs h (hcfg e' he')

theorem applyLine_admitted {cfg cfg' : GpuConfig (Dbl K)} {line : CStr} (hcfg : Admitted cfg)
    (h : applyLine cfg line = some cfg') : Admitted cfg' := by
  unfold applyLine at h
  split at h
  · exact Option.some.inj h ▸ hcfg
  · split at h
    · exact Option.some.inj h ▸ hcfg
    · rename_i e hfind
      exact applyEntry_admitted (List.mem_of_find?_eq_some hfind) hcfg h

theorem applyEnv_admitted {getenv : CStr → Option CStr} {cfg cfg' : GpuConfig (Dbl K)} {e : CfgEntry}
    (he : e ∈ cfgTable) (hcfg : Admitted cfg) (h : applyEnv getenv cfg e = some cfg') : Admitted cfg' := by
  unfold applyEnv at h
  split at h
  · exact Option.some.inj h ▸ hcfg
  · exact applyEntry_admitted he hcfg h

/-- **The defaults pass their own checks.** -/
theorem defaults_inRange : InRange (defaults : GpuConfig K) := by
  have hrat : InRange (⟨defaultInt, defaultDbl, defaultStr⟩ : GpuConfig ℚ) := by decide +kernel
  intro e he
  have hrow := hrat e he
  cases hf : e.field with
  | int k min max => rw [hf] at hrow; exact hrow
  | dbl k min max =>
    rw [hf] at hrow
    obtain ⟨hlo, hhi⟩ : min ≤ defaultDbl k ∧ defaultDbl k ≤ max := hrow
    exact ⟨Rat.cast_le.2 hlo, Rat.cast_le.2 hhi⟩
  | str k maxlen => rw [hf] at hrow; exact hrow

theorem defaults_valid : configValidate (cfgDefaults : GpuConfig (Dbl K)) = 0 := by
  have h1 : defaultDbl .tempP95WarnC < defaultDbl .tempP95BadC := by decide +kernel
  have h2 : defaultDbl .hbmTempP95WarnC < defaultDbl .hbmTempP95BadC := by decide +kernel
  have h3 : defaultDbl .perfDropWarn < defaultDbl .perfDropBad := by decide +kernel
  have h4 : defaultDbl .perfDropBad < defaultDbl .perfDropSevere := by decide +kernel
  simp [configValidate, cfgDefaults, defaults, not_le.2 h1, not_le.2 h2, not_le.2 h3, not_le.2 h4, defaultInt]

/-- **Every loaded config meets every row, up to NaN.** -/
theorem configLoad_admitted {fopen getenv : CStr → Option CStr} {path : Option CStr} {cfg : GpuConfig (Dbl K)}
    (h : configLoad fopen getenv path = some cfg) : Admitted cfg := by
  obtain ⟨parsed, hparsed, henv⟩ := Option.bind_eq_some_iff.1 h
  have hbase : Admitted parsed := by
    cases path with
    | none => exact Option.some.inj hparsed ▸ defaults_inRange.admitted
    | some path =>
      obtain ⟨file, -, hfile⟩ := Option.bind_eq_some_iff.1 (show (fopen path).bind _ = some parsed from hparsed)
      exact Runs.foldlM_inv (fun _ _ _ _ h hstep => applyLine_admitted h hstep) hfile
        defaults_inRange.admitted
  exact Runs.foldlM_inv (fun _ _ _ he h hstep => applyEnv_admitted he h hstep) henv hbase

/-- **An accepted config is in range.** -/
theorem Accepted.inRange {fopen getenv : CStr → Option CStr} {path : Option CStr} {cfg : GpuConfig (Dbl K)}
    (h : Accepted fopen getenv path cfg) : ∃ c : GpuConfig K, cfg = c.toDbl ∧ InRange c := by
  have hadm := configLoad_admitted h.load
  refine ⟨⟨cfg.int, fun k => (cfg.dbl k).toK, cfg.str⟩, ?_, ?_⟩
  · have hdbl : cfg.dbl = fun k => .fin (cfg.dbl k).toK := funext fun k => (h.finite k).eq
    simp only [GpuConfig.toDbl, ← hdbl]
  · intro e he
    have hrow := hadm e he
    cases hf : e.field with
    | int k min max => simpa [hf, CfgField.Admits, CfgField.Holds] using hrow
    | dbl k min max =>
      rw [hf] at hrow
      rcases hrow with hnan | ⟨x, hx, hlo, hhi⟩
      · obtain ⟨y, hy⟩ := h.finite k
        rw [hnan] at hy
        exact absurd hy (by simp)
      · simp only [CfgField.Holds, hx, Dbl.toK_fin]
        exact ⟨hlo, hhi⟩
    | str k maxlen => simpa [hf, CfgField.Admits, CfgField.Holds] using hrow

/-! ## A small config

A window of four samples, 15 s apart. -/

def smallFile : CStr :=
  "poll_interval_s = 15\nwindow_s = 60\nmin_samples_absolute = 4\n# seconds\nmax_median_step_s = 30\n".toList

def smallConfig : GpuConfig ℚ where
  int := Function.update (Function.update (Function.update defaultInt .pollIntervalS 15) .windowS 60)
    .minSamplesAbsolute 4
  dbl := Function.update defaultDbl .maxMedianStepS 30
  str := defaultStr

theorem applyLine_int (cfg : GpuConfig (Dbl K)) (line key val : CStr) (k : IntKey) (min max v : ℤ)
    (hkv : splitKv line = some (key, val)) (hfind : findEntry key = some ⟨key, .int k min max⟩)
    (hv : parseInt val min max = some v) :
    applyLine cfg line = some { cfg with int := Function.update cfg.int k v } := by
  simp only [applyLine, hkv, hfind, applyEntry, hv, Option.map_some]

theorem applyLine_dbl (cfg : GpuConfig (Dbl K)) (line key val : CStr) (k : DblKey) (min max : ℚ) (v : Dbl ℚ)
    (hkv : splitKv line = some (key, val)) (hfind : findEntry key = some ⟨key, .dbl k min max⟩)
    (hv : parseDouble val min max = some v) :
    applyLine cfg line = some { cfg with dbl := Function.update cfg.dbl k v.ofRat } := by
  simp only [applyLine, hkv, hfind, applyEntry, hv, Option.map_some]

/-- an empty environment overrides nothing -/
theorem applyEnv_empty (l : List CfgEntry) (cfg : GpuConfig (Dbl K)) :
    l.foldlM (applyEnv fun _ => none) cfg = some cfg := by
  induction l with
  | nil => rfl
  | cons e l ih => exact ih

/-- `config_load` on a system with this one file and no GPU_HEALTH_* variables -/
theorem smallConfig_load :
    configLoad (fun _ => some smallFile) (fun _ => none) (some []) = some (smallConfig.toDbl : GpuConfig (Dbl ℚ)) := by
  have hlines : fgetsLines 1024 smallFile = ["poll_interval_s = 15\n".toList, "window_s = 60\n".toList,
      "min_samples_absolute = 4\n".toList, "# seconds\n".toList, "max_median_step_s = 30\n".toList] := by
    decide +kernel
  have h1 := fun cfg : GpuConfig (Dbl ℚ) => applyLine_int cfg "poll_interval_s = 15\n".toList
    "poll_interval_s".toList "15".toList .pollIntervalS 1 60 15 (by decide +kernel) (by decide +kernel)
    (by decide +kernel)
  have h2 := fun cfg : GpuConfig (Dbl ℚ) => applyLine_int cfg "window_s = 60\n".toList
    "window_s".toList "60".toList .windowS 60 3600 60 (by decide +kernel) (by decide +kernel) (by decide +kernel)
  have h3 := fun cfg : GpuConfig (Dbl ℚ) => applyLine_int cfg "min_samples_absolute = 4\n".toList
    "min_samples_absolute".toList "4".toList .minSamplesAbsolute 1 1000 4 (by decide +kernel) (by decide +kernel)
    (by decide +kernel)
  have h4 : ∀ cfg : GpuConfig (Dbl ℚ), applyLine cfg "# seconds\n".toList = some cfg := by
    have hcomment : splitKv "# seconds\n".toList = none := by decide +kernel
    intro cfg
    simp only [applyLine, hcomment]
  have h5 := fun cfg : GpuConfig (Dbl ℚ) => applyLine_dbl cfg "max_median_step_s = 30\n".toList
    "max_median_step_s".toList "30".toList .maxMedianStepS (1 / 10) 30 (.fin 30) (by decide +kernel)
    (by decide +kernel) (by decide +kernel)
  have hdbl : (fun k => Dbl.fin (Function.update defaultDbl .maxMedianStepS 30 k)) =
      Function.update (fun k => Dbl.fin (defaultDbl k)) .maxMedianStepS (.fin 30) := by
    funext k
    cases k <;> rfl
  simp only [configLoad, configFile, Option.bind_some, hlines, List.foldlM_cons, List.foldlM_nil, applyEnv_empty,
    Option.bind_fun_some, h1, h2, h3, h4, h5]
  simp only [cfgDefaults, defaults, GpuConfig.toDbl, smallConfig, Rat.cast_id, hdbl]
  rfl

theorem smallConfig_accepted :
    Accepted (fun _ => some smallFile) (fun _ => none) (some []) (smallConfig.toDbl : GpuConfig (Dbl ℚ)) :=
  ⟨smallConfig_load, by decide +kernel, fun _ => ⟨_, rfl⟩⟩

end GpuHealth.Config
