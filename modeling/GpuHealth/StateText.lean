/-
What the baseline and probe loaders make of a file, key by key.

A file is a list of settings (`baselineSettings`, `probeSettings`: its lines with a recognised key), and each loader is
a reader with `Rules`: what it makes of the text of each key, and which rejected texts end the reading. `baselineScan_reads`
and `probeScan_reads` are the refinement: the scan has a parse error exactly when a text is refused, and else holds the
last value of every key and has seen the keys that occur.
-/
import GpuHealth.State
import GpuHealth.Core.Settings

namespace GpuHealth.StateText

open GpuHealth.CText GpuHealth.State GpuHealth.Settings

variable {K : Type} [Arith K]

inductive StateValue (K : Type) where
  | str (s : CStr)
  | num (v : Dbl K)
  | time (t : UInt64)
  | int (v : ℤ)
deriving DecidableEq, Repr

/-- a value of ℚ in `K` -/
def StateValue.ofRat : StateValue ℚ → StateValue K
  | .str s => .str s
  | .num v => .num v.ofRat
  | .time t => .time t
  | .int v => .int v

theorem StateValue.ofRat_injective : Function.Injective (StateValue.ofRat : StateValue ℚ → StateValue K) := by
  intro a b h
  cases a <;> cases b <;> simp only [StateValue.ofRat, StateValue.str.injEq, StateValue.num.injEq,
    StateValue.time.injEq, StateValue.int.injEq, reduceCtorEq] at h
  · rw [h]
  · rw [Dbl.ofRat_injective h]
  · rw [h]
  · rw [h]

/-! ## The keys of a baseline -/

inductive BaselineKey where
  | serial
  | uuid
  | driverVersion
  | perfWMean
  | establishedAt
  | workload
  | sampleCount
deriving DecidableEq, Repr

def baselineName : BaselineKey → CStr
  | .serial => "serial".toList
  | .uuid => "uuid".toList
  | .driverVersion => "driver_version".toList
  | .perfWMean => "perf_w_mean".toList
  | .establishedAt => "established_at".toList
  | .workload => "workload".toList
  | .sampleCount => "sample_count".toList

def baselineKey (key : CStr) : Option BaselineKey :=
  [.serial, .uuid, .driverVersion, .perfWMean, .establishedAt, .workload, .sampleCount].find? fun k =>
    baselineName k = key

/-- a file without them is not accepted -/
def BaselineKey.required : BaselineKey → Bool
  | .uuid => false
  | .driverVersion => false
  | _ => true

def isoTime (K : Type) (t : CStr) : Option (StateValue K) :=
  if parseIso8601 t = 0 then none else some (.time (parseIso8601 t))

/-- every rejected text is a parse error -/
def baselineRules (K : Type) [Arith K] : Rules BaselineKey CStr (StateValue K) where
  conv
    | .serial, t => some (.str (safeStrncpy t 32))
    | .uuid, t => some (.str (safeStrncpy t 48))
    | .driverVersion, t => some (.str (safeStrncpy t 64))
    | .perfWMean, t => (parseDouble t 0 (10 ^ 9)).map fun v => .num v.ofRat
    | .establishedAt, t => isoTime K t
    | .workload, t => some (.str (safeStrncpy t 128))
    | .sampleCount, t => (parseInt t 1 1000000).map .int
  strict _ := true

theorem baselineRules_ofRat (k : BaselineKey) (t : CStr) :
    (baselineRules K).conv k t = ((baselineRules ℚ).conv k t).map StateValue.ofRat := by
  cases k with
  | establishedAt =>
    simp only [baselineRules, isoTime]
    split_ifs <;> rfl
  | _ => simp [baselineRules, Function.comp_def, StateValue.ofRat]

def baselineField (b : GpuBaseline K) : BaselineKey → StateValue K
  | .serial => .str b.serial
  | .uuid => .str b.uuid
  | .driverVersion => .str b.driverVersion
  | .perfWMean => .num b.perfWMean
  | .establishedAt => .time b.establishedAtS
  | .workload => .str b.workload
  | .sampleCount => .int b.sampleCount

/-- the has_* flag of a required key -/
def baselineSeen (s : BaselineScan K) : BaselineKey → Bool
  | .serial => s.hasSerial
  | .perfWMean => s.hasPerfW
  | .establishedAt => s.hasEstablished
  | .workload => s.hasWorkload
  | .sampleCount => s.hasSampleCount
  | _ => false

def baselineSetting (line : CStr) : Option (BaselineKey × CStr) :=
  (splitKv line).bind fun kv => (baselineKey kv.1).map fun k => (k, kv.2)

def baselineSettings (lines : List CStr) : List (BaselineKey × CStr) := lines.filterMap baselineSetting

theorem baselineKey_name (k : BaselineKey) : baselineKey (baselineName k) = some k := by
  cases k <;> decide

theorem baselineName_inj {k k' : BaselineKey} : baselineName k = baselineName k' ↔ k = k' := by
  constructor
  · intro h
    exact Option.some.inj ((baselineKey_name k).symm.trans (h ▸ baselineKey_name k'))
  · exact congrArg baselineName

theorem baselineKey_eq_some {key : CStr} {k : BaselineKey} : baselineKey key = some k ↔ key = baselineName k := by
  constructor
  · intro h
    have hname : baselineName k = key := by simpa using List.find?_some h
    exact hname.symm
  · rintro rfl
    exact baselineKey_name k

/-- a line is a setting exactly when it splits into a recognised key and a text -/
theorem baselineSetting_eq_some {line : CStr} {k : BaselineKey} {t : CStr} :
    baselineSetting line = some (k, t) ↔ splitKv line = some (baselineName k, t) := by
  unfold baselineSetting
  constructor
  · intro h
    obtain ⟨kv, hkv, hset⟩ := Option.bind_eq_some_iff.1 h
    obtain ⟨k', hk, heq⟩ := Option.map_eq_some_iff.1 hset
    obtain ⟨rfl, rfl⟩ := Prod.mk.inj heq
    rw [hkv, ← baselineKey_eq_some.1 hk]
  · intro h
    rw [h, Option.bind_some, baselineKey_name]
    rfl

/-! ## The scan of a baseline -/

/-- the value stored, and its key seen -/
def baselineStore (s : BaselineScan K) : BaselineKey → CStr → BaselineScan K
  | .serial, t => { s with out := { s.out with serial := safeStrncpy t 32 }, hasSerial := true }
  | .uuid, t => { s with out := { s.out with uuid := safeStrncpy t 48 } }
  | .driverVersion, t => { s with out := { s.out with driverVersion := safeStrncpy t 64 } }
  | .perfWMean, t =>
    match parseDouble t 0 (10 ^ 9) with
    | none => { s with parseError := true }
    | some v => { s with out := { s.out with perfWMean := v.ofRat }, hasPerfW := true }
  | .establishedAt, t =>
    if parseIso8601 t = 0 then { s with out := { s.out with establishedAtS := parseIso8601 t }, parseError := true }
    else { s with out := { s.out with establishedAtS := parseIso8601 t }, hasEstablished := true }
  | .workload, t => { s with out := { s.out with workload := safeStrncpy t 128 }, hasWorkload := true }
  | .sampleCount, t =>
    match parseInt t 1 1000000 with
    | none => { s with parseError := true }
    | some v => { s with out := { s.out with sampleCount := v }, hasSampleCount := true }

theorem baselineLine_split {s : BaselineScan K} (herr : s.parseError = false) {line key t : CStr}
    (h : splitKv line = some (key, t)) :
    baselineLine s line =
      if key = baselineName .serial then baselineStore s .serial t
      else if key = baselineName .uuid then baselineStore s .uuid t
      else if key = baselineName .driverVersion then baselineStore s .driverVersion t
      else if key = baselineName .perfWMean then baselineStore s .perfWMean t
      else if key = baselineName .establishedAt then baselineStore s .establishedAt t
      else if key = baselineName .workload then baselineStore s .workload t
      else if key = baselineName .sampleCount then baselineStore s .sampleCount t
      else s := by
  rw [baselineLine, if_neg (by rw [herr]; exact Bool.false_ne_true), h]
  rfl

/-- a setting after the parse error is not looked at -/
theorem baselineLine_error {s : BaselineScan K} (h : s.parseError = true) (line : CStr) : baselineLine s line = s := by
  rw [baselineLine, if_pos h]

theorem baselineLine_none (s : BaselineScan K) {line : CStr} (h : baselineSetting line = none) :
    baselineLine s line = s := by
  cases herr : s.parseError with
  | true => exact baselineLine_error herr line
  | false =>
    cases hkv : splitKv line with
    | none => rw [baselineLine, if_neg (by rw [herr]; exact Bool.false_ne_true), hkv]
    | some kv =>
      have hno : ∀ k, kv.1 ≠ baselineName k := by
        intro k hk
        rw [baselineSetting_eq_some (k := k) (t := kv.2) |>.2 (by rw [hkv, ← hk])] at h
        cases h
      rw [baselineLine_split herr hkv, if_neg (hno .serial), if_neg (hno .uuid), if_neg (hno .driverVersion),
        if_neg (hno .perfWMean), if_neg (hno .establishedAt), if_neg (hno .workload), if_neg (hno .sampleCount)]

theorem baselineLine_some {s : BaselineScan K} (herr : s.parseError = false) {line : CStr} {k : BaselineKey}
    {t : CStr} (h : baselineSetting line = some (k, t)) : baselineLine s line = baselineStore s k t := by
  rw [baselineLine_split herr (baselineSetting_eq_some.1 h)]
  simp only [baselineName_inj]
  cases k <;> rfl

theorem baselineStore_refused (s : BaselineScan K) {k : BaselineKey} {t : CStr}
    (h : (baselineRules K).conv k t = none) : (baselineStore s k t).parseError = true := by
  cases k with
  | perfWMean =>
    have hparse : parseDouble t 0 (10 ^ 9) = none := Option.map_eq_none_iff.1 h
    simp only [baselineStore, hparse]
  | establishedAt =>
    have htime : parseIso8601 t = 0 := by
      by_contra hne
      exact absurd h (by simp [baselineRules, isoTime, hne])
    simp only [baselineStore, htime, if_true]
  | sampleCount =>
    have hparse : parseInt t 1 1000000 = none := Option.map_eq_none_iff.1 h
    simp only [baselineStore, hparse]
  | _ => exact absurd h (by simp [baselineRules])

/-- a value that is not refused is stored, and its key counts as seen -/
theorem baselineStore_stored (s : BaselineScan K) {k : BaselineKey} {t : CStr} {v : StateValue K}
    (h : (baselineRules K).conv k t = some v) :
    (baselineStore s k t).parseError = s.parseError ∧
    (∀ k', baselineField (baselineStore s k t).out k' = if k = k' then v else baselineField s.out k') ∧
    ∀ k', k'.required = true → baselineSeen (baselineStore s k t) k' = (decide (k = k') || baselineSeen s k') := by
  cases k with
  | perfWMean =>
    obtain ⟨x, hparse, rfl⟩ := Option.map_eq_some_iff.1 h
    simp only [baselineStore, hparse]
    refine ⟨trivial, fun k' => ?_, fun k' _ => ?_⟩ <;> cases k' <;> rfl
  | establishedAt =>
    have htime : parseIso8601 t ≠ 0 := by
      intro h0
      exact absurd h (by simp [baselineRules, isoTime, h0])
    obtain rfl : StateValue.time (parseIso8601 t) = v := by simpa [baselineRules, isoTime, htime] using h
    simp only [baselineStore, if_neg htime]
    refine ⟨trivial, fun k' => ?_, fun k' _ => ?_⟩ <;> cases k' <;> rfl
  | sampleCount =>
    obtain ⟨x, hparse, rfl⟩ := Option.map_eq_some_iff.1 h
    simp only [baselineStore, hparse]
    refine ⟨trivial, fun k' => ?_, fun k' _ => ?_⟩ <;> cases k' <;> rfl
  | _ =>
    obtain rfl := Option.some.inj h
    refine ⟨rfl, fun k' => by cases k' <;> rfl, ?_⟩
    intro k' hrequired
    cases k' <;> first | rfl | cases hrequired

def baselineScanner (K : Type) [Arith K] : Scan BaselineKey CStr (StateValue K) (BaselineScan K) CStr where
  setting := baselineSetting
  step := baselineLine
  error s := s.parseError
  field s := baselineField s.out
  seen := baselineSeen
  required := BaselineKey.required

theorem baselineScanner_follows : (baselineScanner K).Follows (baselineRules K) where
  stuck _ line herr := baselineLine_error herr line
  skips s _ hset := baselineLine_none s hset
  refuses s line k t herr hset hconv _ := by
    change (baselineLine s line).parseError = true
    rw [baselineLine_some herr hset]
    exact baselineStore_refused s hconv
  ignores _ _ _ _ _ _ _ hstrict := absurd hstrict.symm Bool.false_ne_true
  stores s line k t v herr hset hconv := by
    obtain ⟨hstays, hfield, hseen⟩ := baselineStore_stored s hconv
    change (baselineLine s line).parseError = false ∧ (∀ k', baselineField (baselineLine s line).out k' = _) ∧
      ∀ k', k'.required = true → baselineSeen (baselineLine s line) k' = _
    rw [baselineLine_some herr hset]
    exact ⟨hstays.trans herr, hfield, hseen⟩

/-- **What the scan of a baseline file has read.** -/
theorem baselineScan_reads (file : CStr) :
    (baselineScanner K).Reads (baselineRules K)
      ⟨{ GpuBaseline.zeroed with available := 1 }, false, false, false, false, false, false⟩
      (baselineSettings (fgetsLines 512 file)) (baselineScan file) :=
  baselineScanner_follows.reads rfl (fun k _ => by cases k <;> rfl) _

/-- the checks before the serial's: nothing is refused and the required keys occur -/
theorem baselineComplete_iff (file : CStr) :
    ((baselineScan file : BaselineScan K).parseError = false ∧
      ((baselineScan file : BaselineScan K).hasSerial ∧ (baselineScan file : BaselineScan K).hasPerfW ∧
        (baselineScan file : BaselineScan K).hasEstablished ∧ (baselineScan file : BaselineScan K).hasWorkload ∧
        (baselineScan file : BaselineScan K).hasSampleCount)) ↔
      ¬ (baselineRules K).Refused (baselineSettings (fgetsLines 512 file)) ∧
        ∀ k, k.required = true → ∃ s ∈ baselineSettings (fgetsLines 512 file), s.1 = k := by
  have hreads := baselineScan_reads (K := K) file
  have herr : (baselineScan file : BaselineScan K).parseError = true ↔
      (baselineRules K).Refused (baselineSettings (fgetsLines 512 file)) := hreads.error
  have hseen : ¬ (baselineRules K).Refused (baselineSettings (fgetsLines 512 file)) → ∀ k, k.required = true →
      (baselineSeen (baselineScan file : BaselineScan K) k = true ↔
        ∃ s ∈ baselineSettings (fgetsLines 512 file), s.1 = k) := by
    intro hclean k hk
    have hflag : baselineSeen (baselineScan file : BaselineScan K) k = _ := hreads.seen hclean k hk
    rw [hflag, value_isSome _ hclean rfl]
  rw [← Bool.not_eq_true, herr]
  refine and_congr_right fun hclean => ⟨?_, ?_⟩
  · rintro ⟨hserial, hmean, htime, hwork, hcount⟩ k hk
    refine (hseen hclean k hk).1 ?_
    cases k <;> assumption
  · intro hall
    have hflag := fun k hk => (hseen hclean k hk).2 (hall k hk)
    exact ⟨hflag .serial rfl, hflag .perfWMean rfl, hflag .establishedAt rfl, hflag .workload rfl,
      hflag .sampleCount rfl⟩

/-- the verdicts of `baseline_load` leave the fields as the scan read them -/
theorem baselineLoad_field (file serial : CStr) (k : BaselineKey) :
    baselineField (baselineLoad (some file) serial : GpuBaseline K) k =
      baselineField (baselineScan file : BaselineScan K).out k := by
  unfold baselineLoad
  dsimp only
  split_ifs <;> cases k <;> rfl

/-- no setting touches the verdicts of `baseline_load` and of the driver check -/
theorem baselineLine_verdicts (s : BaselineScan K) (line : CStr) :
    (baselineLine s line).out.serialMismatch = s.out.serialMismatch ∧
      (baselineLine s line).out.driverMismatch = s.out.driverMismatch := by
  cases herr : s.parseError with
  | true => rw [baselineLine_error herr]; exact ⟨rfl, rfl⟩
  | false =>
    cases hset : baselineSetting line with
    | none => rw [baselineLine_none s hset]; exact ⟨rfl, rfl⟩
    | some kt =>
      rw [baselineLine_some herr hset]
      unfold baselineStore
      split <;> first | exact ⟨rfl, rfl⟩ | (split <;> exact ⟨rfl, rfl⟩)

theorem baselineScan_verdicts (file : CStr) :
    (baselineScan file : BaselineScan K).out.serialMismatch = 0 ∧
      (baselineScan file : BaselineScan K).out.driverMismatch = 0 := by
  unfold baselineScan
  generalize fgetsLines 512 file = lines
  induction lines using List.reverseRecOn with
  | nil => exact ⟨rfl, rfl⟩
  | append_singleton lines line ih =>
    rw [List.foldl_append, List.foldl_cons, List.foldl_nil, (baselineLine_verdicts _ _).1, (baselineLine_verdicts _ _).2]
    exact ih

theorem baselineScan_serialMismatch (file : CStr) : (baselineScan file : BaselineScan K).out.serialMismatch = 0 :=
  (baselineScan_verdicts file).1

/-- a refused text leaves the strings of the result alone -/
theorem baselineStore_keeps_driver (s : BaselineScan K) {k : BaselineKey} {t : CStr}
    (h : (baselineRules K).conv k t = none) : (baselineStore s k t).out.driverVersion = s.out.driverVersion := by
  cases k with
  | driverVersion => exact absurd h (by simp [baselineRules])
  | perfWMean => simp only [baselineStore]; split <;> rfl
  | establishedAt => simp only [baselineStore]; split <;> rfl
  | sampleCount => simp only [baselineStore]; split <;> rfl
  | _ => rfl

/-- the driver version of a scan: the last one in front of the first refused text -/
theorem baselineScan_driverVersion (file : CStr) :
    (baselineScan file : BaselineScan K).out.driverVersion =
      ((lastText ((baselineRules K).before (baselineSettings (fgetsLines 512 file))) .driverVersion).map
        fun t => safeStrncpy t 64).getD [] := by
  have hfield := baselineScanner_follows (K := K).field_before (k := .driverVersion)
    (fun s line k t herr hset hconv => by
      change StateValue.str (baselineLine s line).out.driverVersion = .str s.out.driverVersion
      rw [baselineLine_some herr hset, baselineStore_keeps_driver s hconv])
    (s := ⟨{ GpuBaseline.zeroed with available := 1 }, false, false, false, false, false, false⟩) rfl
    (fgetsLines 512 file)
  have hvalue : ∀ l, (baselineRules K).value l .driverVersion =
      (lastText l .driverVersion).map fun t => StateValue.str (safeStrncpy t 64) := by
    intro l
    have hconv : (baselineRules K).conv .driverVersion = some ∘ fun t => StateValue.str (safeStrncpy t 64) := rfl
    rw [Rules.value, hconv, List.filterMap_eq_map, List.getLast?_map, lastText]
  change StateValue.str (baselineScan file : BaselineScan K).out.driverVersion =
    ((baselineRules K).value ((baselineRules K).before (baselineSettings (fgetsLines 512 file))) .driverVersion).getD
      (.str []) at hfield
  rw [hvalue] at hfield
  refine StateValue.str.inj (hfield.trans ?_)
  cases lastText ((baselineRules K).before (baselineSettings (fgetsLines 512 file))) .driverVersion <;> rfl

/-! ## The keys of a probe result -/

inductive ProbeKey where
  | serial
  | perfWMean
  | probeTimestamp
  | probeExitCode
  | workload
  | sampleCount
  | probeDurationS
deriving DecidableEq, Repr

def probeName : ProbeKey → CStr
  | .serial => "serial".toList
  | .perfWMean => "perf_w_mean".toList
  | .probeTimestamp => "probe_timestamp".toList
  | .probeExitCode => "probe_exit_code".toList
  | .workload => "workload".toList
  | .sampleCount => "sample_count".toList
  | .probeDurationS => "probe_duration_s".toList

def probeKey (key : CStr) : Option ProbeKey :=
  [.serial, .perfWMean, .probeTimestamp, .probeExitCode, .workload, .sampleCount, .probeDurationS].find? fun k =>
    probeName k = key

def ProbeKey.required : ProbeKey → Bool
  | .workload => false
  | .sampleCount => false
  | .probeDurationS => false
  | _ => true

/-- a rejected count or duration is passed over -/
def probeRules (K : Type) [Arith K] : Rules ProbeKey CStr (StateValue K) where
  conv
    | .serial, t => some (.str (safeStrncpy t 32))
    | .perfWMean, t => (parseDouble t 0 (10 ^ 9)).map fun v => .num v.ofRat
    | .probeTimestamp, t => isoTime K t
    | .probeExitCode, t => (parseInt t (-1000) 1000).map .int
    | .workload, t => some (.str (safeStrncpy t 128))
    | .sampleCount, t => (parseInt t 0 1000000).map .int
    | .probeDurationS, t => (parseDouble t 0 86400).map fun v => .num v.ofRat
  strict
    | .sampleCount => false
    | .probeDurationS => false
    | _ => true

theorem probeRules_ofRat (k : ProbeKey) (t : CStr) :
    (probeRules K).conv k t = ((probeRules ℚ).conv k t).map StateValue.ofRat := by
  cases k with
  | probeTimestamp =>
    simp only [probeRules, isoTime]
    split_ifs <;> rfl
  | _ => simp [probeRules, Function.comp_def, StateValue.ofRat]

def probeField (p : GpuProbeResult K) : ProbeKey → StateValue K
  | .serial => .str p.serial
  | .perfWMean => .num p.perfWMean
  | .probeTimestamp => .time p.probeTimestampS
  | .probeExitCode => .int p.probeExitCode
  | .workload => .str p.workload
  | .sampleCount => .int p.sampleCount
  | .probeDurationS => .num p.probeDurationS

def probeSeen (s : ProbeScan K) : ProbeKey → Bool
  | .serial => s.hasSerial
  | .perfWMean => s.hasPerfW
  | .probeTimestamp => s.hasTimestamp
  | .probeExitCode => s.hasExitCode
  | _ => false

def probeSetting (line : CStr) : Option (ProbeKey × CStr) :=
  (splitKv line).bind fun kv => (probeKey kv.1).map fun k => (k, kv.2)

def probeSettings (lines : List CStr) : List (ProbeKey × CStr) := lines.filterMap probeSetting

theorem probeKey_name (k : ProbeKey) : probeKey (probeName k) = some k := by
  cases k <;> decide

theorem probeName_inj {k k' : ProbeKey} : probeName k = probeName k' ↔ k = k' := by
  constructor
  · intro h
    exact Option.some.inj ((probeKey_name k).symm.trans (h ▸ probeKey_name k'))
  · exact congrArg probeName

theorem probeKey_eq_some {key : CStr} {k : ProbeKey} : probeKey key = some k ↔ key = probeName k := by
  constructor
  · intro h
    have hname : probeName k = key := by simpa using List.find?_some h
    exact hname.symm
  · rintro rfl
    exact probeKey_name k

theorem probeSetting_eq_some {line : CStr} {k : ProbeKey} {t : CStr} :
    probeSetting line = some (k, t) ↔ splitKv line = some (probeName k, t) := by
  unfold probeSetting
  constructor
  · intro h
    obtain ⟨kv, hkv, hset⟩ := Option.bind_eq_some_iff.1 h
    obtain ⟨k', hk, heq⟩ := Option.map_eq_some_iff.1 hset
    obtain ⟨rfl, rfl⟩ := Prod.mk.inj heq
    rw [hkv, ← probeKey_eq_some.1 hk]
  · intro h
    rw [h, Option.bind_some, probeKey_name]
    rfl

/-! ## The scan of a probe result -/

def probeStore (s : ProbeScan K) : ProbeKey → CStr → ProbeScan K
  | .serial, t => { s with out := { s.out with serial := safeStrncpy t 32 }, hasSerial := true }
  | .perfWMean, t =>
    match parseDouble t 0 (10 ^ 9) with
    | none => { s with parseError := true }
    | some v => { s with out := { s.out with perfWMean := v.ofRat }, hasPerfW := true }
  | .probeTimestamp, t =>
    if parseIso8601 t = 0 then { s with out := { s.out with probeTimestampS := parseIso8601 t }, parseError := true }
    else { s with out := { s.out with probeTimestampS := parseIso8601 t }, hasTimestamp := true }
  | .probeExitCode, t =>
    match parseInt t (-1000) 1000 with
    | none => { s with parseError := true }
    | some v => { s with out := { s.out with probeExitCode := v }, hasExitCode := true }
  | .workload, t => { s with out := { s.out with workload := safeStrncpy t 128 } }
  | .sampleCount, t =>
    match parseInt t 0 1000000 with
    | none => s
    | some v => { s with out := { s.out with sampleCount := v } }
  | .probeDurationS, t =>
    match parseDouble t 0 86400 with
    | none => s
    | some v => { s with out := { s.out with probeDurationS := v.ofRat } }

theorem probeLine_split {s : ProbeScan K} (herr : s.parseError = false) {line key t : CStr}
    (h : splitKv line = some (key, t)) :
    probeLine s line =
      if key = probeName .serial then probeStore s .serial t
      else if key = probeName .perfWMean then probeStore s .perfWMean t
      else if key = probeName .probeTimestamp then probeStore s .probeTimestamp t
      else if key = probeName .probeExitCode then probeStore s .probeExitCode t
      else if key = probeName .workload then probeStore s .workload t
      else if key = probeName .sampleCount then probeStore s .sampleCount t
      else if key = probeName .probeDurationS then probeStore s .probeDurationS t
      else s := by
  rw [probeLine, if_neg (by rw [herr]; exact Bool.false_ne_true), h]
  rfl

theorem probeLine_error {s : ProbeScan K} (h : s.parseError = true) (line : CStr) : probeLine s line = s := by
  rw [probeLine, if_pos h]

theorem probeLine_none (s : ProbeScan K) {line : CStr} (h : probeSetting line = none) : probeLine s line = s := by
  cases herr : s.parseError with
  | true => exact probeLine_error herr line
  | false =>
    cases hkv : splitKv line with
    | none => rw [probeLine, if_neg (by rw [herr]; exact Bool.false_ne_true), hkv]
    | some kv =>
      have hno : ∀ k, kv.1 ≠ probeName k := by
        intro k hk
        rw [probeSetting_eq_some (k := k) (t := kv.2) |>.2 (by rw [hkv, ← hk])] at h
        cases h
      rw [probeLine_split herr hkv, if_neg (hno .serial), if_neg (hno .perfWMean), if_neg (hno .probeTimestamp),
        if_neg (hno .probeExitCode), if_neg (hno .workload), if_neg (hno .sampleCount), if_neg (hno .probeDurationS)]

theorem probeLine_some {s : ProbeScan K} (herr : s.parseError = false) {line : CStr} {k : ProbeKey}
    {t : CStr} (h : probeSetting line = some (k, t)) : probeLine s line = probeStore s k t := by
  rw [probeLine_split herr (probeSetting_eq_some.1 h)]
  simp only [probeName_inj]
  cases k <;> rfl

theorem probeStore_refused (s : ProbeScan K) {k : ProbeKey} {t : CStr} (h : (probeRules K).conv k t = none)
    (hstrict : (probeRules K).strict k = true) : (probeStore s k t).parseError = true := by
  cases k with
  | perfWMean =>
    have hparse : parseDouble t 0 (10 ^ 9) = none := Option.map_eq_none_iff.1 h
    simp only [probeStore, hparse]
  | probeTimestamp =>
    have htime : parseIso8601 t = 0 := by
      by_contra hne
      exact absurd h (by simp [probeRules, isoTime, hne])
    simp only [probeStore, htime, if_true]
  | probeExitCode =>
    have hparse : parseInt t (-1000) 1000 = none := Option.map_eq_none_iff.1 h
    simp only [probeStore, hparse]
  | sampleCount => exact absurd hstrict Bool.false_ne_true
  | probeDurationS => exact absurd hstrict Bool.false_ne_true
  | _ => exact absurd h (by simp [probeRules])

theorem probeStore_ignored (s : ProbeScan K) {k : ProbeKey} {t : CStr} (h : (probeRules K).conv k t = none)
    (hstrict : (probeRules K).strict k = false) : probeStore s k t = s := by
  cases k with
  | sampleCount =>
    have hparse : parseInt t 0 1000000 = none := Option.map_eq_none_iff.1 h
    simp only [probeStore, hparse]
  | probeDurationS =>
    have hparse : parseDouble t 0 86400 = none := Option.map_eq_none_iff.1 h
    simp only [probeStore, hparse]
  | _ => exact absurd hstrict.symm Bool.false_ne_true

theorem probeStore_stored (s : ProbeScan K) {k : ProbeKey} {t : CStr} {v : StateValue K}
    (h : (probeRules K).conv k t = some v) :
    (probeStore s k t).parseError = s.parseError ∧
    (∀ k', probeField (probeStore s k t).out k' = if k = k' then v else probeField s.out k') ∧
    ∀ k', k'.required = true → probeSeen (probeStore s k t) k' = (decide (k = k') || probeSeen s k') := by
  cases k with
  | serial =>
    obtain rfl := Option.some.inj h
    refine ⟨rfl, fun k' => ?_, fun k' _ => ?_⟩ <;> cases k' <;> rfl
  | workload =>
    obtain rfl := Option.some.inj h
    refine ⟨rfl, fun k' => by cases k' <;> rfl, ?_⟩
    intro k' hrequired
    cases k' <;> first | rfl | cases hrequired
  | probeTimestamp =>
    have htime : parseIso8601 t ≠ 0 := by
      intro h0
      exact absurd h (by simp [probeRules, isoTime, h0])
    obtain rfl : StateValue.time (parseIso8601 t) = v := by simpa [probeRules, isoTime, htime] using h
    simp only [probeStore, if_neg htime]
    refine ⟨trivial, fun k' => ?_, fun k' _ => ?_⟩ <;> cases k' <;> rfl
  | _ =>
    obtain ⟨x, hparse, rfl⟩ := Option.map_eq_some_iff.1 h
    simp only [probeStore, hparse]
    refine ⟨trivial, fun k' => by cases k' <;> rfl, ?_⟩
    intro k' hrequired
    cases k' <;> first | rfl | cases hrequired

def probeScanner (K : Type) [Arith K] : Scan ProbeKey CStr (StateValue K) (ProbeScan K) CStr where
  setting := probeSetting
  step := probeLine
  error s := s.parseError
  field s := probeField s.out
  seen := probeSeen
  required := ProbeKey.required

theorem probeScanner_follows : (probeScanner K).Follows (probeRules K) where
  stuck _ line herr := probeLine_error herr line
  skips s _ hset := probeLine_none s hset
  refuses s line k t herr hset hconv hstrict := by
    change (probeLine s line).parseError = true
    rw [probeLine_some herr hset]
    exact probeStore_refused s hconv hstrict
  ignores s line k t herr hset hconv hstrict := by
    change probeLine s line = s
    rw [probeLine_some herr hset]
    exact probeStore_ignored s hconv hstrict
  stores s line k t v herr hset hconv := by
    obtain ⟨hstays, hfield, hseen⟩ := probeStore_stored s hconv
    change (probeLine s line).parseError = false ∧ (∀ k', probeField (probeLine s line).out k' = _) ∧
      ∀ k', k'.required = true → probeSeen (probeLine s line) k' = _
    rw [probeLine_some herr hset]
    exact ⟨hstays.trans herr, hfield, hseen⟩

/-- **What the scan of a probe file has read.** -/
theorem probeScan_reads (file : CStr) :
    (probeScanner K).Reads (probeRules K)
      ⟨{ GpuProbeResult.zeroed with available := 1 }, false, false, false, false, false⟩
      (probeSettings (fgetsLines 512 file)) (probeScan file) :=
  probeScanner_follows.reads rfl (fun k _ => by cases k <;> rfl) _

/-- the verdicts of `probe_load` leave the fields as the scan read them -/
theorem probeLoad_field (file : CStr) (ttl : ℤ) (now : UInt64) (k : ProbeKey) :
    probeField (probeLoad (some file) ttl now : GpuProbeResult K) k =
      probeField (probeScan file : ProbeScan K).out k := by
  unfold probeLoad
  dsimp only
  split_ifs <;> cases k <;> rfl

/-- a probe file is accepted when nothing is refused and the required keys occur -/
theorem probeAccepted_iff (file : CStr) :
    (probeScan file : ProbeScan K).accepted = true ↔
      ¬ (probeRules K).Refused (probeSettings (fgetsLines 512 file)) ∧
        ∀ k, k.required = true → ∃ s ∈ probeSettings (fgetsLines 512 file), s.1 = k := by
  have hreads := probeScan_reads (K := K) file
  have herr : (probeScan file : ProbeScan K).parseError = true ↔
      (probeRules K).Refused (probeSettings (fgetsLines 512 file)) := hreads.error
  have hseen : ¬ (probeRules K).Refused (probeSettings (fgetsLines 512 file)) → ∀ k, k.required = true →
      (probeSeen (probeScan file : ProbeScan K) k = true ↔ ∃ s ∈ probeSettings (fgetsLines 512 file), s.1 = k) := by
    intro hclean k hk
    have hflag : probeSeen (probeScan file : ProbeScan K) k = _ := hreads.seen hclean k hk
    have hstrict : (probeRules K).strict k = true := by
      cases k <;> first | rfl | cases hk
    rw [hflag, value_isSome _ hclean hstrict]
  simp only [ProbeScan.accepted, Bool.and_eq_true, Bool.not_eq_true', Bool.eq_false_iff, Ne, herr]
  refine and_congr_right fun hclean => ⟨?_, ?_⟩
  · rintro ⟨⟨⟨hserial, hmean⟩, htime⟩, hcode⟩ k hk
    refine (hseen hclean k hk).1 ?_
    cases k <;> assumption
  · intro hall
    have hflag := fun k hk => (hseen hclean k hk).2 (hall k hk)
    exact ⟨⟨⟨hflag .serial rfl, hflag .perfWMean rfl⟩, hflag .probeTimestamp rfl⟩, hflag .probeExitCode rfl⟩

end GpuHealth.StateText
