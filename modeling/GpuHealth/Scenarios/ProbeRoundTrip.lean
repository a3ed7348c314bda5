/-
What the probe program writes, the exporter reads back.

The property, for every result of a probe run (`ProbeRun`: a serial of at most 31 characters, uuid of 47 and driver
version of 63, all without newlines and blanks at either end, a second of the years 1970 to 9999, 5 to 4096 samples, a
matrix of 512 to 32768, at most 86400 s, a perf/W p with 0.000001 <= p <= 1e9): `probe_load` makes of the file of
`write_probe_file` an available result with the serial, workload, sample count, second, exit code 0 and p rounded to
six decimals; `baseline_load` makes of the file of `write_baseline_file`, for that serial, an available and valid
baseline with the same fields. Whether the probe result is stale is for the clock to say.

It holds (`probe_round_trip`). The two programs agree line by line: every line fits the reader's buffer
(`keyLine_whole`), splits into the key it was written with (`splitKv_keyLine`), and its number or time stamp comes back
(`parseDouble_decimalText`, `parseInt_natText`, `parseIso8601_iso8601`).
-/
import GpuHealth.ProbeWriter
import GpuHealth.StateText

namespace GpuHealth.ProbeRoundTrip

open GpuHealth.CText GpuHealth.Decimal GpuHealth.NumberText GpuHealth.Calendar GpuHealth.ProbeWriter
open GpuHealth.State GpuHealth.StateText GpuHealth.Settings

variable {K : Type} [Arith K]

/-! ## The property -/

/-- a C string of at most `n` characters, without newlines and without blanks at its ends -/
structure Plain (n : ℕ) (s : CStr) : Prop where
  length : s.length ≤ n
  newline : '\n' ∉ s
  nul : '\x00' ∉ s
  trimmed : Trimmed s

theorem Plain.mono {n m : ℕ} {s : CStr} (h : Plain n s) (hle : n ≤ m) : Plain m s :=
  ⟨h.length.trans hle, h.newline, h.nul, h.trimmed⟩

/-- what a run of the probe has to write -/
structure ProbeRun where
  serial : CStr
  uuid : CStr
  driverVersion : CStr
  time : ℕ
  matrixN : ℕ
  sampleCount : ℕ
  durationS : ℚ
  perfWMean : ℚ
  serial_plain : Plain 31 serial
  uuid_plain : Plain 47 uuid
  driver_plain : Plain 63 driverVersion
  time_range : 1 ≤ time ∧ time ≤ 253402300799
  matrix_range : 512 ≤ matrixN ∧ matrixN ≤ 32768
  sample_range : 5 ≤ sampleCount ∧ sampleCount ≤ 4096
  duration_range : 0 ≤ durationS ∧ durationS ≤ 86400
  mean_range : 1 / 10 ^ 6 ≤ perfWMean ∧ perfWMean ≤ 10 ^ 9

def ProbeRun.workload (r : ProbeRun) : CStr := workloadText r.matrixN

/-- p rounded to six decimals -/
def ProbeRun.mean (K : Type) [Arith K] (r : ProbeRun) : Dbl K := .fin (roundDecimals 6 r.perfWMean : ℚ)

def ProbeRun.probeFile (r : ProbeRun) : CStr :=
  writeProbeFile r.serial (iso8601 r.time) (.fin r.perfWMean) (.fin r.durationS) r.sampleCount r.workload

def ProbeRun.baselineFile (r : ProbeRun) : CStr :=
  writeBaselineFile r.serial r.uuid r.driverVersion (iso8601 r.time) (.fin r.perfWMean) r.sampleCount r.workload

structure ProbeAgrees (r : ProbeRun) (p : GpuProbeResult K) : Prop where
  available : p.available = 1
  serial : p.serial = r.serial
  workload : p.workload = r.workload
  sampleCount : p.sampleCount = r.sampleCount
  exitCode : p.probeExitCode = 0
  timestamp : p.probeTimestampS.toNat = r.time
  perfWMean : p.perfWMean = r.mean K
  durationS : p.probeDurationS = .fin (roundDecimals 3 r.durationS : ℚ)

structure BaselineAgrees (r : ProbeRun) (b : GpuBaseline K) : Prop where
  available : b.available = 1
  valid : b.valid = 1
  serialMismatch : b.serialMismatch = 0
  serial : b.serial = r.serial
  uuid : b.uuid = r.uuid
  driverVersion : b.driverVersion = r.driverVersion
  workload : b.workload = r.workload
  sampleCount : b.sampleCount = r.sampleCount
  establishedAt : b.establishedAtS.toNat = r.time
  perfWMean : b.perfWMean = r.mean K

/-! ## Lines -/

/-- neither blank nor NUL -/
def Solid (s : CStr) : Prop := ∀ c ∈ s, isspace c = false ∧ c ≠ '\x00'

instance (s : CStr) : Decidable (Solid s) := List.decidableBAll _ s

theorem solid_append {s t : CStr} : Solid (s ++ t) ↔ Solid s ∧ Solid t := List.forall_mem_append

theorem solid_cons {c : Char} {s : CStr} : Solid (c :: s) ↔ (isspace c = false ∧ c ≠ '\x00') ∧ Solid s :=
  List.forall_mem_cons

theorem solid_digits {s : CStr} (h : ∀ c ∈ s, c.isDigit = true) : Solid s := by
  intro c hc
  refine ⟨digit_not_space (h c hc), ?_⟩
  rintro rfl
  exact absurd (h _ hc) (by decide)

theorem plain_of_solid {n : ℕ} {s : CStr} (h : Solid s) (hlen : s.length ≤ n) : Plain n s where
  length := hlen
  newline := fun hmem => absurd (h _ hmem).1 (by decide)
  nul := fun hmem => (h _ hmem).2 rfl
  trimmed := by
    have hany : ∀ o : Option Char, (∀ c, o = some c → c ∈ s) → o.any isspace = false := by
      rintro (_ | c) ho
      · rfl
      · exact (h c (ho c rfl)).1
    exact ⟨hany _ fun c hc => List.mem_of_head? hc, hany _ fun c hc => List.mem_of_getLast? hc⟩

/-- a key that stands for itself in front of '=' -/
structure KeyText (key : CStr) : Prop where
  plain : Plain 100 key
  nonempty : key ≠ []
  comment : key.head? ≠ some '#'
  sign : '=' ∉ key

theorem keyLine_whole {key val : CStr} (hkey : KeyText key) (hval : Plain 400 val) :
    WholeLine 512 (keyLine key val) := by
  have hdrop : (keyLine key val).dropLast = key ++ '=' :: val := List.dropLast_concat
  refine ⟨List.getLast?_concat, ?_, ?_, ?_⟩
  · rw [hdrop]
    simp [hkey.plain.newline, hval.newline]
  · simp [keyLine, hkey.plain.nul, hval.nul]
  · have hkeyLen := hkey.plain.length
    have hvalLen := hval.length
    simp only [keyLine, List.length_append, List.length_cons, List.length_nil]
    omega

theorem splitKv_written {n : ℕ} {key val : CStr} (hkey : KeyText key) (hval : Plain n val) :
    splitKv (keyLine key val) = some (key, val) :=
  splitKv_keyLine hkey.plain.trimmed hkey.nonempty hkey.comment hkey.sign hval.trimmed

/-- every key of the reader stands for itself -/
theorem baselineName_keyText (k : BaselineKey) : KeyText (baselineName k) := by
  cases k <;> exact ⟨⟨by decide, by decide, by decide, by decide⟩, by decide, by decide, by decide⟩

theorem probeName_keyText (k : ProbeKey) : KeyText (probeName k) := by
  cases k <;> exact ⟨⟨by decide, by decide, by decide, by decide⟩, by decide, by decide, by decide⟩

/-! ## Values -/

theorem natText_plain {n w : ℕ} (hw : 0 < w) (h : n < 10 ^ w) : Plain w (natText n) :=
  plain_of_solid (solid_digits fun _ hc => natText_digit hc) ((Nat.length_toDigits_le_iff (by norm_num) hw).2 h)

theorem intText_natCast (n : ℕ) : intText n = natText n := by
  rw [intText, if_neg (by omega), Int.natAbs_natCast]

theorem decimalText_plain {k m w : ℕ} (hk : 0 < k) (hw : 0 < w) (h : m / 10 ^ k < 10 ^ w) :
    Plain (w + 1 + k) (decimalText k m) := by
  have hwhole := (natText_plain hw h).length
  have hlen : (padText k (m % 10 ^ k)).length = k := padText_length hk (Nat.mod_lt _ (by positivity))
  rw [decimalText, if_neg hk.ne']
  refine plain_of_solid (solid_append.2 ⟨solid_digits fun _ hc => natText_digit hc, solid_cons.2 ⟨by decide, ?_⟩⟩) ?_
  · exact solid_digits fun _ hc => padText_digit hc
  · rw [List.length_append, List.length_cons, hlen]
    omega

theorem fixedText_plain {k w b : ℕ} (hk : 0 < k) (hw : 0 < w) {x : ℚ} (h0 : 0 ≤ x) (hmax : x ≤ b)
    (hfits : b < 10 ^ w) : Plain (w + 1 + k) (fixedText k x) := by
  obtain ⟨m, htext, hm⟩ := exists_decimalText k h0
  have hle : (m : ℚ) / 10 ^ k ≤ b := hm.trans_le (roundDecimals_le (n := b) hmax)
  rw [div_le_iff₀ (by positivity)] at hle
  have hdiv : m / 10 ^ k ≤ b := Nat.div_le_of_le_mul (by rw [mul_comm]; exact_mod_cast hle)
  rw [htext]
  exact decimalText_plain hk hw (hdiv.trans_lt hfits)

theorem padText_two {n : ℕ} (h : n ≤ 99) : Solid (padText 2 n) ∧ (padText 2 n).length = 2 :=
  ⟨solid_digits fun _ hc => padText_digit hc, padText_length (by norm_num) (by omega)⟩

theorem iso8601_plain {t : ℕ} (h : t ≤ 253402300799) : Plain 100 (iso8601 t) := by
  have hyear := natText_plain (w := 4) (by norm_num) (Nat.lt_succ_of_le (gmtime_year h))
  obtain ⟨-, hmonth, -, -⟩ := monthOf_spec (gmtime t).year (t / 86400 - (yearStart (gmtime t).year).toNat)
  obtain ⟨smon, lmon⟩ := padText_two (n := (gmtime t).mon) (hmonth.trans (by norm_num))
  obtain ⟨sday, lday⟩ := padText_two (n := (gmtime t).mday) ((gmtime_mday t).trans (by norm_num))
  obtain ⟨shour, lhour⟩ := padText_two (n := (gmtime t).hour) (by change t % 86400 / 3600 ≤ 99; omega)
  obtain ⟨smin, lmin⟩ := padText_two (n := (gmtime t).min) (by change t % 3600 / 60 ≤ 99; omega)
  obtain ⟨ssec, lsec⟩ := padText_two (n := (gmtime t).sec) (by change t % 60 ≤ 99; omega)
  have syear : Solid (natText (gmtime t).year) := solid_digits fun _ hc => natText_digit hc
  refine plain_of_solid ?_ ?_
  · simp only [iso8601, strftimeIso, solid_append, solid_cons, syear, smon, sday, shour, smin, ssec]
    decide
  · have hlen := hyear.length
    simp only [iso8601, strftimeIso, List.length_append, List.length_cons, List.length_nil, lmon, lday, lhour, lmin,
      lsec]
    omega

theorem workload_plain (r : ProbeRun) : Plain 100 r.workload := by
  have hsolid : Solid ("bf16_gemm_".toList ++ natText r.matrixN ++ "_tflops_per_w".toList) := by
    refine solid_append.2 ⟨solid_append.2 ⟨by decide, solid_digits fun _ hc => natText_digit hc⟩, by decide⟩
  rw [ProbeRun.workload, workloadText, intText_natCast, safeStrncpy]
  refine plain_of_solid (fun c hc => hsolid c (List.mem_of_mem_take hc)) ?_
  rw [List.length_take]
  omega

/-! ## What is read -/

theorem serial_kept (r : ProbeRun) : safeStrncpy r.serial 32 = r.serial := List.take_of_length_le r.serial_plain.length

theorem workload_kept (r : ProbeRun) : safeStrncpy r.workload 128 = r.workload :=
  List.take_of_length_le ((workload_plain r).length.trans (by norm_num))

theorem time_read (K : Type) (r : ProbeRun) :
    isoTime K (iso8601 r.time) = some (.time (parseIso8601 (iso8601 r.time))) := by
  rw [isoTime, if_neg]
  intro hzero
  have htime := parseIso8601_iso8601 r.time_range.2
  rw [hzero] at htime
  exact absurd htime.symm (Nat.one_le_iff_ne_zero.1 r.time_range.1)

theorem mean_nonneg (r : ProbeRun) : 0 ≤ r.perfWMean := le_trans (by norm_num) r.mean_range.1

theorem mean_read (K : Type) [Arith K] (r : ProbeRun) :
    (parseDouble (fixedText 6 r.perfWMean) 0 (10 ^ 9)).map (fun v => StateValue.num v.ofRat) =
      some (.num (r.mean K)) := by
  rw [parseDouble_fixedText (n := 10 ^ 9) (by norm_num) (by norm_num) (mean_nonneg r) r.mean_range.2 (by norm_num)
    (by norm_num)]
  rfl

theorem count_read (r : ProbeRun) {min : ℤ} (hmin : min ≤ 5) :
    parseInt (natText r.sampleCount) min 1000000 = some (r.sampleCount : ℤ) := by
  obtain ⟨hfive, hmost⟩ := r.sample_range
  exact parseInt_natText (by omega) (by omega) (by omega)

theorem count_plain (r : ProbeRun) : Plain 400 (natText r.sampleCount) :=
  (natText_plain (w := 4) (by norm_num) (by have := r.sample_range.2; omega)).mono (by norm_num)

theorem mean_plain (r : ProbeRun) : Plain 400 (fixedText 6 r.perfWMean) :=
  (fixedText_plain (w := 10) (b := 10 ^ 9) (by norm_num) (by norm_num) (mean_nonneg r)
    (by push_cast; exact r.mean_range.2) (by norm_num)).mono (by norm_num)

/-- a header and lines "key=value" are read as the keys with their values -/
theorem settings_written {κ : Type} {name : κ → CStr} {setting : CStr → Option (κ × CStr)}
    (hname : ∀ k, KeyText (name k)) (hset : ∀ line k t, splitKv line = some (name k, t) → setting line = some (k, t))
    {header : CStr} (hheader : WholeLine 512 header) (hnone : setting header = none) {l : List (κ × CStr)}
    (hl : ∀ s ∈ l, Plain 400 s.2) :
    (fgetsLines 512 (header :: l.map fun s => keyLine (name s.1) s.2).flatten).filterMap setting = l := by
  have hwhole : ∀ line ∈ header :: l.map (fun s => keyLine (name s.1) s.2), WholeLine 512 line := by
    intro line hline
    rcases List.mem_cons.1 hline with rfl | hmem
    · exact hheader
    · obtain ⟨s, hs, rfl⟩ := List.mem_map.1 hmem
      exact keyLine_whole (hname s.1) (hl s hs)
  rw [fgetsLines_flatten hwhole, List.filterMap_cons_none hnone, List.filterMap_map]
  calc l.filterMap (setting ∘ fun s => keyLine (name s.1) s.2)
      = l.filterMap some := List.filterMap_congr fun s hs => hset _ _ _ (splitKv_written (hname s.1) (hl s hs))
    _ = l := List.filterMap_some

/-! ## The probe file -/

def ProbeRun.probeTexts (r : ProbeRun) : List (ProbeKey × CStr) :=
  [ (.serial, r.serial),
    (.probeTimestamp, iso8601 r.time),
    (.probeDurationS, fixedText 3 r.durationS),
    (.perfWMean, fixedText 6 r.perfWMean),
    (.workload, r.workload),
    (.sampleCount, natText r.sampleCount),
    (.probeExitCode, "0".toList) ]

theorem probeFile_settings (r : ProbeRun) : probeSettings (fgetsLines 512 r.probeFile) = r.probeTexts := by
  have hlines : r.probeFile = ("# Written by gpu_health_probe 0.1.0\n".toList ::
      r.probeTexts.map fun s => keyLine (probeName s.1) s.2).flatten := by
    simp only [ProbeRun.probeFile, writeProbeFile, probeFileLines, intText_natCast, printF]
    rfl
  have hplain : ∀ s ∈ r.probeTexts, Plain 400 s.2 := by
    simp only [ProbeRun.probeTexts, List.forall_mem_cons, List.not_mem_nil, false_implies, implies_true, and_true]
    exact ⟨r.serial_plain.mono (by norm_num), (iso8601_plain r.time_range.2).mono (by norm_num),
      (fixedText_plain (w := 5) (b := 86400) (by norm_num) (by norm_num) r.duration_range.1
        (by push_cast; exact r.duration_range.2) (by norm_num)).mono (by norm_num),
      mean_plain r, (workload_plain r).mono (by norm_num), count_plain r,
      plain_of_solid (by decide) (by decide)⟩
  rw [hlines]
  exact settings_written probeName_keyText (fun _ _ _ h => probeSetting_eq_some.2 h)
    ⟨by decide, by decide, by decide, by decide⟩ (by decide) hplain

/-- the value of every text -/
def ProbeRun.probeValue (K : Type) [Arith K] (r : ProbeRun) : ProbeKey → StateValue K
  | .serial => .str r.serial
  | .perfWMean => .num (r.mean K)
  | .probeTimestamp => .time (parseIso8601 (iso8601 r.time))
  | .probeExitCode => .int 0
  | .workload => .str r.workload
  | .sampleCount => .int r.sampleCount
  | .probeDurationS => .num (.fin (roundDecimals 3 r.durationS : ℚ))

theorem probeTexts_read (K : Type) [Arith K] (r : ProbeRun) :
    ∀ s ∈ r.probeTexts, (probeRules K).conv s.1 s.2 = some (r.probeValue K s.1) := by
  simp only [ProbeRun.probeTexts, List.forall_mem_cons, List.not_mem_nil, false_implies, implies_true, and_true]
  refine ⟨?_, time_read K r, ?_, mean_read K r, ?_, ?_, rfl⟩
  · exact congrArg (some ∘ StateValue.str) (serial_kept r)
  · change (parseDouble (fixedText 3 r.durationS) 0 86400).map _ = _
    rw [parseDouble_fixedText (n := 86400) (by norm_num) (by norm_num) r.duration_range.1 r.duration_range.2
      (by norm_num) (by norm_num)]
    rfl
  · exact congrArg (some ∘ StateValue.str) (workload_kept r)
  · change (parseInt (natText r.sampleCount) 0 1000000).map _ = _
    rw [count_read r (by norm_num)]
    rfl

theorem probeTexts_keys (r : ProbeRun) : r.probeTexts.map Prod.fst =
    [.serial, .probeTimestamp, .probeDurationS, .perfWMean, .workload, .sampleCount, .probeExitCode] := rfl

/-- every key is written -/
theorem exists_probeText (r : ProbeRun) (k : ProbeKey) : ∃ s ∈ r.probeTexts, s.1 = k := by
  have hmem : k ∈ r.probeTexts.map Prod.fst := by
    rw [probeTexts_keys]
    cases k <;> decide
  exact List.mem_map.1 hmem

theorem probe_agrees (r : ProbeRun) (ttl : ℤ) (now : UInt64) :
    ProbeAgrees r (probeLoad (some r.probeFile) ttl now : GpuProbeResult K) := by
  have hreads := probeScan_reads (K := K) r.probeFile
  rw [probeFile_settings] at hreads
  have hconv := probeTexts_read K r
  obtain ⟨hclean, hstored, -⟩ := hreads.once (by rw [probeTexts_keys]; decide) fun s hs => by
    rw [hconv s hs]
    exact Option.some_ne_none _
  have hfield : ∀ k, probeField (probeLoad (some r.probeFile) ttl now : GpuProbeResult K) k = r.probeValue K k := by
    intro k
    obtain ⟨s, hs, rfl⟩ := exists_probeText r k
    rw [probeLoad_field]
    exact Option.some.inj ((hstored s.1 s.2 hs).symm.trans (hconv s hs))
  have haccepted : (probeScan r.probeFile : ProbeScan K).accepted = true := by
    rw [probeAccepted_iff, probeFile_settings]
    exact ⟨hclean, fun k _ => exists_probeText r k⟩
  refine ⟨?_, StateValue.str.inj (hfield .serial), StateValue.str.inj (hfield .workload),
    StateValue.int.inj (hfield .sampleCount), StateValue.int.inj (hfield .probeExitCode), ?_,
    StateValue.num.inj (hfield .perfWMean), StateValue.num.inj (hfield .probeDurationS)⟩
  · rw [probeLoad_eq, if_pos haccepted]
  · rw [StateValue.time.inj (hfield .probeTimestamp)]
    exact parseIso8601_iso8601 r.time_range.2

/-! ## The baseline file -/

def ProbeRun.baselineTexts (r : ProbeRun) : List (BaselineKey × CStr) :=
  [(BaselineKey.serial, r.serial)] ++ (if r.uuid = [] then [] else [(BaselineKey.uuid, r.uuid)]) ++
  (if r.driverVersion = [] then [] else [(BaselineKey.driverVersion, r.driverVersion)]) ++
  [ (BaselineKey.perfWMean, fixedText 6 r.perfWMean),
    (BaselineKey.establishedAt, iso8601 r.time),
    (BaselineKey.workload, r.workload),
    (BaselineKey.sampleCount, natText r.sampleCount) ]

theorem baselineFile_settings (r : ProbeRun) :
    baselineSettings (fgetsLines 512 r.baselineFile) = r.baselineTexts := by
  have hlines : r.baselineFile = ("# Written by gpu_health_probe 0.1.0 --establish-baseline\n".toList ::
      r.baselineTexts.map fun s => keyLine (baselineName s.1) s.2).flatten := by
    simp only [ProbeRun.baselineFile, writeBaselineFile, baselineFileLines, ProbeRun.baselineTexts, intText_natCast,
      printF]
    split_ifs <;> rfl
  have hplain : ∀ s ∈ r.baselineTexts, Plain 400 s.2 := by
    have huuid : ∀ s ∈ if r.uuid = [] then [] else [(BaselineKey.uuid, r.uuid)], Plain 400 s.2 := by
      split_ifs
      · simp
      · simpa using r.uuid_plain.mono (by norm_num)
    have hdriver : ∀ s ∈ if r.driverVersion = [] then [] else [(BaselineKey.driverVersion, r.driverVersion)],
        Plain 400 s.2 := by
      split_ifs
      · simp
      · simpa using r.driver_plain.mono (by norm_num)
    simp only [ProbeRun.baselineTexts, List.forall_mem_append, List.forall_mem_cons, List.not_mem_nil, false_implies,
      implies_true, and_true]
    exact ⟨⟨⟨r.serial_plain.mono (by norm_num), huuid⟩, hdriver⟩, mean_plain r,
      (iso8601_plain r.time_range.2).mono (by norm_num), (workload_plain r).mono (by norm_num), count_plain r⟩
  rw [hlines]
  exact settings_written baselineName_keyText (fun _ _ _ h => baselineSetting_eq_some.2 h)
    ⟨by decide, by decide, by decide, by decide⟩ (by decide) hplain

def ProbeRun.baselineValue (K : Type) [Arith K] (r : ProbeRun) : BaselineKey → StateValue K
  | .serial => .str r.serial
  | .uuid => .str r.uuid
  | .driverVersion => .str r.driverVersion
  | .perfWMean => .num (r.mean K)
  | .establishedAt => .time (parseIso8601 (iso8601 r.time))
  | .workload => .str r.workload
  | .sampleCount => .int r.sampleCount

theorem baselineTexts_read (K : Type) [Arith K] (r : ProbeRun) :
    ∀ s ∈ r.baselineTexts, (baselineRules K).conv s.1 s.2 = some (r.baselineValue K s.1) := by
  have huuid : ∀ s ∈ if r.uuid = [] then [] else [(BaselineKey.uuid, r.uuid)],
      (baselineRules K).conv s.1 s.2 = some (r.baselineValue K s.1) := by
    intro s hs
    split_ifs at hs
    · cases hs
    · obtain rfl := List.mem_singleton.1 hs
      exact congrArg (some ∘ StateValue.str) (List.take_of_length_le r.uuid_plain.length)
  have hdriver : ∀ s ∈ if r.driverVersion = [] then [] else [(BaselineKey.driverVersion, r.driverVersion)],
      (baselineRules K).conv s.1 s.2 = some (r.baselineValue K s.1) := by
    intro s hs
    split_ifs at hs
    · cases hs
    · obtain rfl := List.mem_singleton.1 hs
      exact congrArg (some ∘ StateValue.str) (List.take_of_length_le r.driver_plain.length)
  simp only [ProbeRun.baselineTexts, List.forall_mem_append, List.forall_mem_cons, List.not_mem_nil, false_implies,
    implies_true, and_true]
  refine ⟨⟨⟨?_, huuid⟩, hdriver⟩, mean_read K r, time_read K r, ?_, ?_⟩
  · exact congrArg (some ∘ StateValue.str) (serial_kept r)
  · exact congrArg (some ∘ StateValue.str) (workload_kept r)
  · change (parseInt (natText r.sampleCount) 1 1000000).map _ = _
    rw [count_read r (by norm_num)]
    rfl

/-- the keys written: all but those of an empty uuid or driver version -/
theorem baselineTexts_keys (r : ProbeRun) :
    (r.baselineTexts.map Prod.fst).Nodup ∧
      ∀ k, k ∉ r.baselineTexts.map Prod.fst → r.baselineValue K k = .str [] ∧ (k = .uuid ∨ k = .driverVersion) := by
  unfold ProbeRun.baselineTexts
  split_ifs with huuid hdriver hdriver
  all_goals
    refine ⟨by simp, ?_⟩
    intro k hk
    cases k <;> simp_all [ProbeRun.baselineValue]

theorem exists_baselineText (r : ProbeRun) {k : BaselineKey} (hk : k.required = true) :
    ∃ s ∈ r.baselineTexts, s.1 = k := by
  by_contra habsent
  have hkey : k ∉ r.baselineTexts.map Prod.fst := mt List.mem_map.1 habsent
  rcases ((baselineTexts_keys (K := ℚ) r).2 k hkey).2 with rfl | rfl
  · cases hk
  · cases hk

theorem baseline_agrees (r : ProbeRun) :
    BaselineAgrees r (baselineLoad (some r.baselineFile) r.serial : GpuBaseline K) := by
  have hreads := baselineScan_reads (K := K) r.baselineFile
  rw [baselineFile_settings] at hreads
  have hconv := baselineTexts_read K r
  obtain ⟨hnodup, habsent⟩ := baselineTexts_keys (K := K) r
  obtain ⟨hclean, hstored, hstays⟩ := hreads.once hnodup fun s hs => by
    rw [hconv s hs]
    exact Option.some_ne_none _
  have hscan : ∀ k, baselineField (baselineScan r.baselineFile : BaselineScan K).out k = r.baselineValue K k := by
    intro k
    by_cases hk : k ∈ r.baselineTexts.map Prod.fst
    · obtain ⟨s, hs, rfl⟩ := List.mem_map.1 hk
      exact Option.some.inj ((hstored s.1 s.2 hs).symm.trans (hconv s hs))
    · obtain ⟨hvalue, hkey⟩ := habsent k hk
      have hzero := hstays k hk
      rw [hvalue]
      rcases hkey with rfl | rfl
      · exact hzero
      · exact hzero
  have haccepted : (baselineScan r.baselineFile : BaselineScan K).accepted r.serial := by
    obtain ⟨herr, hseen⟩ := (baselineComplete_iff (K := K) r.baselineFile).2 (by
      rw [baselineFile_settings]
      exact ⟨hclean, fun k hk => exists_baselineText r hk⟩)
    refine ⟨herr, hseen, StateValue.str.inj (hscan .serial), ?_⟩
    rw [StateValue.num.inj (hscan .perfWMean), ProbeRun.mean, Dbl.fin_le_fin, not_le, Rat.cast_pos]
    exact roundDecimals_pos r.mean_range.1
  have hload := baselineLoad_accepted haccepted
  have hfield : ∀ k, baselineField (baselineLoad (some r.baselineFile) r.serial : GpuBaseline K) k =
      r.baselineValue K k := fun k => (baselineLoad_field _ _ k).trans (hscan k)
  refine ⟨?_, ?_, ?_, StateValue.str.inj (hfield .serial), StateValue.str.inj (hfield .uuid),
    StateValue.str.inj (hfield .driverVersion), StateValue.str.inj (hfield .workload),
    StateValue.int.inj (hfield .sampleCount), ?_, StateValue.num.inj (hfield .perfWMean)⟩
  · rw [hload]
    exact (baselineScan_kept _).available
  · rw [hload]
  · rw [hload]
    exact baselineScan_serialMismatch _
  · rw [StateValue.time.inj (hfield .establishedAt)]
    exact parseIso8601_iso8601 r.time_range.2

/-! ## The round trip -/

/-- **The writer and the reader agree.** -/
theorem probe_round_trip (r : ProbeRun) (ttl : ℤ) (now : UInt64) :
    ProbeAgrees r (probeLoad (some r.probeFile) ttl now : GpuProbeResult K) ∧
      BaselineAgrees r (baselineLoad (some r.baselineFile) r.serial : GpuBaseline K) :=
  ⟨probe_agrees r ttl now, baseline_agrees r⟩

/-- a run with a serial that looks like a setting -/
def sampleRun : ProbeRun where
  serial := "#serial=1".toList
  uuid := []
  driverVersion := "550.54.15".toList
  time := 1773584520
  matrixN := 8192
  sampleCount := 300
  durationS := 2400001 / 8000
  perfWMean := 1234567891 / 1000000000
  serial_plain := ⟨by decide, by decide, by decide, by decide⟩
  uuid_plain := ⟨by decide, by decide, by decide, by decide⟩
  driver_plain := ⟨by decide, by decide, by decide, by decide⟩
  time_range := by decide
  matrix_range := by decide
  sample_range := by decide
  duration_range := by norm_num
  mean_range := by norm_num

theorem probe_round_trip_sample :
    ProbeAgrees sampleRun (probeLoad (some sampleRun.probeFile) 0 0 : GpuProbeResult ℚ) ∧
      BaselineAgrees sampleRun (baselineLoad (some sampleRun.baselineFile) "#serial=1".toList : GpuBaseline ℚ) :=
  probe_round_trip sampleRun 0 0

end GpuHealth.ProbeRoundTrip
