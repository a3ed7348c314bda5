/-
Baseline and probe files (`src/state.c`).

A file is its content at the time of the call, none if it cannot be opened. The two loaders read line by line into a
scan record: the result so far, the required fields seen, and the parse error that ends the loop (a line after the
error is read but not looked at). `probeLoad` takes the wall-clock time of its TTL check.

`parse_iso8601` is glibc's `strptime` on the fixed format followed by `timegm`; 0 stands for failure.

`probeLoad_eq` splits the loader into what the file alone decides (`probeScan`, `ProbeScan.accepted`) and what the
clock decides (`probeExpired`). `baselineLoad_accepted` and `baselineLoad_rejected` do the same for a baseline, which
the file and the device's serial decide (`BaselineScan.accepted`).
-/
import GpuHealth.CText

namespace GpuHealth.State

open GpuHealth.CText

/-! ## Timestamps -/

/-- glibc's `get_number(min, max, n)`: blanks, then one to `n` digits -/
def getNumber (min max n : ℕ) (s : CStr) : Option (ℕ × CStr) :=
  let s := s.dropWhile isspace
  match s with
  | [] => none
  | c :: rest =>
    match digitOf 10 c with
    | none => none
    | some d =>
      let (val, rest) := more (n - 1) d rest
      if val < min ∨ val > max then none else some (val, rest)
where
  more : ℕ → ℕ → CStr → ℕ × CStr
    | 0, val, s => (val, s)
    | _, val, [] => (val, [])
    | n + 1, val, c :: s =>
      match digitOf 10 c with
      | some d => if val * 10 ≤ max then more n (val * 10 + d) s else (val, c :: s)
      | none => (val, c :: s)

def matchChar (c : Char) : CStr → Option CStr
  | d :: s => if d = c then some s else none
  | [] => none

structure Tm where
  year : ℕ
  mon : ℕ
  mday : ℕ
  hour : ℕ
  min : ℕ
  sec : ℕ
deriving DecidableEq, Repr

/-- `strptime(s, "%Y-%m-%dT%H:%M:%SZ", &tm)`, nothing left behind the 'Z' -/
def strptimeIso (s : CStr) : Option Tm := do
  let (year, s) ← getNumber 0 9999 4 s
  let s ← matchChar '-' s
  let (mon, s) ← getNumber 1 12 2 s
  let s ← matchChar '-' s
  let (mday, s) ← getNumber 1 31 2 s
  let s ← matchChar 'T' s
  let (hour, s) ← getNumber 0 23 2 s
  let s ← matchChar ':' s
  let (min, s) ← getNumber 0 59 2 s
  let s ← matchChar ':' s
  let (sec, s) ← getNumber 0 61 2 s
  let s ← matchChar 'Z' s
  if s = [] then some ⟨year, mon, mday, hour, min, sec⟩ else none

/-- leap years among the years up to `y` -/
def leapYears (y : ℤ) : ℤ := y / 4 - y / 100 + y / 400

def isLeap (y : ℕ) : Bool := y % 4 = 0 ∧ (y % 100 ≠ 0 ∨ y % 400 = 0)

/-- days of the year before month `mon` -/
def daysBefore (year mon : ℕ) : ℕ :=
  [0, 31, 59, 90, 120, 151, 181, 212, 243, 273, 304, 334].getD (mon - 1) 0 + if isLeap year ∧ 2 < mon then 1 else 0

/-- seconds since the epoch -/
def timegm (tm : Tm) : ℤ :=
  let days := 365 * ((tm.year : ℤ) - 1970) + (leapYears (tm.year - 1) - leapYears 1969) +
    daysBefore tm.year tm.mon + (tm.mday - 1)
  ((days * 24 + tm.hour) * 60 + tm.min) * 60 + tm.sec

def parseIso8601 (s : CStr) : UInt64 :=
  match strptimeIso s with
  | none => 0
  | some tm => if timegm tm = -1 then 0 else UInt64.ofInt (timegm tm)

example : parseIso8601 "2026-03-15T14:22:00Z".toList = 1773584520 := by decide +kernel

/-! ## Baseline -/

variable {K : Type} [Arith K]

structure BaselineScan (K : Type) where
  out : GpuBaseline K
  hasSerial : Bool
  hasPerfW : Bool
  hasEstablished : Bool
  hasWorkload : Bool
  hasSampleCount : Bool
  parseError : Bool
deriving DecidableEq, Repr

def baselineLine (s : BaselineScan K) (line : CStr) : BaselineScan K :=
  if s.parseError then s
  else
    match splitKv line with
    | none => s
    | some (key, val) =>
      if key = "serial".toList then
        { s with out := { s.out with serial := safeStrncpy val 32 }, hasSerial := true }
      else if key = "uuid".toList then
        { s with out := { s.out with uuid := safeStrncpy val 48 } }
      else if key = "driver_version".toList then
        { s with out := { s.out with driverVersion := safeStrncpy val 64 } }
      else if key = "perf_w_mean".toList then
        match parseDouble val 0 (10 ^ 9) with
        | none => { s with parseError := true }
        | some v => { s with out := { s.out with perfWMean := v.ofRat }, hasPerfW := true }
      else if key = "established_at".toList then
        let t := parseIso8601 val
        if t = 0 then { s with out := { s.out with establishedAtS := t }, parseError := true }
        else { s with out := { s.out with establishedAtS := t }, hasEstablished := true }
      else if key = "workload".toList then
        { s with out := { s.out with workload := safeStrncpy val 128 }, hasWorkload := true }
      else if key = "sample_count".toList then
        match parseInt val 1 1000000 with
        | none => { s with parseError := true }
        | some v => { s with out := { s.out with sampleCount := v }, hasSampleCount := true }
      else s

def baselineScan (file : CStr) : BaselineScan K :=
  (fgetsLines 512 file).foldl baselineLine
    ⟨{ GpuBaseline.zeroed with available := 1 }, false, false, false, false, false, false⟩

def baselineLoad (file : Option CStr) (serial : CStr) : GpuBaseline K :=
  match file with
  | none => .zeroed
  | some file =>
    let s : BaselineScan K := baselineScan file
    if s.parseError then { s.out with valid := 0 }
    else if ¬ (s.hasSerial ∧ s.hasPerfW ∧ s.hasEstablished ∧ s.hasWorkload ∧ s.hasSampleCount) then
      { s.out with valid := 0 }
    else if s.out.serial ≠ serial then { s.out with serialMismatch := 1, valid := 0 }
    else if s.out.perfWMean ≤ .fin 0 then { s.out with valid := 0 }
    else { s.out with valid := 1 }

/-- an accepted number of a file is no infinity -/
theorem parseDouble_noInf {s : CStr} {min max : ℚ} {v : Dbl ℚ} (h : parseDouble s min max = some v) :
    Dbl.NoInf (v.ofRat : Dbl K) := by
  rcases parseDouble_range h with rfl | ⟨x, rfl, -, -⟩
  · exact Or.inl rfl
  · exact Or.inr ⟨(x : K), rfl⟩

/-- what a scan keeps: the flag as `baseline_load` set it, and a mean that is no infinity -/
structure BaselineScan.Kept (s : BaselineScan K) : Prop where
  available : s.out.available = 1
  mean : s.out.perfWMean.NoInf

theorem baselineLine_kept {s : BaselineScan K} (h : s.Kept) (line : CStr) : (baselineLine s line).Kept := by
  have hmean := h.mean
  unfold baselineLine
  refine iteInduction (motive := BaselineScan.Kept) (fun _ => h) fun _ => ?_
  cases splitKv line with
  | none => exact h
  | some kv =>
    dsimp only
    -- serial, uuid and driver_version come before the mean
    refine iteInduction (motive := BaselineScan.Kept) (fun _ => ⟨h.available, hmean⟩) fun _ => ?_
    refine iteInduction (motive := BaselineScan.Kept) (fun _ => ⟨h.available, hmean⟩) fun _ => ?_
    refine iteInduction (motive := BaselineScan.Kept) (fun _ => ⟨h.available, hmean⟩) fun _ => ?_
    refine iteInduction (motive := BaselineScan.Kept) (fun _ => ?_) fun _ => ?_
    · cases hv : parseDouble kv.2 0 (10 ^ 9) with
      | none => exact ⟨h.available, hmean⟩
      | some v => exact ⟨h.available, parseDouble_noInf hv⟩
    repeat'
      first
      | refine iteInduction (motive := BaselineScan.Kept) (fun _ => ?_) fun _ => ?_
      | split
    all_goals exact ⟨h.available, hmean⟩

theorem baselineScan_kept (file : CStr) : (baselineScan file : BaselineScan K).Kept := by
  unfold baselineScan
  refine List.foldlRecOn _ baselineLine ⟨rfl, Or.inr ⟨0, rfl⟩⟩ ?_
  intro s hs line _
  exact baselineLine_kept hs line

theorem baselineLoad_noInf (file : Option CStr) (serial : CStr) :
    (baselineLoad file serial : GpuBaseline K).perfWMean.NoInf := by
  cases file with
  | none => exact Or.inr ⟨0, rfl⟩
  | some file =>
    have hscan := (baselineScan_kept (K := K) file).mean
    unfold baselineLoad
    dsimp only
    split_ifs <;> exact hscan

/-- no parse error, every required field seen, the device's serial, and no mean up to 0 -/
def BaselineScan.accepted (s : BaselineScan K) (serial : CStr) : Prop :=
  s.parseError = false ∧ (s.hasSerial ∧ s.hasPerfW ∧ s.hasEstablished ∧ s.hasWorkload ∧ s.hasSampleCount) ∧
    s.out.serial = serial ∧ ¬ s.out.perfWMean ≤ .fin 0

instance (s : BaselineScan K) (serial : CStr) : Decidable (s.accepted serial) := inferInstanceAs (Decidable (_ ∧ _))

/-- an accepted file is a valid baseline -/
theorem baselineLoad_accepted {file serial : CStr} (h : (baselineScan file : BaselineScan K).accepted serial) :
    (baselineLoad (some file) serial : GpuBaseline K) = { (baselineScan file : BaselineScan K).out with valid := 1 } := by
  obtain ⟨herr, hfields, hserial, hmean⟩ := h
  simp only [baselineLoad, herr, if_neg (not_not.2 hfields), if_neg (not_not.2 hserial), if_neg hmean]
  simp

theorem baselineLoad_rejected {file serial : CStr} (h : ¬ (baselineScan file : BaselineScan K).accepted serial) :
    (baselineLoad (some file) serial : GpuBaseline K).valid = 0 := by
  unfold baselineLoad
  dsimp only
  split_ifs with herr hfields hserial hmean
  · rfl
  · rfl
  · rfl
  · exact absurd ⟨by simpa using herr, hfields, not_not.1 hserial, hmean⟩ h
  · rfl

/-! ## Probe result -/

structure ProbeScan (K : Type) where
  out : GpuProbeResult K
  hasSerial : Bool
  hasPerfW : Bool
  hasTimestamp : Bool
  hasExitCode : Bool
  parseError : Bool
deriving DecidableEq, Repr

def probeLine (s : ProbeScan K) (line : CStr) : ProbeScan K :=
  if s.parseError then s
  else
    match splitKv line with
    | none => s
    | some (key, val) =>
      if key = "serial".toList then
        { s with out := { s.out with serial := safeStrncpy val 32 }, hasSerial := true }
      else if key = "perf_w_mean".toList then
        match parseDouble val 0 (10 ^ 9) with
        | none => { s with parseError := true }
        | some v => { s with out := { s.out with perfWMean := v.ofRat }, hasPerfW := true }
      else if key = "probe_timestamp".toList then
        let t := parseIso8601 val
        if t = 0 then { s with out := { s.out with probeTimestampS := t }, parseError := true }
        else { s with out := { s.out with probeTimestampS := t }, hasTimestamp := true }
      else if key = "probe_exit_code".toList then
        match parseInt val (-1000) 1000 with
        | none => { s with parseError := true }
        | some v => { s with out := { s.out with probeExitCode := v }, hasExitCode := true }
      else if key = "workload".toList then
        { s with out := { s.out with workload := safeStrncpy val 128 } }
      else if key = "sample_count".toList then
        match parseInt val 0 1000000 with
        | none => s
        | some v => { s with out := { s.out with sampleCount := v } }
      else if key = "probe_duration_s".toList then
        match parseDouble val 0 86400 with
        | none => s
        | some v => { s with out := { s.out with probeDurationS := v.ofRat } }
      else s

def probeScan (file : CStr) : ProbeScan K :=
  (fgetsLines 512 file).foldl probeLine
    ⟨{ GpuProbeResult.zeroed with available := 1 }, false, false, false, false, false⟩

/-- no parse error, and every required field seen -/
def ProbeScan.accepted (s : ProbeScan K) : Bool :=
  !s.parseError && (s.hasSerial && s.hasPerfW && s.hasTimestamp && s.hasExitCode)

/-- the TTL check -/
def probeExpired (probeTtlS : ℤ) (now timestamp : UInt64) : Bool :=
  now > timestamp ∧ now - timestamp > UInt64.ofInt probeTtlS

def probeLoad (file : Option CStr) (probeTtlS : ℤ) (now : UInt64) : GpuProbeResult K :=
  match file with
  | none => .zeroed
  | some file =>
    let s : ProbeScan K := probeScan file
    if s.parseError then { s.out with available := 0 }
    else if ¬ (s.hasSerial ∧ s.hasPerfW ∧ s.hasTimestamp ∧ s.hasExitCode) then { s.out with available := 0 }
    else if probeExpired probeTtlS now s.out.probeTimestampS then { s.out with stale := 1 }
    else s.out

/-- what a scan keeps: the flags as `probe_load` set them, and a mean that is no infinity -/
structure ProbeScan.Kept (s : ProbeScan K) : Prop where
  available : s.out.available = 1
  stale : s.out.stale = 0
  mean : s.out.perfWMean.NoInf

theorem probeLine_kept {s : ProbeScan K} (h : s.Kept) (line : CStr) : (probeLine s line).Kept := by
  have hmean := h.mean
  unfold probeLine
  refine iteInduction (motive := ProbeScan.Kept) (fun _ => h) fun _ => ?_
  cases splitKv line with
  | none => exact h
  | some kv =>
    dsimp only
    -- only the line of the mean touches one of the three fields
    refine iteInduction (motive := ProbeScan.Kept) (fun _ => ⟨h.available, h.stale, hmean⟩) fun _ => ?_
    refine iteInduction (motive := ProbeScan.Kept) (fun _ => ?_) fun _ => ?_
    · cases hv : parseDouble kv.2 0 (10 ^ 9) with
      | none => exact ⟨h.available, h.stale, hmean⟩
      | some v => exact ⟨h.available, h.stale, parseDouble_noInf hv⟩
    repeat'
      first
      | refine iteInduction (motive := ProbeScan.Kept) (fun _ => ?_) fun _ => ?_
      | split
    all_goals exact ⟨h.available, h.stale, hmean⟩

theorem probeScan_kept (file : CStr) : (probeScan file : ProbeScan K).Kept := by
  unfold probeScan
  refine List.foldlRecOn _ probeLine ⟨rfl, rfl, Or.inr ⟨0, rfl⟩⟩ ?_
  intro s hs line _
  exact probeLine_kept hs line

/-- **What the file decides and what the clock decides.** -/
theorem probeLoad_eq (file : CStr) (ttl : ℤ) (now : UInt64) :
    (probeLoad (some file) ttl now : GpuProbeResult K) =
      if (probeScan file : ProbeScan K).accepted then
        { (probeScan file : ProbeScan K).out with
          available := 1
          stale := if probeExpired ttl now (probeScan file : ProbeScan K).out.probeTimestampS then 1 else 0 }
      else { (probeScan file : ProbeScan K).out with available := 0 } := by
  obtain ⟨hav, hst, -⟩ := probeScan_kept (K := K) file
  simp only [probeLoad, ProbeScan.accepted]
  set s : ProbeScan K := probeScan file with hs
  clear_value s
  obtain ⟨out, b1, b2, b3, b4, b5⟩ := s
  obtain ⟨av, st, _, _, _, _, _, _, _⟩ := out
  simp only at hav hst
  subst hav hst
  cases b5 <;> cases b1 <;> cases b2 <;> cases b3 <;> cases b4 <;> simp
  split_ifs <;> rfl

end GpuHealth.State
