/-
Which probe results are scored against which baselines.

The property (`ComparableIfScored`): when loading a baseline file and a probe file for a device yields a numeric
perf_drop_frac, the last serial line of the probe file names the device, its last probe_exit_code is 0 and its last
workload line is the baseline file's (`Comparable`). `baseline_load` rejects a file that names another serial;
`probe_load` only stores the serial, the exit code and the workload, and `score_gpu` reads none of them.

- `foreign_probe_scored`: the failed run of another device on another workload, scored as a drop of one half.
- `comparable_iff`: it holds of two files exactly when they are not a misfit that is scored (`MisfitScored`):
  the gate passes, both files are accepted with positive means, the result has not expired, and the stored serial, exit
  code or workload speaks against it, or a text that was cut when it was stored: a serial behind 31 characters, a
  workload behind 127.
Witness `comparable_own`: a device's own successful run.
-/
import GpuHealth.Scenarios.ProbeFreshness
import GpuHealth.Scenarios.PenaltyTable
import GpuHealth.StateText

namespace GpuHealth.ComparableProbe

open GpuHealth.CText GpuHealth.Ring GpuHealth.Scorer GpuHealth.State GpuHealth.StateText GpuHealth.Settings
open GpuHealth.ProbeFreshness

variable {K : Type} [Arith K]

/-! ## The property -/

/-- the two files and the device they are loaded for -/
structure Files where
  baseline : Option CStr
  probe : Option CStr
  serial : CStr
  probeTtlS : ℤ
  nowS : UInt64

def Files.loadBaseline (f : Files) : GpuBaseline K := baselineLoad f.baseline f.serial
def Files.loadProbe (f : Files) : GpuProbeResult K := probeLoad f.probe f.probeTtlS f.nowS

/-- the text of the last line with the key -/
def Files.baselineText (f : Files) (k : BaselineKey) : Option CStr :=
  f.baseline.bind fun file => lastText (baselineSettings (fgetsLines 512 file)) k
def Files.probeText (f : Files) (k : ProbeKey) : Option CStr :=
  f.probe.bind fun file => lastText (probeSettings (fgetsLines 512 file)) k

/-- a file without a workload line names the empty workload -/
structure Comparable (f : Files) : Prop where
  serial : f.probeText .serial = some f.serial
  exitCode : (f.probeText .probeExitCode).bind (fun t => parseInt t (-1000) 1000) = some 0
  workload : (f.probeText .workload).getD [] = (f.baselineText .workload).getD []

def ComparableIfScored (malloc : P95Malloc) (ring : GpuRing K) (state : GpuState K) (cfg : GpuConfig (Dbl K))
    (f : Files) : Prop :=
  (scoreGpu malloc ring state (some f.loadBaseline) (some f.loadProbe) cfg).perfDropFrac ≠ .nan → Comparable f

/-! ## The condition -/

/-- the content of a baseline file accepted for the device -/
def baselineReading (file : Option CStr) (serial : CStr) : Option (GpuBaseline K) :=
  file.bind fun f => if (baselineScan f : BaselineScan K).accepted serial then some (baselineScan f).out else none

/-- both files are accepted, with positive means, and the probe result has not expired -/
structure UsablePair (f : Files) (b : GpuBaseline K) (p : GpuProbeResult K) : Prop where
  baseline : baselineReading f.baseline f.serial = some b
  probe : reading f.probe = some p
  baselineMean : .fin 0 < b.perfWMean
  probeMean : .fin 0 < p.perfWMean
  current : probeExpired f.probeTtlS f.nowS p.probeTimestampS = false

/-- the probe file's serial is longer than it is stored, and begins with the device's -/
def CutSerial (f : Files) : Prop := ∃ t, f.probeText .serial = some t ∧ 31 < t.length ∧ t.take 31 = f.serial

/-- two workloads that are the same as far as they are stored -/
def CutWorkload (f : Files) : Prop :=
  (f.probeText .workload).getD [] ≠ (f.baselineText .workload).getD [] ∧
    ((f.probeText .workload).getD []).take 127 = ((f.baselineText .workload).getD []).take 127

/-- the gate lets through a usable pair of which a stored fact, or what was cut from one, says that it does not belong
together -/
def MisfitScored (ring : GpuRing K) (cfg : GpuConfig (Dbl K)) (f : Files) : Prop :=
  completenessGate ring cfg ≠ 0 ∧ ∃ (b : GpuBaseline K) (p : GpuProbeResult K), UsablePair f b p ∧
    (p.serial ≠ f.serial ∨ CutSerial f ∨ p.probeExitCode ≠ 0 ∨ p.workload ≠ b.workload ∨ CutWorkload f)

/-! ## What is scored -/

/-- a valid baseline is an accepted file's -/
theorem loadBaseline_valid {f : Files} (h : (f.loadBaseline : GpuBaseline K).valid ≠ 0) :
    ∃ b, baselineReading f.baseline f.serial = some b ∧ (f.loadBaseline : GpuBaseline K) = { b with valid := 1 } := by
  unfold Files.loadBaseline at h ⊢
  unfold baselineReading
  cases hfile : f.baseline with
  | none =>
    rw [hfile] at h
    exact absurd rfl h
  | some file =>
    by_cases hacc : (baselineScan file : BaselineScan K).accepted f.serial
    · exact ⟨_, if_pos hacc, baselineLoad_accepted hacc⟩
    · rw [hfile, baselineLoad_rejected hacc] at h
      exact absurd rfl h

/-- and an accepted file is a valid baseline -/
theorem loadBaseline_reading {f : Files} {b : GpuBaseline K} (h : baselineReading f.baseline f.serial = some b) :
    (f.loadBaseline : GpuBaseline K) = { b with valid := 1 } ∧ b.available = 1 ∧ b.perfWMean.NoInf := by
  obtain ⟨file, hfile, hscan⟩ := Option.bind_eq_some_iff.1 h
  split_ifs at hscan with hacc
  obtain rfl := Option.some.inj hscan
  have hkept := baselineScan_kept (K := K) file
  refine ⟨?_, hkept.available, hkept.mean⟩
  unfold Files.loadBaseline
  rw [hfile]
  exact baselineLoad_accepted hacc

/-- **A drop is shown exactly for usable pairs behind the gate.** -/
theorem numeric_iff (malloc : P95Malloc) (ring : GpuRing K) (state : GpuState K) (cfg : GpuConfig (Dbl K)) (f : Files) :
    (scoreGpu malloc ring state (some f.loadBaseline) (some f.loadProbe) cfg).perfDropFrac ≠ .nan ↔
      completenessGate ring cfg ≠ 0 ∧ ∃ (b : GpuBaseline K) (p : GpuProbeResult K), UsablePair f b p := by
  rw [scoreGpu_perfDropFrac]
  by_cases hgate : completenessGate ring cfg = 0
  · simp [hgate]
  rw [if_neg hgate]
  constructor
  · intro hshown
    have hon : Usable (f.loadBaseline : GpuBaseline K) ∧ (f.loadProbe : GpuProbeResult K).available ≠ 0 ∧
        (f.loadProbe : GpuProbeResult K).stale = 0 ∧ .fin 0 < (f.loadProbe : GpuProbeResult K).perfWMean := by
      by_contra hoff
      exact hshown (shownDrop_off hoff)
    obtain ⟨⟨-, hvalid, hbmean⟩, hav, hstale, hpmean⟩ := hon
    obtain ⟨b, hb, hload⟩ := loadBaseline_valid hvalid
    rw [hload] at hbmean
    cases hp : (reading f.probe : Option (GpuProbeResult K)) with
    | none => exact absurd (reading_none hp f.probeTtlS f.nowS).1 hav
    | some p =>
      obtain ⟨-, hprobe⟩ := reading_some hp f.probeTtlS f.nowS
      unfold Files.loadProbe at hstale hpmean
      rw [hprobe] at hstale hpmean
      refine ⟨hgate, b, p, hb, hp, hbmean, hpmean, ?_⟩
      by_contra hexpired
      simp [hexpired] at hstale
  · intro hpair
    obtain ⟨-, b, p, hb, hp, hbmean, hpmean, hcurrent⟩ := hpair
    obtain ⟨hload, hav, hbinf⟩ := loadBaseline_reading hb
    obtain ⟨hpinf, hprobe⟩ := reading_some hp f.probeTtlS f.nowS
    obtain ⟨x, hx, hpos⟩ := hbinf.fin_of_pos hbmean
    obtain ⟨y, hy, -⟩ := hpinf.fin_of_pos hpmean
    have huse : Usable (f.loadBaseline : GpuBaseline K) := by
      rw [hload]
      exact ⟨by simp [hav], one_ne_zero, hbmean⟩
    have hload' : (f.loadProbe : GpuProbeResult K) = { p with available := 1, stale := 0 } := by
      unfold Files.loadProbe
      rw [hprobe, hcurrent]
      rfl
    rw [shownDrop_on (x := x) (y := y) huse (by rw [hload]; exact hx) hpos
      (by rw [hload']; exact ⟨one_ne_zero, rfl, hpmean⟩) (by rw [hload']; exact hy)]
    simp

/-! ## What is stored of the texts -/

omit [Arith K] in
/-- a string is stored as far as its buffer goes, and is empty without a line of its key -/
theorem stored_text {stored : CStr} {text : Option CStr} {n : ℕ}
    (h : StateValue.str stored =
      (text.bind fun t => some (StateValue.str (K := K) (safeStrncpy t (n + 1)))).getD (.str [])) :
    stored = (text.getD []).take n := by
  cases text with
  | none => rw [StateValue.str.inj h, Option.getD_none, List.take_nil]
  | some t => exact StateValue.str.inj h

/-- an accepted baseline is stored under the device's serial -/
theorem baselineReading_texts {f : Files} {b : GpuBaseline K} (h : baselineReading f.baseline f.serial = some b) :
    f.serial.length ≤ 31 ∧ b.workload = ((f.baselineText .workload).getD []).take 127 := by
  obtain ⟨file, hfile, hscan⟩ := Option.bind_eq_some_iff.1 h
  split_ifs at hscan with hacc
  obtain rfl := Option.some.inj hscan
  obtain ⟨herr, hfields, hserial, -⟩ := hacc
  have hclean := ((baselineComplete_iff file).1 ⟨herr, hfields⟩).1
  have hreads := baselineScan_reads (K := K) file
  constructor
  · rw [← hserial, stored_text (n := 31) (hreads.field_last hclean (k := .serial) rfl)]
    exact List.length_take_le _ _
  · rw [Files.baselineText, hfile, Option.bind_some]
    exact stored_text (n := 127) (hreads.field_last hclean (k := .workload) rfl)

/-- an accepted probe result holds its texts, as far as they are stored -/
theorem reading_texts {f : Files} {p : GpuProbeResult K} (h : reading f.probe = some p) :
    (∃ t, f.probeText .serial = some t ∧ p.serial = t.take 31) ∧
    (f.probeText .probeExitCode).bind (fun t => parseInt t (-1000) 1000) = some p.probeExitCode ∧
    p.workload = ((f.probeText .workload).getD []).take 127 := by
  obtain ⟨file, hfile, hscan⟩ := Option.bind_eq_some_iff.1 h
  split_ifs at hscan with hacc
  obtain rfl := Option.some.inj hscan
  obtain ⟨hclean, hall⟩ := (probeAccepted_iff file).1 hacc
  have hreads := probeScan_reads (K := K) file
  obtain ⟨serial, hserial⟩ := Option.isSome_iff_exists.1 (lastText_isSome.2 (hall .serial rfl))
  obtain ⟨code, hcode⟩ := Option.isSome_iff_exists.1 (lastText_isSome.2 (hall .probeExitCode rfl))
  obtain ⟨v, hv, -⟩ := value_of_lastText (probeRules K) hclean rfl hcode
  obtain ⟨n, hn, rfl⟩ := Option.map_eq_some_iff.1 hv
  have hstored : StateValue.int (probeScan file : ProbeScan K).out.probeExitCode = _ :=
    hreads.field_last hclean (k := .probeExitCode) rfl
  rw [hcode, Option.bind_some, hv] at hstored
  have hkept := stored_text (n := 31) (hreads.field_last hclean (k := .serial) rfl)
  rw [hserial] at hkept
  simp only [Files.probeText, hfile, Option.bind_some, hserial, hcode, hn]
  exact ⟨⟨serial, rfl, hkept⟩, congrArg some (StateValue.int.inj hstored).symm,
    stored_text (n := 127) (hreads.field_last hclean (k := .workload) rfl)⟩

theorem serial_iff {f : Files} {t : CStr} (ht : f.probeText .serial = some t) (hshort : f.serial.length ≤ 31) :
    f.probeText .serial = some f.serial ↔ t.take 31 = f.serial ∧ ¬ CutSerial f := by
  rw [ht, Option.some.injEq]
  constructor
  · rintro rfl
    refine ⟨List.take_of_length_le hshort, ?_⟩
    rintro ⟨t', ht', hlong, -⟩
    obtain rfl := Option.some.inj (ht.symm.trans ht')
    omega
  · rintro ⟨htake, hnocut⟩
    by_contra hne
    refine hnocut ⟨t, ht, ?_, htake⟩
    by_contra hfits
    exact hne (by rwa [List.take_of_length_le (by omega)] at htake)

theorem workload_iff (f : Files) :
    (f.probeText .workload).getD [] = (f.baselineText .workload).getD [] ↔
      ((f.probeText .workload).getD []).take 127 = ((f.baselineText .workload).getD []).take 127 ∧ ¬ CutWorkload f := by
  constructor
  · intro heq
    exact ⟨congrArg _ heq, fun hcut => hcut.1 heq⟩
  · rintro ⟨htake, hnocut⟩
    by_contra hne
    exact hnocut ⟨hne, htake⟩

/-- a usable pair belongs together when what is stored says so and nothing that matters was cut -/
theorem UsablePair.belongs_iff {f : Files} {b : GpuBaseline K} {p : GpuProbeResult K} (h : UsablePair f b p) :
    Comparable f ↔ ¬ (p.serial ≠ f.serial ∨ CutSerial f ∨ p.probeExitCode ≠ 0 ∨ p.workload ≠ b.workload ∨
      CutWorkload f) := by
  obtain ⟨hshort, hbwork⟩ := baselineReading_texts h.baseline
  obtain ⟨⟨t, ht, hserial⟩, hcode, hwork⟩ := reading_texts h.probe
  have hserialIff := serial_iff ht hshort
  have hworkIff := workload_iff f
  have hcodeIff : (f.probeText .probeExitCode).bind (fun t => parseInt t (-1000) 1000) = some 0 ↔
      p.probeExitCode = 0 := by
    rw [hcode, Option.some.injEq]
  rw [← hserial] at hserialIff
  rw [← hwork, ← hbwork] at hworkIff
  simp only [not_or, not_not, Ne]
  constructor
  · intro hc
    exact ⟨(hserialIff.1 hc.serial).1, (hserialIff.1 hc.serial).2, hcodeIff.1 hc.exitCode, hworkIff.1 hc.workload⟩
  · rintro ⟨hstored, hnocut, hzero, hsame⟩
    exact ⟨hserialIff.2 ⟨hstored, hnocut⟩, hcodeIff.2 hzero, hworkIff.2 hsame⟩

/-- **Scored results are comparable exactly when no misfit is scored.** -/
theorem comparable_iff (malloc : P95Malloc) (ring : GpuRing K) (state : GpuState K) (cfg : GpuConfig (Dbl K))
    (f : Files) : ComparableIfScored malloc ring state cfg f ↔ ¬ MisfitScored ring cfg f := by
  unfold ComparableIfScored
  rw [numeric_iff]
  constructor
  · intro hcomparable hmisfit
    obtain ⟨hgate, b, p, hpair, hbad⟩ := hmisfit
    exact hpair.belongs_iff.1 (hcomparable ⟨hgate, b, p, hpair⟩) hbad
  · intro hno hscored
    obtain ⟨hgate, b, p, hpair⟩ := hscored
    exact hpair.belongs_iff.2 fun hbad => hno ⟨hgate, b, p, hpair, hbad⟩

/-! ## Two probe files -/

def ownBaseline : CStr :=
  ("serial=1\nperf_w_mean=2\nestablished_at=2026-03-15T14:22:00Z\nworkload=gemm\nsample_count=9\n").toList

def ownProbe : CStr :=
  ("serial=1\nperf_w_mean=1\nprobe_timestamp=2026-03-15T14:22:00Z\nprobe_exit_code=0\nworkload=gemm\n").toList

def foreignProbe : CStr :=
  ("serial=2\nperf_w_mean=1\nprobe_timestamp=2026-03-15T14:22:00Z\nprobe_exit_code=1\nworkload=other\n").toList

/-- the files of device "1", a minute after the probe run -/
def filesWith (probe : CStr) : Files := ⟨some ownBaseline, some probe, "1".toList, 3600, 1773584580⟩

/-- the baseline of device "1", as it is loaded -/
theorem ownBaseline_loaded (probe : CStr) :
    (filesWith probe).loadBaseline = ({ (GpuBaseline.zeroed : GpuBaseline ℚ) with
      available := 1
      valid := 1
      serial := "1".toList
      perfWMean := .fin 2
      establishedAtS := 1773584520
      workload := "gemm".toList
      sampleCount := 9 } : GpuBaseline ℚ) := by
  show (baselineLoad (some ownBaseline) "1".toList : GpuBaseline ℚ) = _
  decide +kernel

/-- the device's own successful run is scored, as a drop of one half -/
theorem comparable_own :
    ComparableIfScored ⟨true, true⟩ PenaltyTable.hotRing .zeroed PenaltyTable.hotConfig.toDbl (filesWith ownProbe) ∧
    (scoreGpu ⟨true, true⟩ PenaltyTable.hotRing .zeroed (some (filesWith ownProbe).loadBaseline)
      (some (filesWith ownProbe).loadProbe) PenaltyTable.hotConfig.toDbl).perfDropFrac = .fin (1 / 2) := by
  have hload : (filesWith ownProbe).loadProbe = ({ (GpuProbeResult.zeroed : GpuProbeResult ℚ) with
      available := 1
      serial := "1".toList
      perfWMean := .fin 1
      probeTimestampS := 1773584520
      workload := "gemm".toList } : GpuProbeResult ℚ) := by
    decide +kernel
  constructor
  · apply (comparable_iff _ _ _ _ _).2
    intro hmisfit
    obtain ⟨-, b, p, hpair, hbad⟩ := hmisfit
    have hown : Comparable (filesWith ownProbe) := ⟨by decide +kernel, by decide +kernel, by decide +kernel⟩
    exact hpair.belongs_iff.1 hown hbad
  · rw [hload, ownBaseline_loaded]
    decide +kernel

/-- a failed run of another device on another workload is scored just the same -/
theorem foreign_probe_scored :
    (scoreGpu ⟨true, true⟩ PenaltyTable.hotRing .zeroed (some (filesWith foreignProbe).loadBaseline)
      (some (filesWith foreignProbe).loadProbe) PenaltyTable.hotConfig.toDbl).perfDropFrac = .fin (1 / 2) ∧
    (filesWith foreignProbe).loadProbe = ({ GpuProbeResult.zeroed with
      available := 1
      serial := "2".toList
      perfWMean := .fin 1
      probeTimestampS := 1773584520
      probeExitCode := 1
      workload := "other".toList } : GpuProbeResult ℚ) ∧
    ¬ ComparableIfScored ⟨true, true⟩ PenaltyTable.hotRing .zeroed PenaltyTable.hotConfig.toDbl
      (filesWith foreignProbe) := by
  have hload : (filesWith foreignProbe).loadProbe = ({ GpuProbeResult.zeroed with
      available := 1
      serial := "2".toList
      perfWMean := .fin 1
      probeTimestampS := 1773584520
      probeExitCode := 1
      workload := "other".toList } : GpuProbeResult ℚ) := by
    decide +kernel
  have hdrop : (scoreGpu ⟨true, true⟩ PenaltyTable.hotRing .zeroed (some (filesWith foreignProbe).loadBaseline)
      (some (filesWith foreignProbe).loadProbe) PenaltyTable.hotConfig.toDbl).perfDropFrac = .fin (1 / 2) := by
    rw [hload, ownBaseline_loaded]
    decide +kernel
  refine ⟨hdrop, hload, ?_⟩
  intro hcomparable
  have hserial := (hcomparable (by rw [hdrop]; simp)).serial
  exact absurd hserial (by decide +kernel)

end GpuHealth.ComparableProbe
