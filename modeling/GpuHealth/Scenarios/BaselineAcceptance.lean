/-
Which baseline files are accepted, and which are reported as another device's.

The property: `baseline_load` sets valid = 1 exactly when the file exists, no recognised key has a text its parser
rejects, the five required keys occur, the text of the last serial line is the device's serial (not merely its first
31 characters) and the last perf_w_mean is a real number in (0, 1e9]; and serial_mismatch = 1 exactly when the first
three hold and the last serial text is another. It fails in two ways: `parse_double` lets "nan" through both its
comparisons, and NaN <= 0 is false (`nan_accepted`); and the serial is compared after it was cut to 31 characters.

`acceptance_iff`: for every file and every device serial of at most 31 characters, the property holds if and only if
the file is not a complete one without rejected texts whose serial text is longer than 31 characters and begins with
the device's serial, or is the device's serial with a perf_w_mean of NaN.
Witness `acceptance_own`: a device's own baseline.
-/
import GpuHealth.StateText

namespace GpuHealth.BaselineAcceptance

open GpuHealth.CText GpuHealth.State GpuHealth.StateText GpuHealth.Settings

variable {K : Type} [Arith K]

/-! ## The property -/

/-- the recognised keys of a file, with their texts, in order -/
def settingsOf (file : CStr) : List (BaselineKey × CStr) := baselineSettings (fgetsLines 512 file)

/-- the parser of the key rejects the text -/
def Rejects : BaselineKey × CStr → Prop
  | (.perfWMean, t) => parseDouble t 0 (10 ^ 9) = none
  | (.establishedAt, t) => parseIso8601 t = 0
  | (.sampleCount, t) => parseInt t 1 1000000 = none
  | _ => False

/-- nothing is rejected, and serial, perf_w_mean, established_at, workload and sample_count occur -/
structure WellFormed (l : List (BaselineKey × CStr)) : Prop where
  clean : ∀ s ∈ l, ¬ Rejects s
  complete : ∀ k ∈ [BaselineKey.serial, .perfWMean, .establishedAt, .workload, .sampleCount], ∃ s ∈ l, s.1 = k

/-- the last perf_w_mean is a real number in (0, 1e9] -/
def RealMean (l : List (BaselineKey × CStr)) : Prop :=
  ∃ t x, lastText l .perfWMean = some t ∧ parseDouble t 0 (10 ^ 9) = some (.fin x) ∧ 0 < x ∧ x ≤ 10 ^ 9

structure AcceptanceExact (K : Type) [Arith K] (file : Option CStr) (serial : CStr) : Prop where
  valid : (baselineLoad file serial : GpuBaseline K).valid = 1 ↔
    ∃ f, file = some f ∧ WellFormed (settingsOf f) ∧ lastText (settingsOf f) .serial = some serial ∧
      RealMean (settingsOf f)
  serialMismatch : (baselineLoad file serial : GpuBaseline K).serialMismatch = 1 ↔
    ∃ f, file = some f ∧ WellFormed (settingsOf f) ∧ lastText (settingsOf f) .serial ≠ some serial

/-- the file's serial is longer than a serial can be stored, and begins with the device's -/
def CutSerial (l : List (BaselineKey × CStr)) (serial : CStr) : Prop :=
  ∃ t, lastText l .serial = some t ∧ 31 < t.length ∧ t.take 31 = serial

/-- the device's own serial with a mean that is not a number -/
def NanMean (l : List (BaselineKey × CStr)) (serial : CStr) : Prop :=
  lastText l .serial = some serial ∧ ∃ t, lastText l .perfWMean = some t ∧ parseDouble t 0 (10 ^ 9) = some .nan

/-! ## What the loader decides -/

theorem refused_iff (l : List (BaselineKey × CStr)) : (baselineRules K).Refused l ↔ ∃ s ∈ l, Rejects s := by
  have hone : ∀ s : BaselineKey × CStr, (baselineRules K).Refuses s ↔ Rejects s := by
    rintro ⟨k, t⟩
    cases k <;> simp [Rules.Refuses, baselineRules, Rejects, isoTime]
  unfold Rules.Refused
  simp only [hone]

/-- the checks before the serial's are those of a well-formed file -/
theorem wellFormed_iff (f : CStr) :
    WellFormed (settingsOf f) ↔ (baselineScan f : BaselineScan K).parseError = false ∧
      ((baselineScan f : BaselineScan K).hasSerial ∧ (baselineScan f : BaselineScan K).hasPerfW ∧
        (baselineScan f : BaselineScan K).hasEstablished ∧ (baselineScan f : BaselineScan K).hasWorkload ∧
        (baselineScan f : BaselineScan K).hasSampleCount) := by
  rw [baselineComplete_iff, refused_iff]
  refine ⟨?_, ?_⟩
  · intro h
    refine ⟨?_, ?_⟩
    · rintro ⟨s, hs, hrejects⟩
      exact h.clean s hs hrejects
    · intro k hk
      refine h.complete k ?_
      cases k <;> first | decide | cases hk
  · rintro ⟨hclean, hall⟩
    refine ⟨fun s hs hrejects => hclean ⟨s, hs, hrejects⟩, ?_⟩
    intro k hk
    refine hall k ?_
    revert k
    decide

/-- the serial and the mean of a well-formed file -/
theorem scan_texts {f : CStr} (h : WellFormed (settingsOf f)) :
    ∃ serial t mean, lastText (settingsOf f) .serial = some serial ∧
      (baselineScan f : BaselineScan K).out.serial = serial.take 31 ∧
      lastText (settingsOf f) .perfWMean = some t ∧ parseDouble t 0 (10 ^ 9) = some mean ∧
      (baselineScan f : BaselineScan K).out.perfWMean = mean.ofRat := by
  have hclean : ¬ (baselineRules K).Refused (settingsOf f) := by
    rw [refused_iff]
    rintro ⟨s, hs, hrejects⟩
    exact h.clean s hs hrejects
  have hfield := (baselineScan_reads (K := K) f).field hclean
  obtain ⟨serial, hserial⟩ := Option.isSome_iff_exists.1 (lastText_isSome.2 (h.complete .serial (by decide)))
  obtain ⟨t, ht⟩ := Option.isSome_iff_exists.1 (lastText_isSome.2 (h.complete .perfWMean (by decide)))
  obtain ⟨v, hv, hvalue⟩ := value_of_lastText (baselineRules K) hclean rfl hserial
  obtain ⟨w, hw, hwvalue⟩ := value_of_lastText (baselineRules K) hclean rfl ht
  obtain ⟨mean, hmean, rfl⟩ := Option.map_eq_some_iff.1 hw
  have hstored := hfield .serial
  have hnumber := hfield .perfWMean
  change (baselineRules K).value (settingsOf f) .serial = _ at hvalue
  change (baselineRules K).value (settingsOf f) .perfWMean = _ at hwvalue
  change StateValue.str (baselineScan f : BaselineScan K).out.serial =
    ((baselineRules K).value (settingsOf f) .serial).getD _ at hstored
  change StateValue.num (baselineScan f : BaselineScan K).out.perfWMean =
    ((baselineRules K).value (settingsOf f) .perfWMean).getD _ at hnumber
  rw [hvalue, Option.getD_some, ← Option.some.inj hv] at hstored
  rw [hwvalue, Option.getD_some] at hnumber
  exact ⟨serial, t, mean, hserial, StateValue.str.inj hstored, ht, hmean, StateValue.num.inj hnumber⟩

theorem valid_iff (f serial : CStr) :
    (baselineLoad (some f) serial : GpuBaseline K).valid = 1 ↔
      WellFormed (settingsOf f) ∧ (baselineScan f : BaselineScan K).out.serial = serial ∧
        ¬ (baselineScan f : BaselineScan K).out.perfWMean ≤ .fin 0 := by
  rw [wellFormed_iff (K := K), and_assoc]
  constructor
  · intro hvalid
    by_contra hno
    rw [baselineLoad_rejected hno] at hvalid
    exact absurd hvalid zero_ne_one
  · intro hacc
    rw [baselineLoad_accepted hacc]

theorem serialMismatch_iff (f serial : CStr) :
    (baselineLoad (some f) serial : GpuBaseline K).serialMismatch = 1 ↔
      WellFormed (settingsOf f) ∧ (baselineScan f : BaselineScan K).out.serial ≠ serial := by
  have hzero : (baselineScan f : BaselineScan K).out.serialMismatch ≠ 1 := by
    rw [baselineScan_serialMismatch]
    exact zero_ne_one
  rw [wellFormed_iff (K := K)]
  unfold baselineLoad
  dsimp only
  by_cases herr : (baselineScan f : BaselineScan K).parseError = true
  · rw [if_pos herr]
    exact iff_of_false hzero fun h => absurd (h.1.1.symm.trans herr) Bool.false_ne_true
  rw [if_neg herr]
  by_cases hfields : (baselineScan f : BaselineScan K).hasSerial ∧ (baselineScan f : BaselineScan K).hasPerfW ∧
      (baselineScan f : BaselineScan K).hasEstablished ∧ (baselineScan f : BaselineScan K).hasWorkload ∧
      (baselineScan f : BaselineScan K).hasSampleCount
  · rw [if_neg (not_not.2 hfields)]
    by_cases hserial : (baselineScan f : BaselineScan K).out.serial = serial
    · rw [if_neg (not_not.2 hserial)]
      refine iff_of_false ?_ fun h => h.2 hserial
      split_ifs <;> exact hzero
    · rw [if_pos hserial]
      exact iff_of_true rfl ⟨⟨Bool.eq_false_iff.2 herr, hfields⟩, hserial⟩
  · rw [if_pos hfields]
    exact iff_of_false hzero fun h => hfields h.1.2

/-! ## The condition -/

/-- the last check, on a parsed mean -/
theorem mean_positive_iff {t : CStr} {v : Dbl ℚ} (h : parseDouble t 0 (10 ^ 9) = some v) :
    ¬ (v.ofRat : Dbl K) ≤ .fin 0 ↔ v = .nan ∨ ∃ x, v = .fin x ∧ 0 < x ∧ x ≤ 10 ^ 9 := by
  rcases parseDouble_range h with rfl | ⟨x, rfl, -, hx⟩
  · exact iff_of_true (Dbl.not_nan_le _) (Or.inl rfl)
  · have hpos : ¬ (Dbl.ofRat (.fin x) : Dbl K) ≤ .fin 0 ↔ 0 < x := by
      change ¬ (Dbl.fin (x : K) ≤ .fin 0) ↔ 0 < x
      rw [Dbl.fin_le_fin, not_le, Rat.cast_pos]
    rw [hpos]
    constructor
    · intro h0
      exact Or.inr ⟨x, rfl, h0, hx⟩
    · rintro (hnan | ⟨y, hy, h0, -⟩)
      · cases hnan
      · cases hy
        exact h0

/-- a stored serial of 31 characters at most agrees with the text's beginning -/
theorem take_eq_iff {t serial : CStr} (hs : serial.length ≤ 31) :
    t.take 31 = serial ↔ t = serial ∨ 31 < t.length ∧ t.take 31 = serial := by
  constructor
  · intro htake
    rcases Nat.lt_or_ge 31 t.length with hlong | hshort
    · exact Or.inr ⟨hlong, htake⟩
    · exact Or.inl (by rwa [List.take_of_length_le hshort] at htake)
  · rintro (rfl | ⟨-, htake⟩)
    · exact List.take_of_length_le hs
    · exact htake

/-- the two verdicts on a well-formed file -/
theorem acceptance_wellFormed {f serial : CStr} (hs : serial.length ≤ 31) (hwell : WellFormed (settingsOf f)) :
    AcceptanceExact K (some f) serial ↔ ¬ CutSerial (settingsOf f) serial ∧ ¬ NanMean (settingsOf f) serial := by
  obtain ⟨text, t, mean, htext, hserial, ht, hmean, hnumber⟩ := scan_texts (K := K) hwell
  have hvalid : (baselineLoad (some f) serial : GpuBaseline K).valid = 1 ↔
      text.take 31 = serial ∧ (mean = .nan ∨ ∃ x, mean = .fin x ∧ 0 < x ∧ x ≤ 10 ^ 9) := by
    rw [valid_iff, hserial, hnumber, mean_positive_iff hmean, and_iff_right hwell]
  have hmismatch : (baselineLoad (some f) serial : GpuBaseline K).serialMismatch = 1 ↔ text.take 31 ≠ serial := by
    rw [serialMismatch_iff, hserial, and_iff_right hwell]
  have hcut : CutSerial (settingsOf f) serial ↔ 31 < text.length ∧ text.take 31 = serial := by
    unfold CutSerial
    simp only [htext, Option.some.injEq, exists_eq_left']
  have hreal : RealMean (settingsOf f) ↔ ∃ x, mean = .fin x ∧ 0 < x ∧ x ≤ 10 ^ 9 := by
    unfold RealMean
    simp only [ht, Option.some.injEq, exists_and_left, exists_eq_left', hmean]
  have hnan : NanMean (settingsOf f) serial ↔ text = serial ∧ mean = .nan := by
    unfold NanMean
    simp only [htext, ht, Option.some.injEq, exists_eq_left', hmean]
  have hspec : (∃ f', some f = some f' ∧ WellFormed (settingsOf f') ∧
      lastText (settingsOf f') .serial = some serial ∧ RealMean (settingsOf f')) ↔
      text = serial ∧ ∃ x, mean = .fin x ∧ 0 < x ∧ x ≤ 10 ^ 9 := by
    simp only [Option.some.injEq, exists_eq_left', htext, hreal, and_iff_right hwell]
  have hother : (∃ f', some f = some f' ∧ WellFormed (settingsOf f') ∧
      lastText (settingsOf f') .serial ≠ some serial) ↔ text ≠ serial := by
    simp only [Option.some.injEq, exists_eq_left', htext, and_iff_right hwell, Ne]
  rw [hcut, hnan]
  constructor
  · intro hexact
    refine ⟨?_, ?_⟩
    · rintro ⟨hlong, htake⟩
      have hne : text ≠ serial := by
        rintro rfl
        omega
      exact hmismatch.1 (hexact.serialMismatch.2 (hother.2 hne)) htake
    · rintro ⟨rfl, rfl⟩
      obtain ⟨-, x, hx, -⟩ := hspec.1 (hexact.valid.1 (hvalid.2 ⟨List.take_of_length_le hs, Or.inl rfl⟩))
      cases hx
  · rintro ⟨hnocut, hnonan⟩
    have htake : text.take 31 = serial ↔ text = serial := (take_eq_iff hs).trans (or_iff_left hnocut)
    refine ⟨hvalid.trans (Iff.trans ?_ hspec.symm), hmismatch.trans (Iff.trans (not_congr htake) hother.symm)⟩
    rw [htake]
    constructor
    · rintro ⟨heq, hcase⟩
      exact ⟨heq, hcase.resolve_left fun h => hnonan ⟨heq, h⟩⟩
    · rintro ⟨heq, hx⟩
      exact ⟨heq, Or.inr hx⟩

/-- **When acceptance is exact.** For every file and every device serial of at most 31 characters: if and only if no
well-formed file names a longer serial that begins with it, or the serial itself with a mean of NaN. -/
theorem acceptance_iff (file : Option CStr) (serial : CStr) (hs : serial.length ≤ 31) :
    AcceptanceExact K file serial ↔ ∀ f, file = some f → WellFormed (settingsOf f) →
      ¬ CutSerial (settingsOf f) serial ∧ ¬ NanMean (settingsOf f) serial := by
  cases file with
  | none =>
    refine iff_of_true ⟨?_, ?_⟩ (fun f hf => by cases hf)
    · exact iff_of_false zero_ne_one (by rintro ⟨f, hf, -⟩; cases hf)
    · exact iff_of_false zero_ne_one (by rintro ⟨f, hf, -⟩; cases hf)
  | some f =>
    by_cases hwell : WellFormed (settingsOf f)
    · exact (acceptance_wellFormed hs hwell).trans
        ⟨fun h f' hf' _ => by cases hf'; exact h, fun h => h f rfl hwell⟩
    · refine iff_of_true ⟨?_, ?_⟩ (fun f' hf' hwell' => by cases hf'; exact absurd hwell' hwell)
      · rw [valid_iff]
        exact iff_of_false (fun h => hwell h.1) (by rintro ⟨f', hf', hwell', -⟩; cases hf'; exact hwell hwell')
      · rw [serialMismatch_iff]
        exact iff_of_false (fun h => hwell h.1) (by rintro ⟨f', hf', hwell', -⟩; cases hf'; exact hwell hwell')

/-! ## Three files -/

/-- a baseline of the serial and the mean -/
def baselineOf (serial mean : String) : CStr :=
  ("serial=" ++ serial ++ "\nperf_w_mean=" ++ mean ++
    "\nestablished_at=2026-03-15T14:22:00Z\nworkload=gemm\nsample_count=9\n").toList

theorem ownBaseline_lineEnd : AtLineEnd (baselineOf "1" "2") := by
  refine Or.inr ⟨(baselineOf "1" "2").dropLast, ?_⟩
  decide +kernel

theorem ownBaseline_texts : lastText (settingsOf (baselineOf "1" "2")) .serial = some "1".toList ∧
    lastText (settingsOf (baselineOf "1" "2")) .perfWMean = some "2".toList ∧
    parseDouble "2".toList 0 (10 ^ 9) = some (.fin 2) := by
  decide +kernel

theorem ownBaseline_wellFormed : WellFormed (settingsOf (baselineOf "1" "2")) :=
  (wellFormed_iff (K := ℚ) _).2 (by decide +kernel)

/-- it names neither a longer serial nor a mean of NaN -/
theorem ownBaseline_fits : ¬ CutSerial (settingsOf (baselineOf "1" "2")) "1".toList ∧
    ¬ NanMean (settingsOf (baselineOf "1" "2")) "1".toList := by
  obtain ⟨hserial, hmean, hparse⟩ := ownBaseline_texts
  refine ⟨?_, ?_⟩
  · rintro ⟨t, ht, hlong, -⟩
    cases hserial.symm.trans ht
    exact absurd hlong (by decide)
  · rintro ⟨-, t, ht, hnan⟩
    cases hmean.symm.trans ht
    cases hparse.symm.trans hnan

theorem ownBaseline_valid : (baselineLoad (some (baselineOf "1" "2")) "1".toList : GpuBaseline K).valid = 1 := by
  obtain ⟨hserial, hmean, hparse⟩ := ownBaseline_texts
  have hexact := (acceptance_wellFormed (K := K) (by decide) ownBaseline_wellFormed).2 ownBaseline_fits
  exact hexact.valid.2 ⟨_, rfl, ownBaseline_wellFormed, hserial, _, 2, hmean, hparse, by norm_num, by norm_num⟩

/-- a device's own baseline is accepted, and exactly so -/
theorem acceptance_own : AcceptanceExact ℚ (some (baselineOf "1" "2")) "1".toList ∧
    (baselineLoad (some (baselineOf "1" "2")) "1".toList : GpuBaseline ℚ).valid = 1 := by
  refine ⟨(acceptance_iff _ _ (by decide)).2 ?_, ownBaseline_valid⟩
  intro f hf _
  cases hf
  exact ownBaseline_fits

/-- A baseline whose mean is "nan" is accepted. -/
theorem nan_accepted :
    (baselineLoad (some (baselineOf "1" "nan")) "1".toList : GpuBaseline ℚ).valid = 1 ∧
    ¬ AcceptanceExact ℚ (some (baselineOf "1" "nan")) "1".toList := by
  have hvalid : (baselineLoad (some (baselineOf "1" "nan")) "1".toList : GpuBaseline ℚ).valid = 1 := by decide +kernel
  have hmean : lastText (settingsOf (baselineOf "1" "nan")) .perfWMean = some "nan".toList := by decide +kernel
  have hparse : parseDouble "nan".toList 0 (10 ^ 9) = some .nan := by decide +kernel
  refine ⟨hvalid, ?_⟩
  intro hexact
  obtain ⟨f, hf, -, -, t, x, ht, hx, -⟩ := hexact.valid.1 hvalid
  cases hf
  cases hmean.symm.trans ht
  cases hparse.symm.trans hx

end GpuHealth.BaselineAcceptance
