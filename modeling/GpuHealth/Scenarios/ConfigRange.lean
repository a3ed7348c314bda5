/-
The ranges of a loaded config.

The property: whenever `config_load` returns 0, every integer is within the bounds of its row and every double
is a number within them; and if `config_validate` returns 0 too, the warn/bad/severe thresholds are strictly ordered
as numbers (`Sound`). `parse_double` rejects a value by `val < min || val > max`, which NaN passes, and `strtod`
accepts the spelling "nan".

- `nan_threshold`: the line "temp_p95_warn_c = nan" is accepted by both functions.
- `sound_iff`: a loaded config is sound exactly when no double's deciding text (its variable, else the last line with
  its key) spells NaN. Infinities, hexadecimal numerals and overflows are all rejected or in range.
Witness `sound_small`.
-/
import GpuHealth.ConfigText

namespace GpuHealth.ConfigRange

open GpuHealth.CText GpuHealth.Config GpuHealth.ConfigText GpuHealth.LastWrite

variable {K : Type} [Arith K]

/-! ## The property -/

/-- the field of the row is a number within its bounds -/
def NumberInRange (cfg : GpuConfig (Dbl K)) : CfgField → Prop
  | .int k min max => min ≤ cfg.int k ∧ cfg.int k ≤ max
  | .dbl k min max => ∃ x : K, cfg.dbl k = .fin x ∧ min ≤ x ∧ x ≤ max
  | .str _ _ => True

/-- two doubles are numbers, and the first is smaller -/
def Less (cfg : GpuConfig (Dbl K)) (a b : DblKey) : Prop := ∃ x y : K, cfg.dbl a = .fin x ∧ cfg.dbl b = .fin y ∧ x < y

structure StrictlyOrdered (cfg : GpuConfig (Dbl K)) : Prop where
  temp : Less cfg .tempP95WarnC .tempP95BadC
  hbm : Less cfg .hbmTempP95WarnC .hbmTempP95BadC
  perfBad : Less cfg .perfDropWarn .perfDropBad
  perfSevere : Less cfg .perfDropBad .perfDropSevere

structure Sound (cfg : GpuConfig (Dbl K)) : Prop where
  range : ∀ e ∈ cfgTable, NumberInRange cfg e.field
  ordered : configValidate cfg = 0 → StrictlyOrdered cfg

/-! ## The condition -/

/-- `strtod` reads the whole text as NaN -/
def SpellsNan (text : CStr) : Prop := strtod text = some (.nan, false, [])

/-- the text that decides a double spells NaN -/
def NanText (fopen getenv : CStr → Option CStr) (path : Option CStr) : Prop :=
  ∃ e ∈ cfgTable, ∃ k min max, e.field = .dbl k min max ∧
    ∃ text, effectiveText fopen getenv path e = some text ∧ SpellsNan text

theorem parseDouble_nan {text : CStr} (min max : ℚ) : parseDouble text min max = some .nan ↔ SpellsNan text := by
  unfold parseDouble SpellsNan
  by_cases hnil : text = []
  · subst hnil
    simp only [if_true, reduceCtorEq, false_iff]
    decide
  · rw [if_neg hnil]
    cases hstr : strtod text with
    | none => simp
    | some r =>
      obtain ⟨val, erange, rest⟩ := r
      dsimp only
      constructor
      · intro h
        split_ifs at h with hbad hrange
        obtain ⟨herange, hrest⟩ := not_or.1 hbad
        rw [Option.some.inj h, not_not.1 hrest, Bool.not_eq_true] at *
        simp [herange]
      · intro h
        obtain ⟨rfl, rfl, rfl⟩ : val = .nan ∧ erange = false ∧ rest = [] := by simpa using h
        simp

/-! ## One row -/

theorem ofRat_nan {v : Dbl ℚ} : (v.ofRat : Dbl K) = .nan ↔ v = .nan := by
  cases v <;> simp [Dbl.ofRat]

/-- a double of a loaded config is NaN exactly when its deciding text spells NaN -/
theorem dbl_nan_iff {fopen getenv : CStr → Option CStr} {path : Option CStr} {cfg : GpuConfig (Dbl K)}
    (h : configLoad fopen getenv path = some cfg) {e : CfgEntry} (he : e ∈ cfgTable) {k : DblKey} {min max : ℚ}
    (hf : e.field = .dbl k min max) :
    cfg.dbl k = .nan ↔ ∃ text, effectiveText fopen getenv path e = some text ∧ SpellsNan text := by
  have hwritten := configLoad_written h he
  rw [hf] at hwritten
  cases htext : effectiveText fopen getenv path e with
  | none =>
    rw [htext] at hwritten
    have hdefault : CfgValue.dbl (cfg.dbl k) = .dbl (cfgDefaults.dbl k) := hwritten
    rw [CfgValue.dbl.inj hdefault]
    simp [cfgDefaults]
  | some text =>
    rw [htext] at hwritten
    obtain ⟨v, hv, hval⟩ := Option.map_eq_some_iff.1
      (show (parseDouble text min max).map (fun v => CfgValue.dbl v.ofRat) = some (.dbl (cfg.dbl k)) from hwritten)
    rw [← CfgValue.dbl.inj hval, ofRat_nan]
    constructor
    · intro hnan
      exact ⟨text, rfl, (parseDouble_nan min max).1 (hnan ▸ hv)⟩
    · intro hspells
      obtain ⟨text', htext', hnan⟩ := hspells
      rw [← Option.some.inj htext', ← parseDouble_nan min max, hv] at hnan
      exact Option.some.inj hnan

/-! ## The whole config -/

theorem less_of_not_le {cfg : GpuConfig (Dbl K)} (hfin : Finite cfg) {a b : DblKey} (h : ¬ cfg.dbl b ≤ cfg.dbl a) :
    Less cfg a b := by
  obtain ⟨x, hx⟩ := hfin a
  obtain ⟨y, hy⟩ := hfin b
  rw [hx, hy, Dbl.fin_le_fin, not_le] at h
  exact ⟨x, y, hx, hy, h⟩

/-- an accepted config without NaN is strictly ordered -/
theorem ordered_of_valid {cfg : GpuConfig (Dbl K)} (hfin : Finite cfg) (hv : configValidate cfg = 0) :
    StrictlyOrdered cfg := by
  unfold configValidate at hv
  split_ifs at hv with htemp hhbm hbad hsevere
  exact ⟨less_of_not_le hfin htemp, less_of_not_le hfin hhbm, less_of_not_le hfin hbad, less_of_not_le hfin hsevere⟩

theorem sound_of_finite {cfg : GpuConfig (Dbl K)} (hadm : Admitted cfg) (hfin : Finite cfg) : Sound cfg := by
  refine ⟨?_, ordered_of_valid hfin⟩
  intro e he
  have hrow := hadm e he
  cases hf : e.field with
  | int k min max =>
    rw [hf] at hrow
    exact hrow
  | dbl k min max =>
    rw [hf] at hrow
    rcases hrow with hnan | hnum
    · obtain ⟨x, hx⟩ := hfin k
      rw [hnan] at hx
      exact absurd hx (by simp)
    · exact hnum
  | str k maxlen => trivial

/-- the doubles of a loaded config are finite exactly when none is NaN -/
theorem finite_of_no_nan {cfg : GpuConfig (Dbl K)} (hadm : Admitted cfg) (h : ∀ k, cfg.dbl k ≠ .nan) : Finite cfg := by
  intro k
  obtain ⟨e, he, min, max, hf⟩ := cfgTable_dbl k
  have hrow := hadm e he
  rw [hf] at hrow
  rcases hrow with hnan | ⟨x, hx, -, -⟩
  · exact absurd hnan (h k)
  · exact ⟨x, hx⟩

/-- a loaded config without NaN texts is finite -/
theorem finite_of_no_nanText {fopen getenv : CStr → Option CStr} {path : Option CStr} {cfg : GpuConfig (Dbl K)}
    (h : configLoad fopen getenv path = some cfg) (hno : ¬ NanText fopen getenv path) : Finite cfg := by
  apply finite_of_no_nan (configLoad_admitted h)
  intro k hnan
  obtain ⟨e, he, min, max, hf⟩ := cfgTable_dbl k
  exact hno ⟨e, he, k, min, max, hf, (dbl_nan_iff h he hf).1 hnan⟩

/-- without variables, a check on the lines is enough -/
theorem no_nanText {fopen : CStr → Option CStr} {path : Option CStr}
    (h : ∀ line ∈ linesOf fopen path, ∀ kv ∈ splitKv line, strtod kv.2 ≠ some (.nan, false, [])) :
    ¬ NanText fopen (fun _ => none) path := by
  intro hnan
  obtain ⟨e, -, -, -, -, -, text, htext, hspells⟩ := hnan
  rw [effectiveText, Option.none_or] at htext
  obtain ⟨line, hline, hvalue⟩ := List.mem_filterMap.1 (List.mem_of_getLast? htext)
  obtain ⟨kv, hkv, hkey⟩ := Option.bind_eq_some_iff.1 hvalue
  split_ifs at hkey
  obtain rfl := Option.some.inj hkey
  exact h line hline kv hkv hspells

/-- **A loaded config is sound exactly when no deciding text spells NaN.** -/
theorem sound_iff (fopen getenv : CStr → Option CStr) (path : Option CStr) (cfg : GpuConfig (Dbl K))
    (h : configLoad fopen getenv path = some cfg) : Sound cfg ↔ ¬ NanText fopen getenv path := by
  constructor
  · intro hsound hnan
    obtain ⟨e, he, k, min, max, hf, htext⟩ := hnan
    have hrange := hsound.range e he
    rw [hf] at hrange
    obtain ⟨x, hx, -, -⟩ := hrange
    rw [(dbl_nan_iff h he hf).2 htext] at hx
    exact absurd hx (by simp)
  · intro hno
    exact sound_of_finite (configLoad_admitted h) (finite_of_no_nanText h hno)

/-- the small file has one deciding text for a double, and it is a numeral -/
theorem sound_small : Sound (smallConfig.toDbl : GpuConfig (Dbl ℚ)) := by
  apply (sound_iff (fun _ => some smallFile) (fun _ => none) (some []) _ smallConfig_load).2
  apply no_nanText
  decide +kernel

def nanFile : CStr := "temp_p95_warn_c = nan\n".toList

/-- a NaN threshold passes the range check and the validation -/
theorem nan_threshold : ∃ cfg : GpuConfig (Dbl ℚ), configLoad (fun _ => some nanFile) (fun _ => none) (some []) = some cfg ∧
    configValidate cfg = 0 ∧ cfg.dbl .tempP95WarnC = .nan ∧ ¬ Sound cfg := by
  have hload : (configLoad (fun _ => some nanFile) (fun _ => none) (some []) : Option (GpuConfig (Dbl ℚ))).map
      (fun cfg => (configValidate cfg, cfg.dbl .tempP95WarnC)) = some (0, .nan) := by
    decide +kernel
  obtain ⟨cfg, hcfg, hfields⟩ := Option.map_eq_some_iff.1 hload
  obtain ⟨hvalid, hnan⟩ := Prod.mk.inj hfields
  refine ⟨cfg, hcfg, hvalid, hnan, ?_⟩
  intro hsound
  obtain ⟨x, y, hx, -, -⟩ := (hsound.ordered hvalid).temp
  rw [hnan] at hx
  exact absurd hx (by simp)

end GpuHealth.ConfigRange
