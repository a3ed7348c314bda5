/-
Precedence and failure of `config_load`.

`Assigns line e val` is the documented shape of a line: after trimming it is neither empty nor a comment, and the parts
on the two sides of its first '=', trimmed, are the key of the row `e` and the text `val`.

- `load_law`: `config_load` returns -1 exactly when the given file cannot be opened, or some line assigns a text that
  its row rejects, or some set GPU_HEALTH_<KEY> variable has such a text. Otherwise the field of every row holds the
  converted value of its variable if that is set, else of the last line that assigns it, else its default. Every field
  of the config has a row (`ConfigText.cfgTable_covers`), and the value of one row does not depend on any other.

Witness `load_law_small`: a field of a loaded file.

The lines are those `fgets` delivers for the file; converted values are what `parse_int`, `parse_double` and
`safe_strncpy` make of a text.
-/
import GpuHealth.ConfigText

namespace GpuHealth.ConfigPrecedence

open GpuHealth.CText GpuHealth.Config GpuHealth.ConfigText GpuHealth.LastWrite

variable {K : Type} [Arith K]

/-! ## Lines -/

def Assigns (line : CStr) (e : CfgEntry) (val : CStr) : Prop :=
  strTrim line ≠ [] ∧ (strTrim line).head? ≠ some '#' ∧
    ∃ key text, strTrim line = key ++ '=' :: text ∧ '=' ∉ key ∧ e ∈ cfgTable ∧ e.key = strTrim key ∧ val = strTrim text

/-- a string with '=' splits at the first one -/
theorem exists_split {p : CStr} (h : '=' ∈ p) :
    ∃ key text, p = key ++ '=' :: text ∧ '=' ∉ key := by
  obtain ⟨key, text, rfl, hkey⟩ := List.eq_append_cons_of_mem h
  exact ⟨key, text, rfl, hkey⟩

theorem assigns_iff {line : CStr} {e : CfgEntry} (he : e ∈ cfgTable) {val : CStr} :
    Assigns line e val ↔ lineText e line = some val := by
  rw [lineText_eq_some]
  constructor
  · intro h
    obtain ⟨hne, hhash, key, text, hsplit, hkey, -, hek, rfl⟩ := h
    rw [splitKv_of_split hne hhash hsplit hkey, hek]
  · intro h
    by_cases hblank : strTrim line = [] ∨ (strTrim line).head? = some '#'
    · simp [splitKv, hblank] at h
    · obtain ⟨hne, hhash⟩ := not_or.1 hblank
      by_cases hmem : '=' ∈ strTrim line
      · obtain ⟨key, text, hsplit, hkey⟩ := exists_split hmem
        rw [splitKv_of_split hne hhash hsplit hkey] at h
        obtain ⟨hk, hv⟩ := Prod.mk.inj (Option.some.inj h)
        exact ⟨hne, hhash, key, text, hsplit, hkey, he, hk.symm, hv.symm⟩
      · simp [splitKv, hblank, hmem] at h

/-! ## The law -/

/-- when `config_load` is to fail -/
def Fails (K : Type) [Arith K] (fopen getenv : CStr → Option CStr) (path : Option CStr) : Prop :=
  (∃ p, path = some p ∧ fopen p = none) ∨
  (∃ line ∈ linesOf fopen path, ∃ e val, Assigns line e val ∧ convert (K := K) e.field val = none) ∨
  ∃ e ∈ cfgTable, ∃ val, getenv (envVar e) = some val ∧ convert (K := K) e.field val = none

/-- what the field of the row `e` is to hold -/
structure Holds (fopen getenv : CStr → Option CStr) (path : Option CStr) (cfg : GpuConfig (Dbl K)) (e : CfgEntry) :
    Prop where
  variable_set : ∀ val, getenv (envVar e) = some val → convert e.field val = some (fieldOf cfg e.field)
  last_line : getenv (envVar e) = none → ∀ pre line post val, linesOf fopen path = pre ++ line :: post →
    Assigns line e val → (∀ later ∈ post, ∀ val', ¬ Assigns later e val') →
      convert e.field val = some (fieldOf cfg e.field)
  default : getenv (envVar e) = none → (∀ line ∈ linesOf fopen path, ∀ val, ¬ Assigns line e val) →
    fieldOf cfg e.field = fieldOf cfgDefaults e.field

theorem fails_iff (fopen getenv : CStr → Option CStr) (path : Option CStr) :
    Fails K fopen getenv path ↔ Unopened fopen path ∨ RejectedLine K fopen path ∨ RejectedVar K getenv := by
  have hline : (∃ line ∈ linesOf fopen path, ∃ e val, Assigns line e val ∧ convert (K := K) e.field val = none) ↔
      RejectedLine K fopen path := by
    constructor
    · intro h
      obtain ⟨line, hl, e, val, hassign, hbad⟩ := h
      have he : e ∈ cfgTable := by
        obtain ⟨-, -, _, _, -, -, he, -⟩ := hassign
        exact he
      exact ⟨line, hl, e, he, val, (assigns_iff he).1 hassign, hbad⟩
    · intro h
      obtain ⟨line, hl, e, he, val, htext, hbad⟩ := h
      exact ⟨line, hl, e, val, (assigns_iff he).2 htext, hbad⟩
  unfold Fails
  rw [hline]
  exact Iff.rfl

/-- the last text of a row -/
theorem lineText_last {e : CfgEntry} (he : e ∈ cfgTable) {lines pre post : List CStr} {line val : CStr}
    (hlines : lines = pre ++ line :: post) (hval : Assigns line e val)
    (hpost : ∀ later ∈ post, ∀ val', ¬ Assigns later e val') : (lines.filterMap (lineText e)).getLast? = some val := by
  have hnone : post.filterMap (lineText e) = [] := by
    rw [List.filterMap_eq_nil_iff]
    intro later hlater
    cases htext : lineText e later with
    | none => rfl
    | some val' => exact absurd ((assigns_iff he).2 htext) (hpost later hlater val')
  rw [hlines, List.filterMap_append, List.filterMap_cons_some ((assigns_iff he).1 hval), hnone]
  simp

theorem holds_of_load {fopen getenv : CStr → Option CStr} {path : Option CStr} {cfg : GpuConfig (Dbl K)}
    (h : configLoad fopen getenv path = some cfg) {e : CfgEntry} (he : e ∈ cfgTable) :
    Holds fopen getenv path cfg e := by
  have hwritten := configLoad_written h he
  unfold effectiveText at hwritten
  refine ⟨?_, ?_, ?_⟩
  · intro val hval
    rw [hval, Option.some_or] at hwritten
    exact hwritten
  · intro hunset pre line post val hlines hassign hpost
    rw [hunset, Option.none_or, lineText_last he hlines hassign hpost] at hwritten
    exact hwritten
  · intro hunset hnever
    have hnone : (linesOf fopen path).filterMap (lineText e) = [] := by
      rw [List.filterMap_eq_nil_iff]
      intro line hline
      cases htext : lineText e line with
      | none => rfl
      | some val => exact absurd ((assigns_iff he).2 htext) (hnever line hline val)
    rw [hunset, hnone] at hwritten
    exact hwritten

/-- **Precedence and failure.** -/
theorem load_law (fopen getenv : CStr → Option CStr) (path : Option CStr) :
    ((configLoad fopen getenv path : Option (GpuConfig (Dbl K))) = none ↔ Fails K fopen getenv path) ∧
    ∀ cfg : GpuConfig (Dbl K), configLoad fopen getenv path = some cfg →
      ∀ slot, ∃ e ∈ cfgTable, e.field.slot = slot ∧ Holds fopen getenv path cfg e := by
  constructor
  · rw [configLoad_eq_none, fails_iff]
  · intro cfg h slot
    obtain ⟨e, he, hslot⟩ := cfgTable_covers slot
    exact ⟨e, he, hslot, holds_of_load h he⟩

/-- the poll interval of the small config comes from its file -/
theorem load_law_small : ∃ e ∈ cfgTable, e.field.slot = .int .pollIntervalS ∧
    Holds (fun _ => some smallFile) (fun _ => none) (some []) (smallConfig.toDbl : GpuConfig (Dbl ℚ)) e :=
  (load_law (fun _ => some smallFile) (fun _ => none) (some [])).2 _ smallConfig_load (.int .pollIntervalS)

end GpuHealth.ConfigPrecedence
