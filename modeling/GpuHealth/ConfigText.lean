/-
What `config_load` makes of its texts, row by row.

`lineText e line` is the value text the line gives the row `e` of `cfg_table`, `effectiveText` the text that decides
the row's field: the environment variable if it is set, else the last line with the row's key. `convert` is what
`apply_entry` makes of a text, `fieldOf` the field of a config.

`configLoad_eq_none`: loading fails exactly when the file cannot be opened, or some line or variable has a text its row
rejects. `configLoad_written`: else the field of every row holds its converted effective text, or the default.
-/
import GpuHealth.Config
import GpuHealth.Core.LastWrite

namespace GpuHealth.ConfigText

open GpuHealth.CText GpuHealth.Config GpuHealth.LastWrite

variable {K : Type} [Arith K]

/-! ## Texts and values -/

inductive CfgValue (K : Type) where
  | int (v : ℤ)
  | dbl (v : Dbl K)
  | str (s : CStr)
deriving DecidableEq, Repr

def convert : CfgField → CStr → Option (CfgValue K)
  | .int _ min max, val => (parseInt val min max).map .int
  | .dbl _ min max, val => (parseDouble val min max).map fun v => .dbl v.ofRat
  | .str _ maxlen, val => some (.str (safeStrncpy val maxlen))

def fieldOf (cfg : GpuConfig (Dbl K)) : CfgField → CfgValue K
  | .int k _ _ => .int (cfg.int k)
  | .dbl k _ _ => .dbl (cfg.dbl k)
  | .str k _ => .str (cfg.str k)

/-- a value of ℚ in `K` -/
def CfgValue.ofRat : CfgValue ℚ → CfgValue K
  | .int v => .int v
  | .dbl v => .dbl v.ofRat
  | .str s => .str s

theorem CfgValue.ofRat_injective : Function.Injective (CfgValue.ofRat : CfgValue ℚ → CfgValue K) := by
  intro a b h
  cases a <;> cases b <;> simp only [CfgValue.ofRat, CfgValue.int.injEq, CfgValue.str.injEq, CfgValue.dbl.injEq,
    reduceCtorEq] at h
  · rw [h]
  · rw [Dbl.ofRat_injective h]
  · rw [h]

theorem convert_ofRat (f : CfgField) (t : CStr) :
    convert (K := K) f t = (convert (K := ℚ) f t).map CfgValue.ofRat := by
  cases f with
  | int k min max => simp [convert, Function.comp_def, CfgValue.ofRat]
  | dbl k min max => simp [convert, Function.comp_def, CfgValue.ofRat]
  | str k maxlen => rfl

theorem fieldOf_defaults (f : CfgField) :
    fieldOf (cfgDefaults : GpuConfig (Dbl K)) f = CfgValue.ofRat (fieldOf (cfgDefaults : GpuConfig (Dbl ℚ)) f) := by
  cases f <;> simp [fieldOf, cfgDefaults, defaults, CfgValue.ofRat, Dbl.ofRat]

/-- the lines `fgets` delivers -/
def linesOf (fopen : CStr → Option CStr) (path : Option CStr) : List CStr :=
  match path.bind fopen with
  | some file => fgetsLines 1024 file
  | none => []

/-- GPU_HEALTH_<KEY> -/
def envVar (e : CfgEntry) : CStr := "GPU_HEALTH_".toList ++ e.key.map Char.toUpper

def lineText (e : CfgEntry) (line : CStr) : Option CStr :=
  (splitKv line).bind fun kv => if kv.1 = e.key then some kv.2 else none

def effectiveText (fopen getenv : CStr → Option CStr) (path : Option CStr) (e : CfgEntry) : Option CStr :=
  (getenv (envVar e)).or ((linesOf fopen path).filterMap (lineText e)).getLast?

/-! ## The table -/

theorem cfgTable_keys_nodup : (cfgTable.map fun e => e.key).Nodup := by
  have hstrings : (cfgTable.map fun e => String.ofList e.key).Nodup := by
    simp only [cfgTable, List.map_cons, List.map_nil, String.ofList_toList]
    simp
  refine List.Nodup.of_map String.ofList ?_
  rwa [List.map_map]

theorem eq_of_key_eq {e e' : CfgEntry} (he : e ∈ cfgTable) (he' : e' ∈ cfgTable) (h : e.key = e'.key) : e = e' :=
  List.inj_on_of_nodup_map cfgTable_keys_nodup he he' h

/-- every field of the config has a row -/
theorem cfgTable_covers (k : CfgSlot) : ∃ e ∈ cfgTable, e.field.slot = k := by
  have hall : ∀ k ∈ cfgTable.map fun e => e.field.slot, ∃ e ∈ cfgTable, e.field.slot = k := by
    intro k hk
    exact List.mem_map.1 hk
  cases k with
  | int k => cases k <;> exact hall _ (by decide +kernel)
  | dbl k => cases k <;> exact hall _ (by decide +kernel)
  | str k => cases k <;> exact hall _ (by decide +kernel)

/-- the row of a double -/
theorem cfgTable_dbl (k : DblKey) : ∃ e ∈ cfgTable, ∃ min max, e.field = .dbl k min max := by
  obtain ⟨e, he, hslot⟩ := cfgTable_covers (.dbl k)
  cases hf : e.field with
  | int k' min max => simp [hf, CfgField.slot] at hslot
  | str k' maxlen => simp [hf, CfgField.slot] at hslot
  | dbl k' min max =>
    obtain rfl : k' = k := by simpa [hf, CfgField.slot] using hslot
    exact ⟨e, he, min, max, hf⟩

/-- a bound on a text's length, read off its characters -/
theorem length_ofList {l : List Char} {n : ℕ} (h : l.length ≤ n) : (String.ofList l).toList.length ≤ n := by
  rwa [String.toList_ofList]

theorem cfgTable_key_length : ∀ e ∈ cfgTable, e.key.length ≤ 100 := by
  simp only [cfgTable, List.forall_mem_cons]
  repeat' refine And.intro (length_ofList ?_) ?_
  all_goals decide

/-- the buffer of 128 bytes holds every variable's name -/
theorem keyToEnvvar_eq {e : CfgEntry} (he : e ∈ cfgTable) : keyToEnvvar e.key 128 = envVar e := by
  have hfront : "GPU_HEALTH_".toList.length = 11 := by decide
  have hroom : ¬ 128 ≤ "GPU_HEALTH_".length := by decide
  have hlen : ("GPU_HEALTH_".toList ++ e.key.map Char.toUpper).length ≤ 127 := by
    have hkey := cfgTable_key_length e he
    rw [List.length_append, List.length_map, hfront]
    omega
  exact (if_neg hroom).trans (List.take_of_length_le hlen)

theorem findEntry_eq_some {key : CStr} {e : CfgEntry} : findEntry key = some e ↔ e ∈ cfgTable ∧ e.key = key := by
  constructor
  · intro h
    refine ⟨List.mem_of_find?_eq_some h, ?_⟩
    simpa using List.find?_some h
  · intro h
    obtain ⟨he, hkey⟩ := h
    cases hfind : findEntry key with
    | none =>
      have hno := List.find?_eq_none.1 hfind e he
      exact absurd hkey (by simpa using hno)
    | some e' =>
      have hkey' : e'.key = key := by simpa using List.find?_some hfind
      rw [eq_of_key_eq he (List.mem_of_find?_eq_some hfind) (hkey.trans hkey'.symm)]

/-! ## One write -/

theorem applyEntry_eq_none (cfg : GpuConfig (Dbl K)) (e : CfgEntry) (val : CStr) :
    applyEntry cfg e val = none ↔ convert (K := K) e.field val = none := by
  unfold applyEntry convert
  cases e.field <;> simp

theorem applyEntry_self {cfg cfg' : GpuConfig (Dbl K)} {e : CfgEntry} {val : CStr} (h : applyEntry cfg e val = some cfg') :
    convert e.field val = some (fieldOf cfg' e.field) := by
  unfold applyEntry at h
  cases hf : e.field with
  | int k min max =>
    rw [hf] at h
    obtain ⟨v, hv, rfl⟩ := Option.map_eq_some_iff.1 h
    simp [convert, fieldOf, hv]
  | dbl k min max =>
    rw [hf] at h
    obtain ⟨v, hv, rfl⟩ := Option.map_eq_some_iff.1 h
    simp [convert, fieldOf, hv]
  | str k maxlen =>
    rw [hf] at h
    obtain rfl := Option.some.inj h
    simp [convert, fieldOf]

theorem applyEntry_other {cfg cfg' : GpuConfig (Dbl K)} {e : CfgEntry} {val : CStr} {f : CfgField}
    (hne : f.slot ≠ e.field.slot) (h : applyEntry cfg e val = some cfg') : fieldOf cfg' f = fieldOf cfg f := by
  unfold applyEntry at h
  cases he : e.field with
  | int k min max =>
    rw [he] at h hne
    obtain ⟨v, -, rfl⟩ := Option.map_eq_some_iff.1 h
    cases f <;> simp_all [fieldOf, CfgField.slot]
  | dbl k min max =>
    rw [he] at h hne
    obtain ⟨v, -, rfl⟩ := Option.map_eq_some_iff.1 h
    cases f <;> simp_all [fieldOf, CfgField.slot]
  | str k maxlen =>
    rw [he] at h hne
    obtain rfl := Option.some.inj h
    cases f <;> simp_all [fieldOf, CfgField.slot]

/-- a write to the row `e'`, seen from the row `e` -/
theorem applyEntry_written {cfg cfg' : GpuConfig (Dbl K)} {e e' : CfgEntry} {val : CStr} (he : e ∈ cfgTable)
    (he' : e' ∈ cfgTable) (h : applyEntry cfg e' val = some cfg') :
    Written (convert e.field) (if e'.key = e.key then some val else none) (fieldOf cfg e.field) (fieldOf cfg' e.field) := by
  by_cases hkey : e'.key = e.key
  · rw [if_pos hkey, ← eq_of_key_eq he' he hkey]
    exact applyEntry_self h
  · rw [if_neg hkey]
    refine applyEntry_other ?_ h
    intro hslot
    exact hkey (by rw [eq_of_slot_eq he he' hslot])

/-! ## One line, one variable -/

theorem lineText_eq_some {e : CfgEntry} {line val : CStr} :
    lineText e line = some val ↔ splitKv line = some (e.key, val) := by
  unfold lineText
  constructor
  · intro h
    obtain ⟨kv, hkv, hval⟩ := Option.bind_eq_some_iff.1 h
    split_ifs at hval with hkey
    rw [hkv, ← hkey, ← Option.some.inj hval]
  · intro h
    simp [h]

theorem applyLine_eq_none (cfg : GpuConfig (Dbl K)) (line : CStr) :
    applyLine cfg line = none ↔
      ∃ e ∈ cfgTable, ∃ val, lineText e line = some val ∧ convert (K := K) e.field val = none := by
  simp only [lineText_eq_some]
  unfold applyLine
  cases hkv : splitKv line with
  | none => simp
  | some kv =>
    dsimp only
    cases hfind : findEntry kv.1 with
    | none =>
      simp only [reduceCtorEq, false_iff, not_exists, not_and]
      intro e he val hval
      have hkey : kv.1 = e.key := congrArg Prod.fst (Option.some.inj hval)
      rw [hkey, findEntry_eq_some.2 ⟨he, rfl⟩] at hfind
      exact absurd hfind (by simp)
    | some e =>
      obtain ⟨he, hkey⟩ := findEntry_eq_some.1 hfind
      simp only [applyEntry_eq_none]
      constructor
      · intro hbad
        exact ⟨e, he, kv.2, by rw [hkey], hbad⟩
      · intro hbad
        obtain ⟨e', he', val, hval, hconv⟩ := hbad
        have heq : e' = e := eq_of_key_eq he' he (by rw [hkey]; exact (congrArg Prod.fst (Option.some.inj hval)).symm)
        rw [← heq, congrArg Prod.snd (Option.some.inj hval)]
        exact hconv

theorem applyLine_written {cfg cfg' : GpuConfig (Dbl K)} {line : CStr} {e : CfgEntry} (he : e ∈ cfgTable)
    (h : applyLine cfg line = some cfg') :
    Written (convert e.field) (lineText e line) (fieldOf cfg e.field) (fieldOf cfg' e.field) := by
  unfold applyLine at h
  unfold lineText
  cases hkv : splitKv line with
  | none =>
    rw [hkv] at h
    rw [← Option.some.inj h]
    rfl
  | some kv =>
    rw [hkv] at h
    dsimp only at h
    cases hfind : findEntry kv.1 with
    | none =>
      rw [hfind] at h
      have hkey : kv.1 ≠ e.key := by
        intro hkey
        rw [hkey, findEntry_eq_some.2 ⟨he, rfl⟩] at hfind
        exact absurd hfind (by simp)
      rw [← Option.some.inj h, Option.bind_some, if_neg hkey]
      rfl
    | some e' =>
      rw [hfind] at h
      obtain ⟨he', hkey⟩ := findEntry_eq_some.1 hfind
      rw [Option.bind_some, ← hkey]
      exact applyEntry_written he he' h

theorem applyEnv_eq_none (getenv : CStr → Option CStr) (cfg : GpuConfig (Dbl K)) {e : CfgEntry} (he : e ∈ cfgTable) :
    applyEnv getenv cfg e = none ↔ ∃ val, getenv (envVar e) = some val ∧ convert (K := K) e.field val = none := by
  unfold applyEnv
  rw [keyToEnvvar_eq he]
  cases getenv (envVar e) with
  | none => simp
  | some val => simp [applyEntry_eq_none]

theorem applyEnv_written {getenv : CStr → Option CStr} {cfg cfg' : GpuConfig (Dbl K)} {e e' : CfgEntry}
    (he : e ∈ cfgTable) (he' : e' ∈ cfgTable) (h : applyEnv getenv cfg e' = some cfg') :
    Written (convert e.field) (if e'.key = e.key then getenv (envVar e) else none) (fieldOf cfg e.field)
      (fieldOf cfg' e.field) := by
  unfold applyEnv at h
  rw [keyToEnvvar_eq he'] at h
  cases hval : getenv (envVar e') with
  | none =>
    rw [hval] at h
    have hnone : (if e'.key = e.key then getenv (envVar e) else none) = none := by
      split_ifs with hkey
      · rw [← eq_of_key_eq he' he hkey, hval]
      · rfl
    rw [hnone, ← Option.some.inj h]
    rfl
  | some val =>
    rw [hval] at h
    have hwrite := applyEntry_written he he' h
    by_cases hkey : e'.key = e.key
    · rw [if_pos hkey] at hwrite
      rw [if_pos hkey, ← eq_of_key_eq he' he hkey, hval, eq_of_key_eq he' he hkey]
      exact hwrite
    · rw [if_neg hkey] at hwrite ⊢
      exact hwrite

/-! ## The whole load -/

/-- the file is given and cannot be opened -/
def Unopened (fopen : CStr → Option CStr) (path : Option CStr) : Prop := ∃ p, path = some p ∧ fopen p = none

theorem configFile_eq (fopen : CStr → Option CStr) (path : Option CStr) (h : ¬ Unopened fopen path) :
    configFile fopen path = (linesOf fopen path).foldlM applyLine (cfgDefaults : GpuConfig (Dbl K)) := by
  cases path with
  | none => rfl
  | some p =>
    cases hfile : fopen p with
    | none => exact absurd ⟨p, rfl, hfile⟩ h
    | some file => simp [configFile, linesOf, hfile]

theorem configLoad_unopened {fopen : CStr → Option CStr} {path : Option CStr} (h : Unopened fopen path)
    (getenv : CStr → Option CStr) : (configLoad fopen getenv path : Option (GpuConfig (Dbl K))) = none := by
  obtain ⟨p, rfl, hfile⟩ := h
  simp [configLoad, configFile, hfile]

/-- a text the row `e` rejects, in the file or in the environment -/
def RejectedLine (K : Type) [Arith K] (fopen : CStr → Option CStr) (path : Option CStr) : Prop :=
  ∃ line ∈ linesOf fopen path, ∃ e ∈ cfgTable, ∃ val, lineText e line = some val ∧ convert (K := K) e.field val = none

def RejectedVar (K : Type) [Arith K] (getenv : CStr → Option CStr) : Prop :=
  ∃ e ∈ cfgTable, ∃ val, getenv (envVar e) = some val ∧ convert (K := K) e.field val = none

theorem configFile_eq_none (fopen : CStr → Option CStr) (path : Option CStr) (h : ¬ Unopened fopen path) :
    (configFile fopen path : Option (GpuConfig (Dbl K))) = none ↔ RejectedLine K fopen path := by
  rw [configFile_eq fopen path h]
  exact foldlM_eq_none (fun cfg line _ => applyLine_eq_none cfg line) _

theorem environment_eq_none (getenv : CStr → Option CStr) (cfg : GpuConfig (Dbl K)) :
    cfgTable.foldlM (applyEnv getenv) cfg = none ↔ RejectedVar K getenv :=
  foldlM_eq_none (fun cfg e he => applyEnv_eq_none getenv cfg (e := e) he) cfg

/-- **When loading fails.** -/
theorem configLoad_eq_none (fopen getenv : CStr → Option CStr) (path : Option CStr) :
    (configLoad fopen getenv path : Option (GpuConfig (Dbl K))) = none ↔
      Unopened fopen path ∨ RejectedLine K fopen path ∨ RejectedVar K getenv := by
  by_cases hopen : Unopened fopen path
  · exact iff_of_true (configLoad_unopened hopen getenv) (Or.inl hopen)
  · rw [configLoad, Option.bind_eq_none_iff, ← configFile_eq_none fopen path hopen]
    cases hparsed : (configFile fopen path : Option (GpuConfig (Dbl K))) with
    | none => simp
    | some parsed => simp [environment_eq_none, hopen]

/-- the variable of a row is looked up once -/
theorem environment_text (getenv : CStr → Option CStr) {e : CfgEntry} (he : e ∈ cfgTable) :
    (cfgTable.filterMap fun e' => if e'.key = e.key then getenv (envVar e) else none).getLast? = getenv (envVar e) := by
  cases hval : getenv (envVar e) with
  | none => simp
  | some val =>
    have hne : (cfgTable.filterMap fun e' => if e'.key = e.key then some val else none) ≠ [] := by
      apply List.ne_nil_of_mem (a := val)
      exact List.mem_filterMap.2 ⟨e, he, if_pos rfl⟩
    rw [List.getLast?_eq_some_getLast hne, Option.some.injEq]
    obtain ⟨e', -, he'⟩ := List.mem_filterMap.1 (List.getLast_mem hne)
    split_ifs at he' with hkey
    exact (Option.some.inj he').symm

/-- **What a loaded config holds**: the converted effective text of every row, or the default. -/
theorem configLoad_written {fopen getenv : CStr → Option CStr} {path : Option CStr} {cfg : GpuConfig (Dbl K)}
    (h : configLoad fopen getenv path = some cfg) {e : CfgEntry} (he : e ∈ cfgTable) :
    Written (convert e.field) (effectiveText fopen getenv path e) (fieldOf cfgDefaults e.field) (fieldOf cfg e.field) := by
  have hopen : ¬ Unopened fopen path := by
    intro hopen
    rw [configLoad_unopened hopen] at h
    exact absurd h (by simp)
  obtain ⟨parsed, hparsed, henv⟩ := Option.bind_eq_some_iff.1 h
  rw [configFile_eq fopen path hopen] at hparsed
  have hlines := foldlM_written (fun cfg => fieldOf cfg e.field)
    (fun _ _ _ _ hstep => applyLine_written he hstep) hparsed
  have hvars := foldlM_written (fun cfg => fieldOf cfg e.field)
    (fun _ _ _ he' hstep => applyEnv_written he he' hstep) henv
  rw [environment_text getenv he] at hvars
  unfold effectiveText
  cases hval : getenv (envVar e) with
  | some val =>
    rw [hval] at hvars
    exact hvars
  | none =>
    rw [hval] at hvars
    have hsame : fieldOf cfg e.field = fieldOf parsed e.field := hvars
    rw [hsame, Option.none_or]
    exact hlines

end GpuHealth.ConfigText
