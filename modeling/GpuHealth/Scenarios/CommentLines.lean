/-
Comment lines in the files that are read with `fgets`.

The property: inserting a line whose first non-blank character is '#', of any length and between any two lines, changes
neither what `config_load` makes of a config file nor what `baseline_load` and `probe_load` make of theirs. It fails:
`fgets` hands out a line that is longer than its buffer in pieces of 1023 (511) bytes, each piece is parsed as a line
of its own, and a later piece can be a setting (`comment_sets_interval`).

`comments_iff`: for every comment line, each loader is unaffected by it, in every file and at every position, if and
only if no piece of it is a setting the loader heeds: one of a known key, and in a probe file not a sample_count or
probe_duration_s whose text is rejected. A comment that fits the buffer has one piece and meets all three
(`short_comment_inert`).

That a piece with a setting does change something is shown on files of one setting: whatever the last text of the key
is, it differs from what one of them holds; a rejected text spoils a complete file.
-/
import GpuHealth.ConfigText
import GpuHealth.Scenarios.BaselineAcceptance
import GpuHealth.Scenarios.ProbeRoundTrip

namespace GpuHealth.CommentLines

open GpuHealth.CText GpuHealth.Config GpuHealth.ConfigText GpuHealth.State GpuHealth.StateText GpuHealth.Settings
open GpuHealth.LastWrite GpuHealth.BaselineAcceptance
open GpuHealth.ProbeRoundTrip (Plain KeyText Solid plain_of_solid keyLine_whole splitKv_written baselineName_keyText
  probeName_keyText)

variable {K : Type} [Arith K]

/-! ## The property -/

/-- a line of a file, without its newline, whose first non-blank character is '#' -/
structure Comment where
  text : CStr
  line : '\n' ∉ text
  hash : (text.dropWhile isspace).head? = some '#'

/-- the comment between two parts of a file -/
def Comment.between (c : Comment) (before after : CStr) : CStr := before ++ (c.text ++ ['\n'] ++ after)

/-- what `fgets` delivers of it -/
def Comment.pieces (c : Comment) (size : ℕ) : List CStr := fgetsLines size (c.text ++ ['\n'])

def ConfigUnaffected (K : Type) [Arith K] (c : Comment) : Prop :=
  ∀ before after path getenv, AtLineEnd before →
    (configLoad (fun _ => some (c.between before after)) getenv (some path) : Option (GpuConfig (Dbl K))) =
      configLoad (fun _ => some (before ++ after)) getenv (some path)

def BaselineUnaffected (K : Type) [Arith K] (c : Comment) : Prop :=
  ∀ before after serial, AtLineEnd before →
    (baselineLoad (some (c.between before after)) serial : GpuBaseline K) = baselineLoad (some (before ++ after)) serial

def ProbeUnaffected (K : Type) [Arith K] (c : Comment) : Prop :=
  ∀ before after ttl now, AtLineEnd before →
    (probeLoad (some (c.between before after)) ttl now : GpuProbeResult K) =
      probeLoad (some (before ++ after)) ttl now

/-- no piece assigns a key of the config table -/
def ConfigInert (c : Comment) : Prop := ∀ piece ∈ c.pieces 1024, ∀ e ∈ cfgTable, lineText e piece = none

/-- no piece has a key of a baseline file -/
def BaselineInert (c : Comment) : Prop := ∀ piece ∈ c.pieces 512, baselineSetting piece = none

/-- no piece has a key of a probe file, but for a count or a duration whose text is rejected -/
def ProbeInert (c : Comment) : Prop :=
  ∀ piece ∈ c.pieces 512, ∀ key text, probeSetting piece = some (key, text) →
    key = .sampleCount ∧ parseInt text 0 1000000 = none ∨ key = .probeDurationS ∧ parseDouble text 0 86400 = none

/-! ## Lines of the file with the comment -/

theorem lines_between (c : Comment) (size : ℕ) {before : CStr} (h : AtLineEnd before) (after : CStr) :
    fgetsLines size (c.between before after) = fgetsLines size before ++ (c.pieces size ++ fgetsLines size after) := by
  rw [Comment.between, fgetsLines_append size h, fgetsLines_append size (Or.inr ⟨c.text, rfl⟩)]
  rfl

/-- what the lines of a file with the comment at its end are made into -/
theorem filterMap_between {α : Type} (c : Comment) (size : ℕ) {file : CStr} (h : AtLineEnd file) (f : CStr → Option α) :
    (fgetsLines size (c.between file [])).filterMap f =
      (fgetsLines size file).filterMap f ++ (c.pieces size).filterMap f := by
  rw [lines_between c size h, List.filterMap_append, List.filterMap_append]
  simp [fgetsLines, fgetsLines.go]

/-- a loop that the pieces leave alone does what it does without them -/
theorem foldl_between {σ : Type} (c : Comment) (size : ℕ) {before : CStr} (h : AtLineEnd before) (after : CStr)
    {step : σ → CStr → σ} (hskip : ∀ s, (c.pieces size).foldl step s = s) (s : σ) :
    (fgetsLines size (c.between before after)).foldl step s = (fgetsLines size (before ++ after)).foldl step s := by
  rw [lines_between c size h, fgetsLines_append size h, List.foldl_append, List.foldl_append, List.foldl_append, hskip]

/-! ## Files of one line -/

/-- a line of the row with the text -/
def rowLine (key text : CStr) : CStr := key ++ '=' :: text ++ ['\n']

/-- it is read whole, and split where it was put together -/
theorem rowLine_read {key text : CStr} (hkey : KeyText key) (htext : Plain 400 text) {size : ℕ} (hsize : 512 ≤ size) :
    fgetsLines size (rowLine key text) = [rowLine key text] ∧ splitKv (rowLine key text) = some (key, text) := by
  have hlines := fgetsLines_whole ((keyLine_whole hkey htext).mono hsize) []
  rw [List.append_nil] at hlines
  exact ⟨hlines, splitKv_written hkey htext⟩

theorem rowLine_settings {κ : Type} {name : κ → CStr} {setting : CStr → Option (κ × CStr)}
    (hset : ∀ line k t, splitKv line = some (name k, t) → setting line = some (k, t)) {k : κ} (hkey : KeyText (name k))
    {text : CStr} (htext : Plain 400 text) :
    (fgetsLines 512 (rowLine (name k) text)).filterMap setting = [(k, text)] := by
  obtain ⟨hlines, hsplit⟩ := rowLine_read hkey htext le_rfl
  rw [hlines, List.filterMap_cons_some (hset _ _ _ hsplit), List.filterMap_nil]

/-- texts that a key can have, and other ones -/
def twoTexts : List (CStr × CStr) :=
  [("1".toList, "2".toList), ("2026-03-15T14:22:00Z".toList, "2026-03-15T14:22:01Z".toList)]

theorem twoTexts_plain : ∀ p ∈ twoTexts, Plain 400 p.1 ∧ Plain 400 p.2 := by
  have hsolid : ∀ p ∈ twoTexts, (Solid p.1 ∧ p.1.length ≤ 400) ∧ (Solid p.2 ∧ p.2.length ≤ 400) := by decide +kernel
  intro p hp
  obtain ⟨⟨h₁, hlen₁⟩, h₂, hlen₂⟩ := hsolid p hp
  exact ⟨plain_of_solid h₁ hlen₁, plain_of_solid h₂ hlen₂⟩

/-! ## A config file -/

theorem keyText_ofList {l : List Char} (h : (Solid l ∧ l.length ≤ 100) ∧ l ≠ [] ∧ l.head? ≠ some '#' ∧ '=' ∉ l) :
    KeyText (String.ofList l).toList := by
  rw [String.toList_ofList]
  exact ⟨plain_of_solid h.1.1 h.1.2, h.2.1, h.2.2.1, h.2.2.2⟩

theorem cfgTable_keyText : ∀ e ∈ cfgTable, KeyText e.key := by
  simp only [cfgTable, List.forall_mem_cons]
  repeat refine And.intro (keyText_ofList (by decide)) ?_
  exact fun _ h => absurd h List.not_mem_nil

theorem applyLine_inert (cfg : GpuConfig (Dbl K)) {line : CStr} (h : ∀ e ∈ cfgTable, lineText e line = none) :
    applyLine cfg line = some cfg := by
  unfold applyLine
  cases hkv : splitKv line with
  | none => rfl
  | some kv =>
    dsimp only
    cases hfind : findEntry kv.1 with
    | none => rfl
    | some e =>
      obtain ⟨he, hkey⟩ := findEntry_eq_some.1 hfind
      have htext : lineText e line = some kv.2 := lineText_eq_some.2 (by rw [hkv, hkey])
      rw [h e he] at htext
      cases htext

theorem config_of_inert {c : Comment} (h : ConfigInert c) : ConfigUnaffected K c := by
  intro before after path getenv hbefore
  simp only [configLoad, configFile, Option.bind_some]
  rw [lines_between c 1024 hbefore, fgetsLines_append 1024 hbefore,
    foldlM_skip fun cfg piece hpiece => applyLine_inert cfg (h piece hpiece)]

/-- every row has a text that gives it a value other than its default -/
theorem exists_rowText : ∀ e ∈ cfgTable, ∃ t ∈ ["1".toList, "2".toList, "100".toList], Solid t ∧ t.length ≤ 400 ∧
    (convert (K := ℚ) e.field t).isSome = true ∧
    convert (K := ℚ) e.field t ≠ some (fieldOf cfgDefaults e.field) := by
  decide +kernel

/-- a config file of one line with it is loaded -/
theorem exists_otherFile {e : CfgEntry} (he : e ∈ cfgTable) : ∃ file cfg, AtLineEnd file ∧
    configLoad (fun _ => some file) (fun _ => none) (some []) = some (cfg : GpuConfig (Dbl K)) ∧
    fieldOf cfg e.field ≠ fieldOf cfgDefaults e.field := by
  obtain ⟨t, -, hsolid, hlen, hsome, hne⟩ := exists_rowText e he
  obtain ⟨hlines, hsplit⟩ := rowLine_read (cfgTable_keyText e he) (plain_of_solid hsolid hlen)
    (by norm_num : 512 ≤ 1024)
  obtain ⟨v, hv⟩ := Option.isSome_iff_exists.1 hsome
  have hconv : convert (K := K) e.field t = some (CfgValue.ofRat v) := by
    rw [convert_ofRat, hv, Option.map_some]
  obtain ⟨cfg, hcfg⟩ : ∃ cfg, applyEntry (cfgDefaults : GpuConfig (Dbl K)) e t = some cfg := by
    refine Option.ne_none_iff_exists'.1 fun hnone => ?_
    rw [applyEntry_eq_none, hconv] at hnone
    cases hnone
  have hline : applyLine (cfgDefaults : GpuConfig (Dbl K)) (rowLine e.key t) = some cfg := by
    simp only [applyLine, hsplit, findEntry_eq_some.2 ⟨he, rfl⟩, hcfg]
  refine ⟨rowLine e.key t, cfg, Or.inr ⟨_, rfl⟩, ?_, ?_⟩
  · simp only [configLoad, configFile, Option.bind_some, hlines, List.foldlM_cons, List.foldlM_nil, hline,
      applyEnv_empty, Option.bind_eq_bind, Option.pure_def]
  · intro heq
    have hfield := applyEntry_self hcfg
    rw [heq, convert_ofRat, hv, Option.map_some, fieldOf_defaults, Option.some.injEq] at hfield
    exact hne (by rw [hv, CfgValue.ofRat_injective hfield])

theorem defaults_loaded :
    (configLoad (fun _ => some []) (fun _ => none) (some []) : Option (GpuConfig (Dbl K))) = some cfgDefaults := by
  simp only [configLoad, configFile, Option.bind_some, fgetsLines, fgetsLines.go, List.map_nil, List.foldlM_nil,
    applyEnv_empty, if_true, Option.pure_def]

/-- the last text the comment assigns to a row ends up in the row's field, whatever the file before it -/
theorem field_of_unaffected {c : Comment} (h : ConfigUnaffected K c) {e : CfgEntry} (he : e ∈ cfgTable) {t : CStr}
    (ht : ((c.pieces 1024).filterMap (lineText e)).getLast? = some t) {file : CStr} (hfile : AtLineEnd file)
    {cfg : GpuConfig (Dbl K)} (hcfg : configLoad (fun _ => some file) (fun _ => none) (some []) = some cfg) :
    convert e.field t = some (fieldOf cfg e.field) := by
  have hload := h file [] [] (fun _ => none) hfile
  rw [List.append_nil, hcfg] at hload
  have hwritten := configLoad_written hload he
  have htext : effectiveText (fun _ => some (c.between file [])) (fun _ => none) (some []) e = some t := by
    simp only [effectiveText, linesOf, Option.none_or, Option.bind_some, filterMap_between c 1024 hfile,
      List.getLast?_append, ht, Option.some_or]
  rw [htext] at hwritten
  exact hwritten

theorem config_inert {c : Comment} (h : ConfigUnaffected K c) : ConfigInert c := by
  intro piece hpiece e he
  by_contra hassigns
  have hne : (c.pieces 1024).filterMap (lineText e) ≠ [] := by
    obtain ⟨t, ht⟩ := Option.ne_none_iff_exists'.1 hassigns
    exact List.ne_nil_of_mem (List.mem_filterMap.2 ⟨piece, hpiece, ht⟩)
  have hlast := List.getLast?_eq_some_getLast hne
  -- in the empty file the text comes out as the default, in another file as something else
  have hdefault := field_of_unaffected h he hlast (Or.inl rfl) defaults_loaded
  obtain ⟨file, cfg, hfile, hcfg, hother⟩ := exists_otherFile (K := K) he
  have hfield := field_of_unaffected h he hlast hfile hcfg
  exact hother (Option.some.inj (hfield.symm.trans hdefault))

/-! ## A baseline file -/

theorem baseline_of_inert {c : Comment} (h : BaselineInert c) : BaselineUnaffected K c := by
  intro before after serial hbefore
  have hidle : ∀ s ∈ (c.pieces 512).filterMap baselineSetting, (baselineRules K).Idle s := by
    intro s hs
    obtain ⟨piece, hpiece, hset⟩ := List.mem_filterMap.1 hs
    rw [h piece hpiece] at hset
    cases hset
  have hskip : ∀ s : BaselineScan K, (c.pieces 512).foldl baselineLine s = s :=
    fun s => baselineScanner_follows.foldl_idle hidle s
  have hscan : (baselineScan (c.between before after) : BaselineScan K) = baselineScan (before ++ after) :=
    foldl_between c 512 hbefore after hskip _
  simp only [baselineLoad, hscan]

theorem baseline_settings (c : Comment) {file : CStr} (hfile : AtLineEnd file) :
    baselineSettings (fgetsLines 512 (c.between file [])) =
      baselineSettings (fgetsLines 512 file) ++ baselineSettings (c.pieces 512) :=
  filterMap_between c 512 hfile baselineSetting

/-- every key has two texts of different values -/
theorem exists_baselineTexts : ∀ k ∈ [BaselineKey.serial, .uuid, .driverVersion, .perfWMean, .establishedAt, .workload,
    .sampleCount], ∃ p ∈ twoTexts, (baselineRules ℚ).conv k p.1 ≠ none ∧ (baselineRules ℚ).conv k p.2 ≠ none ∧
    (baselineRules ℚ).conv k p.1 ≠ (baselineRules ℚ).conv k p.2 := by
  decide +kernel

/-- the last value of the comment is the one the file had -/
theorem baseline_value {c : Comment} (h : BaselineUnaffected K c)
    (hclean : ¬ (baselineRules K).Refused (baselineSettings (c.pieces 512))) {k : BaselineKey} {v : StateValue K}
    (hv : (baselineRules K).value (baselineSettings (c.pieces 512)) k = some v) {t : CStr} (hplain : Plain 400 t)
    (ht : (baselineRules K).conv k t ≠ none) : (baselineRules K).conv k t = some v := by
  have hend : AtLineEnd (rowLine (baselineName k) t) := Or.inr ⟨_, rfl⟩
  have hset : baselineSettings (fgetsLines 512 (rowLine (baselineName k) t)) = [(k, t)] :=
    rowLine_settings (fun _ _ _ => baselineSetting_eq_some.2) (baselineName_keyText k) hplain
  have hone := baselineScan_reads (K := K) (rowLine (baselineName k) t)
  have htwo := baselineScan_reads (K := K) (c.between (rowLine (baselineName k) t) [])
  rw [hset] at hone
  rw [baseline_settings c hend, hset] at htwo
  have hsame := congrArg (fun b => baselineField b k) (h _ [] [] hend)
  simp only [List.append_nil, baselineLoad_field] at hsame
  exact hone.value_of_same htwo ht hclean hv hsame

/-- the device's own baseline is valid before the comment -/
theorem baseline_refused {c : Comment} (h : BaselineUnaffected K c) :
    ¬ (baselineRules K).Refused (baselineSettings (c.pieces 512)) := by
  intro hrefused
  have hsame := congrArg GpuBaseline.valid (h (baselineOf "1" "2") [] "1".toList ownBaseline_lineEnd)
  rw [List.append_nil, ownBaseline_valid] at hsame
  obtain ⟨hwell, -⟩ := (valid_iff _ _).1 hsame
  obtain ⟨herr, -⟩ := (wellFormed_iff (K := K) _).1 hwell
  have hread : (baselineScan (c.between (baselineOf "1" "2") []) : BaselineScan K).parseError = true ↔ _ :=
    (baselineScan_reads _).error
  rw [baseline_settings c ownBaseline_lineEnd, refused_append] at hread
  exact absurd (herr.symm.trans (hread.2 (Or.inr hrefused))) Bool.false_ne_true

theorem baseline_inert {c : Comment} (h : BaselineUnaffected K c) : BaselineInert c := by
  have hclean := baseline_refused h
  intro piece hpiece
  by_contra hset
  have hidle : ¬ ∀ s ∈ baselineSettings (c.pieces 512), (baselineRules K).Idle s := by
    intro hidle
    obtain ⟨s, hs⟩ := Option.ne_none_iff_exists'.1 hset
    exact absurd (hidle s (List.mem_filterMap.2 ⟨piece, hpiece, hs⟩)).1.symm Bool.false_ne_true
  rcases refused_or_value _ hidle with hrefused | ⟨k, v, hv⟩
  · exact hclean hrefused
  · obtain ⟨p, hp, h₁, h₂, hne⟩ := exists_baselineTexts k (by cases k <;> decide)
    obtain ⟨hplain₁, hplain₂⟩ := twoTexts_plain p hp
    have hsome : ∀ t, (baselineRules ℚ).conv k t ≠ none → (baselineRules K).conv k t ≠ none := by
      intro t ht
      rwa [baselineRules_ofRat, Ne, Option.map_eq_none_iff]
    have hfirst := baseline_value h hclean hv hplain₁ (hsome _ h₁)
    have hsecond := baseline_value h hclean hv hplain₂ (hsome _ h₂)
    rw [baselineRules_ofRat] at hfirst hsecond
    exact hne (Option.map_injective StateValue.ofRat_injective (hfirst.trans hsecond.symm))

/-! ## A probe file -/

theorem probeInert_iff (c : Comment) :
    ProbeInert c ↔ ∀ s ∈ probeSettings (c.pieces 512), (probeRules K).Idle s := by
  have hone : ∀ (key : ProbeKey) (text : CStr), (probeRules K).Idle (key, text) ↔
      (key = .sampleCount ∧ parseInt text 0 1000000 = none ∨ key = .probeDurationS ∧ parseDouble text 0 86400 = none) := by
    intro key text
    cases key <;> simp [Rules.Idle, probeRules]
  refine ⟨?_, ?_⟩
  · intro h s hs
    obtain ⟨piece, hpiece, hset⟩ := List.mem_filterMap.1 hs
    exact (hone s.1 s.2).2 (h piece hpiece s.1 s.2 hset)
  · intro h piece hpiece key text hset
    exact (hone key text).1 (h _ (List.mem_filterMap.2 ⟨piece, hpiece, hset⟩))

theorem probe_of_inert {c : Comment} (h : ProbeInert c) : ProbeUnaffected K c := by
  intro before after ttl now hbefore
  have hskip : ∀ s : ProbeScan K, (c.pieces 512).foldl probeLine s = s :=
    fun s => probeScanner_follows.foldl_idle ((probeInert_iff c).1 h) s
  have hscan : (probeScan (c.between before after) : ProbeScan K) = probeScan (before ++ after) :=
    foldl_between c 512 hbefore after hskip _
  simp only [probeLoad, hscan]

theorem probe_settings (c : Comment) {file : CStr} (hfile : AtLineEnd file) :
    probeSettings (fgetsLines 512 (c.between file [])) =
      probeSettings (fgetsLines 512 file) ++ probeSettings (c.pieces 512) :=
  filterMap_between c 512 hfile probeSetting

theorem exists_probeTexts : ∀ k ∈ [ProbeKey.serial, .perfWMean, .probeTimestamp, .probeExitCode, .workload,
    .sampleCount, .probeDurationS], ∃ p ∈ twoTexts, (probeRules ℚ).conv k p.1 ≠ none ∧
    (probeRules ℚ).conv k p.2 ≠ none ∧ (probeRules ℚ).conv k p.1 ≠ (probeRules ℚ).conv k p.2 := by
  decide +kernel

theorem probe_value {c : Comment} (h : ProbeUnaffected K c)
    (hclean : ¬ (probeRules K).Refused (probeSettings (c.pieces 512))) {k : ProbeKey} {v : StateValue K}
    (hv : (probeRules K).value (probeSettings (c.pieces 512)) k = some v) {t : CStr} (hplain : Plain 400 t)
    (ht : (probeRules K).conv k t ≠ none) : (probeRules K).conv k t = some v := by
  have hend : AtLineEnd (rowLine (probeName k) t) := Or.inr ⟨_, rfl⟩
  have hset : probeSettings (fgetsLines 512 (rowLine (probeName k) t)) = [(k, t)] :=
    rowLine_settings (fun _ _ _ => probeSetting_eq_some.2) (probeName_keyText k) hplain
  have hone := probeScan_reads (K := K) (rowLine (probeName k) t)
  have htwo := probeScan_reads (K := K) (c.between (rowLine (probeName k) t) [])
  rw [hset] at hone
  rw [probe_settings c hend, hset] at htwo
  have hsame := congrArg (fun p => probeField p k) (h _ [] 0 0 hend)
  simp only [List.append_nil, probeLoad_field] at hsame
  exact hone.value_of_same htwo ht hclean hv hsame

theorem probeRefused_rat (l : List (ProbeKey × CStr)) : (probeRules K).Refused l ↔ (probeRules ℚ).Refused l := by
  have hone : ∀ s : ProbeKey × CStr, (probeRules K).Refuses s ↔ (probeRules ℚ).Refuses s := by
    intro s
    rw [Rules.Refuses, probeRules_ofRat, Option.map_eq_none_iff]
    rfl
  simp only [Rules.Refused, hone]

/-- a complete probe result -/
def ownProbe : CStr :=
  "serial=1\nperf_w_mean=2\nprobe_timestamp=2026-03-15T14:22:00Z\nprobe_exit_code=0\n".toList

theorem ownProbe_lineEnd : AtLineEnd ownProbe := by
  refine Or.inr ⟨ownProbe.dropLast, ?_⟩
  decide +kernel

theorem ownProbe_accepted : (probeScan ownProbe : ProbeScan K).accepted = true := by
  have hrat : (probeScan ownProbe : ProbeScan ℚ).accepted = true := by decide +kernel
  rw [probeAccepted_iff] at hrat ⊢
  rwa [probeRefused_rat]

/-- it is available before the comment -/
theorem probe_refused {c : Comment} (h : ProbeUnaffected K c) :
    ¬ (probeRules K).Refused (probeSettings (c.pieces 512)) := by
  intro hrefused
  have hspoilt : ¬ (probeScan (c.between ownProbe []) : ProbeScan K).accepted = true := by
    rw [probeAccepted_iff, probe_settings c ownProbe_lineEnd, refused_append]
    exact fun hacc => hacc.1 (Or.inr hrefused)
  have hsame := congrArg GpuProbeResult.available (h ownProbe [] 0 0 ownProbe_lineEnd)
  rw [List.append_nil, probeLoad_eq, probeLoad_eq, if_neg hspoilt, if_pos ownProbe_accepted] at hsame
  exact absurd hsame zero_ne_one

theorem probe_inert {c : Comment} (h : ProbeUnaffected K c) : ProbeInert c := by
  have hclean := probe_refused h
  rw [probeInert_iff (K := K)]
  by_contra hidle
  rcases refused_or_value _ hidle with hrefused | ⟨k, v, hv⟩
  · exact hclean hrefused
  · obtain ⟨p, hp, h₁, h₂, hne⟩ := exists_probeTexts k (by cases k <;> decide)
    obtain ⟨hplain₁, hplain₂⟩ := twoTexts_plain p hp
    have hsome : ∀ t, (probeRules ℚ).conv k t ≠ none → (probeRules K).conv k t ≠ none := by
      intro t ht
      rwa [probeRules_ofRat, Ne, Option.map_eq_none_iff]
    have hfirst := probe_value h hclean hv hplain₁ (hsome _ h₁)
    have hsecond := probe_value h hclean hv hplain₂ (hsome _ h₂)
    rw [probeRules_ofRat] at hfirst hsecond
    exact hne (Option.map_injective StateValue.ofRat_injective (hfirst.trans hsecond.symm))

/-! ## The condition -/

/-- **When a comment has no effect.** On each kind of file: if and only if no piece of it is a setting the loader
heeds. -/
theorem comments_iff (c : Comment) :
    (ConfigUnaffected K c ↔ ConfigInert c) ∧ (BaselineUnaffected K c ↔ BaselineInert c) ∧
      (ProbeUnaffected K c ↔ ProbeInert c) :=
  ⟨⟨config_inert, config_of_inert⟩, ⟨baseline_inert, baseline_of_inert⟩, ⟨probe_inert, probe_of_inert⟩⟩

/-- the first character of a trimmed line is the first that is no blank -/
theorem splitKv_hash {blanks : CStr} (h : ∀ x ∈ blanks, isspace x = true) (rest : CStr) :
    splitKv (blanks ++ '#' :: rest) = none := by
  have htrim : strTrim (blanks ++ '#' :: rest) = ('#' :: rest).rdropWhile isspace := by
    rw [strTrim, List.dropWhile_append_of_pos h, List.dropWhile_cons_of_neg (by decide)]
  have hfront : strTrim (blanks ++ '#' :: rest) <+: '#' :: rest := by
    rw [htrim]
    exact List.rdropWhile_prefix isspace ('#' :: rest)
  unfold splitKv
  dsimp only
  cases hp : strTrim (blanks ++ '#' :: rest) with
  | nil => rw [if_pos (Or.inl rfl)]
  | cons x p =>
    rw [hp, List.cons_prefix_cons] at hfront
    rw [if_pos (Or.inr (by rw [List.head?_cons, hfront.1]))]

/-- a comment read in one piece is no setting, up to whatever NUL -/
theorem splitKv_comment (c : Comment) (rest : CStr) : splitKv ((c.text ++ rest).takeWhile (· ≠ '\x00')) = none := by
  obtain ⟨after, hafter⟩ := List.head?_eq_some_iff.1 c.hash
  have htext : c.text = c.text.takeWhile isspace ++ '#' :: after := by
    rw [← hafter, List.takeWhile_append_dropWhile]
  have hblank : ∀ x ∈ c.text.takeWhile isspace, isspace x = true := fun x hx => List.mem_takeWhile_imp hx
  have hnul : ∀ x ∈ c.text.takeWhile isspace, decide (x ≠ '\x00') = true := by
    intro x hx
    rw [decide_eq_true_eq]
    rintro rfl
    exact absurd (hblank _ hx) (by decide)
  rw [htext, List.append_assoc, List.cons_append, List.takeWhile_append_of_pos hnul,
    List.takeWhile_cons_of_pos (by decide)]
  exact splitKv_hash hblank _

theorem splitKv_short (c : Comment) {size : ℕ} (h : c.text.length + 2 ≤ size) :
    ∀ piece ∈ c.pieces size, splitKv piece = none := by
  intro piece hpiece
  rw [Comment.pieces, fgetsLines_short c.line h, List.mem_singleton] at hpiece
  rw [hpiece]
  exact splitKv_comment c _

/-- a comment that fits the buffer has no effect -/
theorem short_comment_inert (c : Comment) :
    (c.text.length + 2 ≤ 1024 → ConfigInert c) ∧ (c.text.length + 2 ≤ 512 → BaselineInert c ∧ ProbeInert c) := by
  refine ⟨?_, ?_⟩
  · intro hlen piece hpiece e _
    rw [lineText, splitKv_short c hlen piece hpiece]
    rfl
  · intro hlen
    refine ⟨?_, ?_⟩
    · intro piece hpiece
      rw [baselineSetting, splitKv_short c hlen piece hpiece, Option.bind_none]
    · intro piece hpiece key text hset
      rw [probeSetting, splitKv_short c hlen piece hpiece, Option.bind_none] at hset
      cases hset

/-! ## A long comment -/

/-- a '#', blanks up to the end of the buffer, and a setting -/
def longComment : Comment where
  text := '#' :: (List.replicate 1022 ' ' ++ "poll_interval_s = 60".toList)
  line := by
    rw [List.mem_cons, List.mem_append, List.mem_replicate]
    decide
  hash := by
    rw [List.dropWhile_cons_of_neg (by decide)]
    rfl

/-- In an empty config file the comment sets the poll interval, whose default is 1. -/
theorem comment_sets_interval :
    (configLoad (fun _ => some (longComment.between [] [])) (fun _ => none) (some []) :
      Option (GpuConfig (Dbl ℚ))).map (fun cfg => cfg.int .pollIntervalS) = some 60 ∧
    ¬ ConfigUnaffected ℚ longComment := by
  have hload : (configLoad (fun _ => some (longComment.between [] [])) (fun _ => none) (some []) :
      Option (GpuConfig (Dbl ℚ))).map (fun cfg => cfg.int .pollIntervalS) = some 60 := by
    decide +kernel
  refine ⟨hload, ?_⟩
  intro h
  rw [h [] [] [] (fun _ => none) (Or.inl rfl), List.append_nil, defaults_loaded, Option.map_some] at hload
  exact absurd (Option.some.inj hload) (by decide)

end GpuHealth.CommentLines
