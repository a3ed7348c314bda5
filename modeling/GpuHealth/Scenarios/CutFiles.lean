/-
What the exporter makes of a file of the probe program that is cut off.

The writers do not look at the results of `fprintf` and `fclose`, so a full disk leaves a beginning of the text.
- `probe_cut`: a probe result that is cut off anywhere is not available, or reads as the whole file (only the last
  newline is missing). Its last line is the exit code, which `probe_load` requires.
- `baseline_cut`: a baseline that is cut off is not valid, or reads as the whole file but for the number of samples: the
  last line is "sample_count=", and the first digits of a number are a number (`natText_part`).

`cut_settings` is what both rest on: a cut in front of the last value loses the last key.
-/
import GpuHealth.Scenarios.ProbeRoundTrip

namespace GpuHealth.CutFiles

open GpuHealth.Calendar GpuHealth.CText GpuHealth.Decimal GpuHealth.NumberText GpuHealth.ProbeWriter
open GpuHealth.ProbeRoundTrip
open GpuHealth.State GpuHealth.StateText GpuHealth.Settings

variable {K : Type} [Arith K]

/-! ## Lines -/

theorem fgetsLines_go_rest (size : ℕ) {part : CStr} (hpart : '\n' ∉ part) (cur : CStr)
    (hlen : cur.length + part.length + 2 ≤ size) (hne : cur.reverse ++ part ≠ []) :
    fgetsLines.go size cur part = [cur.reverse ++ part] := by
  induction part generalizing cur with
  | nil =>
    have hcur : cur ≠ [] := by simpa using hne
    rw [fgetsLines.go, if_neg hcur, List.append_nil]
  | cons c part ih =>
    rw [List.mem_cons, not_or] at hpart
    rw [List.length_cons] at hlen
    have hfits : ¬ (c = '\n' ∨ cur.length + 2 = size) := not_or.2 ⟨Ne.symm hpart.1, by omega⟩
    rw [fgetsLines.go, if_neg hfits, ih hpart.2 (c :: cur) (by rw [List.length_cons]; omega) (by simp)]
    simp

/-- the beginning of a line is read as it is -/
theorem fgetsLines_part {size : ℕ} {line part : CStr} (h : WholeLine size line) (hpart : part <+: line)
    (hne : part ≠ line) : fgetsLines size part = if part = [] then [] else [part] := by
  obtain ⟨text, rfl⟩ := List.getLast?_eq_some_iff.1 h.ended
  have hbefore : part <+: text := (List.prefix_concat_iff.1 hpart).resolve_left hne
  have hsingle : '\n' ∉ part := fun hmem => h.single (by simpa using hbefore.subset hmem)
  have hfits : part.length + 2 ≤ size := by
    have hlen := hbefore.length_le
    have hline := h.fits
    rw [List.length_append, List.length_singleton] at hline
    omega
  have hkept : part.takeWhile (· ≠ '\x00') = part := by
    refine List.takeWhile_eq_self_iff.2 fun c hc => ?_
    rw [decide_eq_true_eq]
    rintro rfl
    exact h.nul (hpart.subset hc)
  split_ifs with hnil
  · rw [hnil]
    rfl
  · rw [fgetsLines, fgetsLines_go_rest size hsingle [] (by rw [List.length_nil]; omega) (by simpa using hnil)]
    simpa using hkept

/-- **A file cut off** is whole lines, then the beginning of the next one. -/
theorem fgetsLines_cut {size : ℕ} {lines : List CStr} (h : ∀ l ∈ lines, WholeLine size l) {k : ℕ}
    (hk : k < lines.flatten.length) :
    ∃ before line after part, lines = before ++ line :: after ∧ part <+: line ∧ part ≠ line ∧
      fgetsLines size (lines.flatten.take k) = before ++ if part = [] then [] else [part] := by
  induction lines generalizing k with
  | nil => exact absurd hk (Nat.not_lt_zero _)
  | cons l lines ih =>
    have hl := h l List.mem_cons_self
    rw [List.flatten_cons] at hk ⊢
    by_cases hcut : k < l.length
    · have hne : l.take k ≠ l := by
        intro heq
        have hlen := congrArg List.length heq
        rw [List.length_take] at hlen
        omega
      refine ⟨[], l, lines, l.take k, rfl, List.take_prefix k l, hne, ?_⟩
      rw [List.take_append_of_le_length hcut.le]
      exact fgetsLines_part hl (List.take_prefix k l) hne
    · have hrest : k - l.length < lines.flatten.length := by
        rw [List.length_append] at hk
        omega
      obtain ⟨before, line, after, part, rfl, hpart, hne, hread⟩ := ih (fun m hm => h m (List.mem_cons_of_mem _ hm)) hrest
      refine ⟨l :: before, line, after, part, rfl, hpart, hne, ?_⟩
      rw [List.take_append, List.take_of_length_le (not_lt.1 hcut), fgetsLines_whole hl, hread]
      rfl

/-- trimming at the end stops at a character that is kept -/
theorem rdropWhile_stops {p : Char → Bool} {c : Char} (hc : p c = false) (a v : CStr) :
    (a ++ c :: v).rdropWhile p = a ++ c :: v.rdropWhile p := by
  induction v using List.reverseRecOn with
  | nil => exact List.rdropWhile_concat_neg p a c (by rw [hc]; exact Bool.false_ne_true)
  | append_singleton v d ih =>
    have hassoc : a ++ c :: (v ++ [d]) = a ++ c :: v ++ [d] := by simp
    rw [hassoc]
    by_cases hd : p d = true
    · rw [List.rdropWhile_concat_pos _ _ _ hd, List.rdropWhile_concat_pos _ _ _ hd, ih]
    · rw [List.rdropWhile_concat_neg _ _ _ hd, List.rdropWhile_concat_neg _ _ _ hd, hassoc]

theorem mem_strTrim {s : CStr} {c : Char} (h : c ∈ strTrim s) : c ∈ s :=
  (List.dropWhile_suffix _).subset ((List.rdropWhile_prefix _ _).subset h)

theorem splitKv_none {line : CStr} (h : '=' ∉ line) : splitKv line = none := by
  unfold splitKv
  dsimp only
  split_ifs with hnil hmem
  · rfl
  · exact absurd (mem_strTrim hmem) h
  · rfl

/-- the beginning of a line "key=val": no setting, or the key with a beginning of its value -/
theorem splitKv_part {key val part : CStr} (hkey : KeyText key) (hpart : part <+: key ++ '=' :: val) :
    splitKv part = none ∨
      ∃ text text', text <+: val ∧ splitKv part = some (key, text') ∧ (Trimmed text → text' = text) := by
  have hshort : part <+: key → splitKv part = none := fun h => splitKv_none fun hmem => hkey.sign (h.subset hmem)
  rcases List.prefix_or_prefix_of_prefix hpart (List.prefix_append key _) with h | ⟨rest, rfl⟩
  · exact Or.inl (hshort h)
  · rw [List.prefix_append_right_inj] at hpart
    cases rest with
    | nil => exact Or.inl (hshort (by rw [List.append_nil]))
    | cons c text =>
      obtain ⟨rfl, htext⟩ := List.cons_prefix_cons.1 hpart
      obtain ⟨d, key, rfl⟩ := List.exists_cons_of_ne_nil hkey.nonempty
      have hfront : (d :: key ++ '=' :: text).dropWhile isspace = d :: key ++ '=' :: text :=
        dropWhile_trimmed hkey.plain.trimmed.1
      have htrim : strTrim (d :: key ++ '=' :: text) = d :: key ++ '=' :: text.rdropWhile isspace := by
        rw [strTrim, hfront, rdropWhile_stops (by decide)]
      have hsplit : splitKv (d :: key ++ '=' :: text) = some (strTrim (d :: key), strTrim (text.rdropWhile isspace)) :=
        splitKv_of_split (by rw [htrim]; simp) (by rw [htrim]; exact hkey.comment) htrim hkey.sign
      rw [strTrim_trimmed hkey.plain.trimmed] at hsplit
      refine Or.inr ⟨text, _, htext, hsplit, fun h => ?_⟩
      have hback : text.rdropWhile isspace = text := by
        have hself := strTrim_trimmed h
        rwa [strTrim, dropWhile_trimmed h.1] at hself
      rw [hback, strTrim_trimmed h]

/-- the beginning of a comment -/
theorem splitKv_comment {line part : CStr} (h : line.head? = some '#') (hpart : part <+: line) :
    splitKv part = none := by
  cases part with
  | nil => rfl
  | cons c part =>
    obtain ⟨rest, rfl⟩ := hpart
    obtain rfl : c = '#' := by simpa using h
    have hfront : ('#' :: part).dropWhile isspace = '#' :: part := rfl
    have htrim : strTrim ('#' :: part) = '#' :: part.rdropWhile isspace := by
      rw [strTrim, hfront]
      exact rdropWhile_stops (by decide) [] part
    unfold splitKv
    dsimp only
    rw [htrim]
    exact if_pos (Or.inr rfl)

/-! ## Numbers -/

/-- the first digits of a number are a number -/
theorem natText_part {n : ℕ} {part : CStr} (hpart : part <+: natText n) (hne : part ≠ []) :
    ∃ k, part = natText (n / 10 ^ k) ∧ 10 ^ k ≤ max n 1 := by
  induction n using Nat.strong_induction_on with
  | _ n ih =>
    by_cases hwhole : part = natText n
    · exact ⟨0, by simpa using hwhole, by simp⟩
    · by_cases hsmall : n < 10
      · have hone : natText n = [n.digitChar] := Nat.toDigits_of_lt_base hsmall
        rw [hone] at hpart hwhole
        have hends : part <+: [] ++ [n.digitChar] := hpart
        rcases List.prefix_concat_iff.1 hends with hall | hnil
        · exact absurd hall hwhole
        · exact absurd (List.prefix_nil.1 hnil) hne
      · have hmore : natText n = natText (n / 10) ++ [(n % 10).digitChar] :=
          Nat.toDigits_of_base_le (by norm_num) (not_lt.1 hsmall)
        rw [hmore] at hpart hwhole
        obtain ⟨k, hk, hle⟩ := ih (n / 10) (by omega) ((List.prefix_concat_iff.1 hpart).resolve_left hwhole)
        refine ⟨k + 1, ?_, ?_⟩
        · rw [hk, Nat.div_div_eq_div_mul, pow_succ, mul_comm]
        · rw [pow_succ]
          omega

/-! ## Settings -/

section Cut

variable {κ : Type} {name : κ → CStr} {setting : CStr → Option (κ × CStr)}

def settingLines (name : κ → CStr) (texts : List (κ × CStr)) : List CStr := texts.map fun s => keyLine (name s.1) s.2

theorem settingLines_snoc (init : List (κ × CStr)) (last : κ × CStr) :
    settingLines name (init ++ [last]) = settingLines name init ++ [keyLine (name last.1) last.2] := List.map_append

theorem settingLines_whole (hname : ∀ k, KeyText (name k)) {header : CStr} (hheader : WholeLine 512 header)
    {texts : List (κ × CStr)} (hplain : ∀ s ∈ texts, Plain 400 s.2) :
    ∀ line ∈ header :: settingLines name texts, WholeLine 512 line := by
  intro line hline
  rcases List.mem_cons.1 hline with rfl | hmem
  · exact hheader
  · obtain ⟨s, hs, rfl⟩ := List.mem_map.1 hmem
    exact keyLine_whole (hname s.1) (hplain s hs)

variable (hname : ∀ k, KeyText (name k))
  (hset : ∀ line k t, splitKv line = some (name k, t) → setting line = some (k, t))
  (hnone : ∀ line, splitKv line = none → setting line = none)

section
include hname hset hnone

/-- a part of a line has the key of the line, or none -/
theorem setting_part {s : κ × CStr} {part : CStr} (hpart : part <+: keyLine (name s.1) s.2)
    (hne : part ≠ keyLine (name s.1) s.2) :
    setting part = none ∨ ∃ text text', text <+: s.2 ∧ splitKv part = some (name s.1, text') ∧
      (Trimmed text → text' = text) ∧ setting part = some (s.1, text') := by
  have hbefore : part <+: name s.1 ++ '=' :: s.2 := (List.prefix_concat_iff.1 hpart).resolve_left hne
  rcases splitKv_part (hname s.1) hbefore with h | ⟨text, text', htext, hsplit, htrim⟩
  · exact Or.inl (hnone _ h)
  · exact Or.inr ⟨text, text', htext, hsplit, htrim, hset _ _ _ hsplit⟩

/-- what is read from a line, or from a part of it, has the key of one of the texts -/
theorem setting_key {header : CStr} (hhash : header.head? = some '#') {texts : List (κ × CStr)}
    (hplain : ∀ s ∈ texts, Plain 400 s.2) {line part : CStr} (hline : line ∈ header :: settingLines name texts)
    (hpart : part <+: line) {s : κ × CStr} (hs : setting part = some s) : s.1 ∈ texts.map Prod.fst := by
  rcases List.mem_cons.1 hline with rfl | hmem
  · rw [hnone _ (splitKv_comment hhash hpart)] at hs
    cases hs
  · obtain ⟨e, he, rfl⟩ := List.mem_map.1 hmem
    refine List.mem_map.2 ⟨e, he, ?_⟩
    by_cases hwhole : part = keyLine (name e.1) e.2
    · rw [hwhole, hset _ _ _ (splitKv_written (hname e.1) (hplain e he))] at hs
      rw [← Option.some.inj hs]
    · rcases setting_part hname hset hnone hpart hwhole with hnothing | ⟨text, text', -, -, -, hsome⟩
      · rw [hnothing] at hs
        cases hs
      · rw [hsome] at hs
        rw [← Option.some.inj hs]

end

/-- the piece that is left of a line, if there is one -/
theorem mem_piece {part l : CStr} (h : l ∈ if part = [] then [] else [part]) : l = part := by
  split_ifs at h
  · cases h
  · exact List.mem_singleton.1 h

include hname hset hnone in
/-- lines of these texts, then a part of one or of a line without a setting -/
theorem cut_keys {header : CStr} (hhash : header.head? = some '#') {texts : List (κ × CStr)}
    (hplain : ∀ s ∈ texts, Plain 400 s.2) {before : List CStr}
    (hbefore : ∀ l ∈ before, l ∈ header :: settingLines name texts) {part : CStr}
    (hpart : setting part = none ∨ ∃ line ∈ header :: settingLines name texts, part <+: line) :
    ∀ s ∈ (before ++ if part = [] then [] else [part]).filterMap setting, s.1 ∈ texts.map Prod.fst := by
  intro s hs
  obtain ⟨l, hl, hls⟩ := List.mem_filterMap.1 hs
  rcases List.mem_append.1 hl with hl | hl
  · exact setting_key hname hset hnone hhash hplain (hbefore l hl) (List.prefix_refl l) hls
  · obtain rfl := mem_piece hl
    rcases hpart with hnothing | ⟨line, hline, hpart⟩
    · rw [hnothing] at hls
      cases hls
    · exact setting_key hname hset hnone hhash hplain hline hpart hls

include hname hset hnone in
/-- **A cut in front of the last value loses the last key.** -/
theorem cut_settings {header : CStr} (hheader : WholeLine 512 header) (hhash : header.head? = some '#')
    {init : List (κ × CStr)} {last : κ × CStr} (hplain : ∀ s ∈ init ++ [last], Plain 400 s.2) {k : ℕ}
    (hk : k < (header :: settingLines name (init ++ [last])).flatten.length) :
    (∀ s ∈ (fgetsLines 512 ((header :: settingLines name (init ++ [last])).flatten.take k)).filterMap setting,
      s.1 ∈ init.map Prod.fst) ∨
    ∃ part text text', text <+: last.2 ∧ splitKv part = some (name last.1, text') ∧ (Trimmed text → text' = text) ∧
      fgetsLines 512 ((header :: settingLines name (init ++ [last])).flatten.take k) =
        (header :: settingLines name init) ++ [part] := by
  obtain ⟨before, line, after, part, hlines, hpart, hne, hread⟩ :=
    fgetsLines_cut (settingLines_whole hname hheader hplain) hk
  have hinit : ∀ s ∈ init, Plain 400 s.2 := fun s hs => hplain s (List.mem_append_left _ hs)
  rw [hread]
  rw [settingLines_snoc, ← List.cons_append] at hlines
  rcases List.eq_nil_or_concat after with rfl | ⟨after, final, rfl⟩
  -- the cut is in the last line
  · obtain ⟨rfl, hline⟩ := List.append_inj' hlines rfl
    obtain rfl := List.singleton_injective hline
    rcases setting_part hname hset hnone hpart hne with hnothing | ⟨text, text', htext, hsplit, htrim, -⟩
    · exact Or.inl (cut_keys hname hset hnone hhash hinit (fun l hl => hl) (Or.inl hnothing))
    · have hpart_ne : part ≠ [] := by
        rintro rfl
        cases hsplit
      exact Or.inr ⟨part, text, text', htext, hsplit, htrim, by rw [if_neg hpart_ne]⟩
  -- it is in an earlier one
  · have hcons : before ++ line :: (after ++ [final]) = (before ++ line :: after) ++ [final] := by simp
    rw [List.concat_eq_append, hcons] at hlines
    obtain ⟨hfront, -⟩ := List.append_inj' hlines rfl
    refine Or.inl (cut_keys hname hset hnone hhash hinit (fun l hl => ?_) (Or.inr ⟨line, ?_, hpart⟩))
    · rw [hfront]
      exact List.mem_append_left _ hl
    · rw [hfront]
      exact List.mem_append_right _ List.mem_cons_self

end Cut

/-! ## The probe file -/

def probeHeader : CStr := "# Written by gpu_health_probe 0.1.0\n".toList

theorem probeHeader_whole : WholeLine 512 probeHeader := ⟨by decide, by decide, by decide, by decide⟩

/-- all but the exit code -/
def probeInit (r : ProbeRun) : List (ProbeKey × CStr) := r.probeTexts.dropLast

theorem probeTexts_split (r : ProbeRun) : r.probeTexts = probeInit r ++ [(.probeExitCode, "0".toList)] := rfl

theorem probeTexts_plain (r : ProbeRun) : ∀ s ∈ r.probeTexts, Plain 400 s.2 := by
  simp only [ProbeRun.probeTexts, List.forall_mem_cons, List.not_mem_nil, false_implies, implies_true, and_true]
  exact ⟨r.serial_plain.mono (by norm_num), (iso8601_plain r.time_range.2).mono (by norm_num),
    (fixedText_plain (w := 5) (b := 86400) (by norm_num) (by norm_num) r.duration_range.1
      (by push_cast; exact r.duration_range.2) (by norm_num)).mono (by norm_num),
    mean_plain r, (workload_plain r).mono (by norm_num), count_plain r, plain_of_solid (by decide) (by decide)⟩

theorem probeFile_lines (r : ProbeRun) :
    r.probeFile = (probeHeader :: settingLines probeName r.probeTexts).flatten := by
  simp only [ProbeRun.probeFile, writeProbeFile, probeFileLines, intText_natCast, printF]
  rfl

theorem probeSetting_none (line : CStr) (h : splitKv line = none) : probeSetting line = none := by
  rw [probeSetting, h]
  rfl

/-- lines that split alike are read alike -/
theorem probeLine_congr (s : ProbeScan K) {line line' : CStr} (h : splitKv line = splitKv line') :
    probeLine s line = probeLine s line' := by
  rw [probeLine, probeLine, h]

/-- a file without a required key, or with a refused text, is not accepted -/
theorem probeLoad_missing {file : CStr} {k : ProbeKey} (hk : k.required = true)
    (h : (∀ s ∈ probeSettings (fgetsLines 512 file), s.1 ≠ k) ∨
      (probeRules K).Refused (probeSettings (fgetsLines 512 file))) (ttl : ℤ) (now : UInt64) :
    (probeLoad (some file) ttl now : GpuProbeResult K).available = 0 := by
  have hno : ¬ (probeScan file : ProbeScan K).accepted = true := by
    rw [probeAccepted_iff]
    rintro ⟨hclean, hall⟩
    rcases h with habsent | hrefused
    · obtain ⟨s, hs, hkey⟩ := hall k hk
      exact habsent s hs hkey
    · exact hclean hrefused
  rw [probeLoad_eq, if_neg hno]

theorem probeFile_read (r : ProbeRun) : fgetsLines 512 r.probeFile =
    (probeHeader :: settingLines probeName (probeInit r)) ++ [keyLine (probeName .probeExitCode) "0".toList] := by
  rw [probeFile_lines, fgetsLines_flatten (settingLines_whole probeName_keyText probeHeader_whole (probeTexts_plain r)),
    probeTexts_split, settingLines_snoc]
  rfl

/-- cut in front of the exit code -/
theorem probe_cut_early {r : ProbeRun} {file : CStr}
    (h : ∀ s ∈ probeSettings (fgetsLines 512 file), s.1 ∈ (probeInit r).map Prod.fst) (ttl : ℤ) (now : UInt64) :
    (probeLoad (some file) ttl now : GpuProbeResult K).available = 0 := by
  refine probeLoad_missing (k := .probeExitCode) rfl (Or.inl fun s hs hkey => ?_) ttl now
  have hmem := h s hs
  rw [hkey] at hmem
  exact absurd hmem (by simp [probeInit, ProbeRun.probeTexts])

/-- the last line is "probe_exit_code=" -/
theorem probe_cut_empty {file : CStr} {front : List CStr} {part : CStr} (hread : fgetsLines 512 file = front ++ [part])
    (hsplit : splitKv part = some (probeName .probeExitCode, [])) (ttl : ℤ) (now : UInt64) :
    (probeLoad (some file) ttl now : GpuProbeResult K).available = 0 := by
  refine probeLoad_missing (k := .probeExitCode) rfl (Or.inr ⟨(.probeExitCode, []), ?_, rfl, rfl⟩) ttl now
  rw [hread, probeSettings, List.filterMap_append, List.mem_append]
  right
  rw [List.filterMap_cons_some (probeSetting_eq_some.2 hsplit)]
  exact List.mem_cons_self

/-- only the last newline is missing -/
theorem probe_cut_newline (r : ProbeRun) {file part : CStr}
    (hread : fgetsLines 512 file = (probeHeader :: settingLines probeName (probeInit r)) ++ [part])
    (hsplit : splitKv part = some (probeName .probeExitCode, "0".toList)) :
    (probeScan file : ProbeScan K) = probeScan r.probeFile := by
  have hpart : splitKv part = splitKv (keyLine (probeName .probeExitCode) "0".toList) := by
    rw [hsplit, splitKv_written (probeName_keyText .probeExitCode) (plain_of_solid (n := 400) (by decide) (by decide))]
  rw [probeScan, probeScan, hread, probeFile_read, List.foldl_append, List.foldl_append]
  exact probeLine_congr _ hpart

/-- **A probe file that is cut off** is not available, or reads as the whole file. -/
theorem probe_cut (r : ProbeRun) (k : ℕ) (ttl : ℤ) (now : UInt64) :
    (probeLoad (some (r.probeFile.take k)) ttl now : GpuProbeResult K).available = 0 ∨
      (probeLoad (some (r.probeFile.take k)) ttl now : GpuProbeResult K) = probeLoad (some r.probeFile) ttl now := by
  by_cases hk : k < r.probeFile.length
  · have hfile := probeFile_lines r
    rw [probeTexts_split] at hfile
    have hcut := cut_settings probeName_keyText (fun _ _ _ h => probeSetting_eq_some.2 h) probeSetting_none
      probeHeader_whole rfl (probeTexts_plain r) (hfile ▸ hk)
    rw [← hfile] at hcut
    rcases hcut with hearly | ⟨part, text, text', htext, hsplit, htrim, hread⟩
    · exact Or.inl (probe_cut_early hearly ttl now)
    · have hone : text <+: [] ++ ['0'] := htext
      rcases List.prefix_concat_iff.1 hone with rfl | hnil
      · rw [htrim (by decide)] at hsplit
        right
        rw [probeLoad_eq, probeLoad_eq, probe_cut_newline r hread hsplit]
      · obtain rfl := List.prefix_nil.1 hnil
        rw [htrim (by decide)] at hsplit
        exact Or.inl (probe_cut_empty hread hsplit ttl now)
  · right
    rw [List.take_of_length_le (not_lt.1 hk)]

/-! ## The baseline file -/

def baselineHeader : CStr := "# Written by gpu_health_probe 0.1.0 --establish-baseline\n".toList

theorem baselineHeader_whole : WholeLine 512 baselineHeader := ⟨by decide, by decide, by decide, by decide⟩

/-- all but the number of samples -/
def baselineInit (r : ProbeRun) : List (BaselineKey × CStr) :=
  [(BaselineKey.serial, r.serial)] ++ (if r.uuid = [] then [] else [(BaselineKey.uuid, r.uuid)]) ++
  (if r.driverVersion = [] then [] else [(BaselineKey.driverVersion, r.driverVersion)]) ++
  [ (BaselineKey.perfWMean, fixedText 6 r.perfWMean),
    (BaselineKey.establishedAt, iso8601 r.time),
    (BaselineKey.workload, r.workload) ]

theorem baselineTexts_split (r : ProbeRun) :
    r.baselineTexts = baselineInit r ++ [(.sampleCount, natText r.sampleCount)] := by
  simp [ProbeRun.baselineTexts, baselineInit]

theorem baselineTexts_plain (r : ProbeRun) : ∀ s ∈ r.baselineTexts, Plain 400 s.2 := by
  have hopt : ∀ {k : BaselineKey} {t : CStr} {m : ℕ}, m ≤ 400 → Plain m t →
      ∀ s ∈ if t = [] then [] else [(k, t)], Plain 400 s.2 := by
    intro k t m hm ht
    split_ifs
    · simp
    · simpa using ht.mono hm
  simp only [ProbeRun.baselineTexts, List.forall_mem_append, List.forall_mem_cons, List.not_mem_nil, false_implies,
    implies_true, and_true]
  exact ⟨⟨⟨r.serial_plain.mono (by norm_num), hopt (by norm_num) r.uuid_plain⟩, hopt (by norm_num) r.driver_plain⟩,
    mean_plain r, (iso8601_plain r.time_range.2).mono (by norm_num), (workload_plain r).mono (by norm_num), count_plain r⟩

theorem baselineFile_lines (r : ProbeRun) :
    r.baselineFile = (baselineHeader :: settingLines baselineName r.baselineTexts).flatten := by
  simp only [ProbeRun.baselineFile, writeBaselineFile, baselineFileLines, ProbeRun.baselineTexts, intText_natCast, printF]
  split_ifs <;> rfl

theorem baselineSetting_none (line : CStr) (h : splitKv line = none) : baselineSetting line = none := by
  rw [baselineSetting, h]
  rfl

theorem baselineLoad_missing {file : CStr} {k : BaselineKey} (hk : k.required = true)
    (h : (∀ s ∈ baselineSettings (fgetsLines 512 file), s.1 ≠ k) ∨
      (baselineRules K).Refused (baselineSettings (fgetsLines 512 file))) (serial : CStr) :
    (baselineLoad (some file) serial : GpuBaseline K).valid = 0 := by
  refine baselineLoad_rejected fun haccepted => ?_
  obtain ⟨hclean, hall⟩ := (baselineComplete_iff (K := K) file).1 ⟨haccepted.1, haccepted.2.1⟩
  rcases h with habsent | hrefused
  · obtain ⟨s, hs, hkey⟩ := hall k hk
    exact habsent s hs hkey
  · exact hclean hrefused

theorem baselineFile_read (r : ProbeRun) : fgetsLines 512 r.baselineFile =
    (baselineHeader :: settingLines baselineName (baselineInit r)) ++
      [keyLine (baselineName .sampleCount) (natText r.sampleCount)] := by
  rw [baselineFile_lines, fgetsLines_flatten
    (settingLines_whole baselineName_keyText baselineHeader_whole (baselineTexts_plain r)), baselineTexts_split,
    settingLines_snoc]
  rfl

/-- cut in front of the number of samples -/
theorem baseline_cut_early {r : ProbeRun} {file : CStr}
    (h : ∀ s ∈ baselineSettings (fgetsLines 512 file), s.1 ∈ (baselineInit r).map Prod.fst) (serial : CStr) :
    (baselineLoad (some file) serial : GpuBaseline K).valid = 0 := by
  refine baselineLoad_missing (k := .sampleCount) rfl (Or.inl fun s hs hkey => ?_) serial
  have hmem := h s hs
  rw [hkey] at hmem
  revert hmem
  unfold baselineInit
  split_ifs <;> simp

/-- the last line is "sample_count=" -/
theorem baseline_cut_empty {file : CStr} {front : List CStr} {part : CStr}
    (hread : fgetsLines 512 file = front ++ [part]) (hsplit : splitKv part = some (baselineName .sampleCount, []))
    (serial : CStr) : (baselineLoad (some file) serial : GpuBaseline K).valid = 0 := by
  refine baselineLoad_missing (k := .sampleCount) rfl (Or.inr ⟨(.sampleCount, []), ?_, rfl, rfl⟩) serial
  rw [hread, baselineSettings, List.filterMap_append, List.mem_append]
  right
  rw [List.filterMap_cons_some (baselineSetting_eq_some.2 hsplit)]
  exact List.mem_cons_self

/-- the scan in front of the last line -/
def frontScan (r : ProbeRun) : BaselineScan K :=
  (baselineHeader :: settingLines baselineName (baselineInit r)).foldl baselineLine
    ⟨{ GpuBaseline.zeroed with available := 1 }, false, false, false, false, false, false⟩

/-- with this number of samples -/
def withCount (s : BaselineScan K) (m : ℕ) : BaselineScan K :=
  { s with out := { s.out with sampleCount := (m : ℤ) }, hasSampleCount := true }

theorem scan_front {r : ProbeRun} {file line : CStr}
    (hread : fgetsLines 512 file = (baselineHeader :: settingLines baselineName (baselineInit r)) ++ [line]) :
    (baselineScan file : BaselineScan K) = baselineLine (frontScan r) line := by
  rw [baselineScan, hread, List.foldl_append]
  rfl

theorem frontScan_clean (r : ProbeRun) : (frontScan r : BaselineScan K).parseError = false := by
  have haccepted : (baselineScan r.baselineFile : BaselineScan K).accepted r.serial := by
    by_contra hno
    have hvalid := (baseline_agrees (K := K) r).valid
    rw [baselineLoad_rejected hno] at hvalid
    exact absurd hvalid (by norm_num)
  cases hs : (frontScan r : BaselineScan K).parseError with
  | false => rfl
  | true =>
    have hclean := haccepted.1
    rw [scan_front (baselineFile_read r), baselineLine_error hs, hs] at hclean
    exact hclean

/-- a last line with these digits -/
theorem scan_count {r : ProbeRun} {file line : CStr} {m : ℕ}
    (hread : fgetsLines 512 file = (baselineHeader :: settingLines baselineName (baselineInit r)) ++ [line])
    (hpos : 1 ≤ m) (hle : m ≤ 4096) (hsplit : splitKv line = some (baselineName .sampleCount, natText m)) :
    (baselineScan file : BaselineScan K) = withCount (frontScan r) m := by
  have hparse : parseInt (natText m) 1 1000000 = some (m : ℤ) :=
    parseInt_natText (by omega) (by exact_mod_cast hpos) (by omega)
  rw [scan_front hread, baselineLine_some (frontScan_clean r) (baselineSetting_eq_some.2 hsplit)]
  simp only [baselineStore, hparse]
  rfl

theorem scan_whole (r : ProbeRun) :
    (baselineScan r.baselineFile : BaselineScan K) = withCount (frontScan r) r.sampleCount := by
  have hrange := r.sample_range
  exact scan_count (baselineFile_read r) (by omega) (by omega)
    (splitKv_written (n := 400) (baselineName_keyText .sampleCount) (count_plain r))

/-- what the load makes of the number of samples: it keeps it -/
theorem baselineLoad_count {file file' serial : CStr} {s : BaselineScan K} {m m' : ℕ}
    (h : baselineScan file = withCount s m) (h' : baselineScan file' = withCount s m') :
    (baselineLoad (some file') serial : GpuBaseline K) =
      { (baselineLoad (some file) serial : GpuBaseline K) with sampleCount := (m' : ℤ) } := by
  simp only [baselineLoad, h, h', withCount]
  split_ifs <;> rfl

/-- the last digits of the number of samples are missing -/
theorem baseline_cut_digits {r : ProbeRun} {file part text : CStr} {serial : CStr}
    (hread : fgetsLines 512 file = (baselineHeader :: settingLines baselineName (baselineInit r)) ++ [part])
    (htext : text <+: natText r.sampleCount) (hne : text ≠ [])
    (hsplit : Trimmed text → splitKv part = some (baselineName .sampleCount, text)) :
    ∃ j, 10 ^ j ≤ r.sampleCount ∧ (baselineLoad (some file) serial : GpuBaseline K) =
      { (baselineLoad (some r.baselineFile) serial : GpuBaseline K) with
        sampleCount := ((r.sampleCount / 10 ^ j : ℕ) : ℤ) } := by
  have hrange := r.sample_range
  obtain ⟨j, rfl, hj⟩ := natText_part htext hne
  have hpow : 10 ^ j ≤ r.sampleCount := by omega
  have hpos : 1 ≤ r.sampleCount / 10 ^ j := (Nat.one_le_div_iff (by positivity)).2 hpow
  have hle : r.sampleCount / 10 ^ j ≤ r.sampleCount := Nat.div_le_self _ _
  have htrimmed : Trimmed (natText (r.sampleCount / 10 ^ j)) :=
    (plain_of_solid (solid_digits fun c hc => natText_digit hc) le_rfl).trimmed
  exact ⟨j, hpow, baselineLoad_count (scan_whole r) (scan_count hread hpos (by omega) (hsplit htrimmed))⟩

/-- **A baseline file that is cut off** is not valid, or reads as the whole file but for the last digits of the number
of samples. -/
theorem baseline_cut (r : ProbeRun) (k : ℕ) (serial : CStr) :
    (baselineLoad (some (r.baselineFile.take k)) serial : GpuBaseline K).valid = 0 ∨
      ∃ j, 10 ^ j ≤ r.sampleCount ∧ (baselineLoad (some (r.baselineFile.take k)) serial : GpuBaseline K) =
        { (baselineLoad (some r.baselineFile) serial : GpuBaseline K) with
          sampleCount := ((r.sampleCount / 10 ^ j : ℕ) : ℤ) } := by
  by_cases hk : k < r.baselineFile.length
  · have hfile := baselineFile_lines r
    rw [baselineTexts_split] at hfile
    have hcut := cut_settings baselineName_keyText (fun _ _ _ h => baselineSetting_eq_some.2 h) baselineSetting_none
      baselineHeader_whole rfl (baselineTexts_split r ▸ baselineTexts_plain r) (hfile ▸ hk)
    rw [← hfile] at hcut
    rcases hcut with hearly | ⟨part, text, text', htext, hsplit, htrim, hread⟩
    · exact Or.inl (baseline_cut_early hearly serial)
    · by_cases hnil : text = []
      · subst hnil
        rw [htrim (by decide)] at hsplit
        exact Or.inl (baseline_cut_empty hread hsplit serial)
      · exact Or.inr (baseline_cut_digits hread htext hnil fun h => htrim h ▸ hsplit)
  · right
    have hrange := r.sample_range
    refine ⟨0, by omega, ?_⟩
    rw [List.take_of_length_le (not_lt.1 hk), pow_zero, Nat.div_one]
    exact baselineLoad_count (scan_whole r) (scan_whole r)

end GpuHealth.CutFiles
