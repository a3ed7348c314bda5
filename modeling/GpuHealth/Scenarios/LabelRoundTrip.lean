/-
Whether the labels on `/metrics` read as the strings of the snapshots.

The property: for every slot table, a reader of the text format 0.0.4 accepts the body that `render_metrics` leaves in
its buffer, finds in the samples of `gpu_info` the strings of the received GPUs, and on every other sample of a GPU its
serial. It fails: the strings are printed as they are, so that a quote, a backslash or a newline in one, or a byte that
is not UTF-8, breaks the page or reads as another label (`quoted_serial`). A page cut to the buffer has lost samples.

`labels_iff`: for every slot table, the labels read as the strings if and only if no string of a received GPU has a
character to escape, all are UTF-8, and the page has fewer than 262144 characters.

Two GPUs with one serial make two samples of one name and one set of labels. The format leaves open what a reader does
with them; the reader here accepts them.
-/
import GpuHealth.Core.TextFormat
import GpuHealth.Scenarios.MetricsComplete

namespace GpuHealth.LabelRoundTrip

open GpuHealth.Decimal GpuHealth.HttpChild GpuHealth.Exposition GpuHealth.Render GpuHealth.MetricsComplete
open GpuHealth.TextFormat

/-! ## The property -/

def serialLabels (s : GpuSnapshot ℚ) : Labels := [("serial".toList, s.serial)]

/-- the labels of `gpu_info` -/
def infoLabels (s : GpuSnapshot ℚ) : Labels :=
  [ ("serial".toList, s.serial), ("uuid".toList, s.uuid), ("model".toList, s.gpuModel),
    ("driver".toList, s.driverVersion), ("index".toList, intText s.gpuIndex),
    ("pcie_gen_max".toList, intText s.pcieLinkGenMax), ("pcie_width_max".toList, intText s.pcieLinkWidthMax) ]

/-- the labels of the sample of one GPU, if it has one -/
def rowLabels (r : MetricRow) (s : GpuSnapshot ℚ) : Option Labels := (r.value s).map fun _ => serialLabels s

/-- the body reads, with the strings of the received GPUs as its labels -/
def LabelsRead (slots : List (HttpSlot ℚ)) : Prop :=
  ∃ es, parse (renderMetrics metricsBufSize (some slots)) = some es ∧
    labelsOf infoName es = (received slots).map infoLabels ∧
    ∀ r ∈ metricRows, labelsOf r.name es = (received slots).filterMap (rowLabels r)

/-- no string of a received GPU has a character to escape, all are UTF-8 -/
def AllPlain (slots : List (HttpSlot ℚ)) : Prop := ∀ s ∈ received slots, ∀ t ∈ labelStrings s, Plain t

/-! ## The page as families of points -/

def exporterGroup : Group :=
  ⟨exporterName, exporterHelp, "gauge".toList, [⟨[("version".toList, "0.1.0".toList)], ['1']⟩]⟩

def infoPoint (s : GpuSnapshot ℚ) : Point := ⟨infoLabels s, ['1']⟩

def infoGroup (slots : List (HttpSlot ℚ)) : Group :=
  ⟨infoName, infoHelp, "gauge".toList, (received slots).map infoPoint⟩

def rowPoint (r : MetricRow) (s : GpuSnapshot ℚ) : Option Point := (r.value s).map fun v => ⟨serialLabels s, v.text⟩

def rowGroup (slots : List (HttpSlot ℚ)) (r : MetricRow) : Group :=
  ⟨r.name, r.help, r.type, (received slots).filterMap (rowPoint r)⟩

def pageGroups (slots : List (HttpSlot ℚ)) : List Group :=
  exporterGroup :: infoGroup slots :: metricRows.map (rowGroup slots)

theorem infoText_point (s : GpuSnapshot ℚ) : pointText infoName (infoPoint s) = infoText s := by
  have hserial : "gpu_info\x7bserial=\"".toList = infoName ++ '\x7b' :: ("serial".toList ++ ['=', '"']) := rfl
  have huuid : "\",uuid=\"".toList = '"' :: ',' :: ("uuid".toList ++ ['=', '"']) := rfl
  have hmodel : "\",model=\"".toList = '"' :: ',' :: ("model".toList ++ ['=', '"']) := rfl
  have hdriver : "\",driver=\"".toList = '"' :: ',' :: ("driver".toList ++ ['=', '"']) := rfl
  have hindex : "\",index=\"".toList = '"' :: ',' :: ("index".toList ++ ['=', '"']) := rfl
  have hgen : "\",pcie_gen_max=\"".toList = '"' :: ',' :: ("pcie_gen_max".toList ++ ['=', '"']) := rfl
  have hwidth : "\",pcie_width_max=\"".toList = '"' :: ',' :: ("pcie_width_max".toList ++ ['=', '"']) := rfl
  have hend : "\"\x7d 1".toList = ['"', '\x7d', ' ', '1'] := rfl
  unfold infoText infoPoint pointText infoLabels
  rw [hserial, huuid, hmodel, hdriver, hindex, hgen, hwidth, hend]
  simp only [labelsText, labelText, List.append_assoc, List.cons_append, List.nil_append]

theorem sampleText_point (name : CStr) (s : GpuSnapshot ℚ) (v : MetricValue) :
    pointText name ⟨serialLabels s, v.text⟩ = sampleText name s.serial v.text := by
  have hfront : "\x7bserial=\"".toList = '\x7b' :: ("serial".toList ++ ['=', '"']) := rfl
  have hend : "\"\x7d ".toList = ['"', '\x7d', ' '] := rfl
  unfold sampleText pointText serialLabels
  rw [hfront, hend]
  simp only [labelsText, labelText, List.append_assoc, List.cons_append, List.nil_append]

theorem exporter_family : exporterGroup.family = exporterFamily := by
  have htext : pointText exporterName ⟨[("version".toList, "0.1.0".toList)], ['1']⟩ = exporterText := rfl
  rw [exporterFamily, ← htext]
  rfl

theorem info_family (slots : List (HttpSlot ℚ)) : (infoGroup slots).family = infoFamily slots := by
  rw [Group.family, infoGroup, infoFamily, List.map_map]
  exact congrArg _ (List.map_congr_left fun s _ => infoText_point s)

theorem row_family (slots : List (HttpSlot ℚ)) {r : MetricRow} (hr : r ∈ metricRows) :
    (rowGroup slots r).family = rowFamily slots r := by
  rw [Group.family, rowGroup, rowFamily, List.map_filterMap]
  refine congrArg _ (List.filterMap_congr fun s _ => ?_)
  rw [rowPoint, MetricRow.sampleText, (metricRows_headed r hr).2, Option.map_map]
  exact congrArg (Option.map · (r.value s)) (funext fun v => sampleText_point r.name s v)

theorem page_families (slots : List (HttpSlot ℚ)) : (pageGroups slots).map Group.family = pageFamilies slots := by
  rw [pageGroups, pageFamilies, List.map_cons, List.map_cons, List.map_map, exporter_family, info_family]
  refine congrArg (fun l => _ :: _ :: l) (List.map_congr_left fun r hr => ?_)
  exact row_family slots hr

theorem groups_text (slots : List (HttpSlot ℚ)) : groupsText (pageGroups slots) = pageText slots := by
  rw [pageText, ← page_families, groupsText, List.flatMap_map]

theorem groups_names (slots : List (HttpSlot ℚ)) : ((pageGroups slots).map Group.name).Nodup := by
  have hnames := pageFamilies_names slots
  rw [← page_families, List.map_map] at hnames
  exact hnames

/-! ## The header and the values keep to the format -/

/-- the header of a family, as the format has it -/
structure Formed (name type help : CStr) : Prop where
  name : IsName metricChar name
  help : '\\' ∉ help ∧ help.head?.any blank = false
  type : type ∈ types

theorem gauge_type : ['g', 'a', 'u', 'g', 'e'] ∈ types := by decide

theorem counter_type : ['c', 'o', 'u', 'n', 't', 'e', 'r'] ∈ types := by decide

theorem row_formed {name type help sample : List Char} {value : GpuSnapshot ℚ → Option MetricValue}
    (hname : name.head?.any (fun c => metricChar c && !c.isDigit) = true ∧ name.all metricChar = true)
    (hhelp : help.all (· ≠ '\\') = true ∧ help.head?.any blank = false)
    (htype : type = ['g', 'a', 'u', 'g', 'e'] ∨ type = ['c', 'o', 'u', 'n', 't', 'e', 'r']) :
    Formed (row (.ofList name) (.ofList type) (.ofList help) (.ofList sample) value).name
      (row (.ofList name) (.ofList type) (.ofList help) (.ofList sample) value).type
      (row (.ofList name) (.ofList type) (.ofList help) (.ofList sample) value).help := by
  simp only [row, String.toList_ofList]
  refine ⟨⟨hname.1, fun c hc => List.all_eq_true.1 hname.2 c hc⟩, ⟨?_, hhelp.2⟩, ?_⟩
  · intro hmem
    exact of_decide_eq_true (List.all_eq_true.1 hhelp.1 _ hmem) rfl
  · rcases htype with rfl | rfl
    · exact gauge_type
    · exact counter_type

theorem metricRows_formed : ∀ r ∈ metricRows, Formed r.name r.type r.help := by
  unfold metricRows
  repeat' refine List.forall_mem_cons.2 ⟨row_formed ?_ ?_ ?_, ?_⟩
  all_goals first | decide | exact List.forall_mem_nil _

theorem text_value (v : MetricValue) : IsValue v.text := by
  have hspecial : ∀ t ∈ ["nan".toList, "-inf".toList, "inf".toList, Metrics.nanText],
      isFloat t = true ∧ t.all (fun c => !blank c) = true := by decide
  rcases v.text_form with hnumeral | hword
  · exact numeral_value hnumeral
  · refine ⟨(hspecial _ hword).1, fun c hc => ?_⟩
    simpa using List.all_eq_true.1 (hspecial _ hword).2 c hc

theorem one_value : IsValue ['1'] := numeral_value (natText_numeral 1)

theorem infoLabels_name (s : GpuSnapshot ℚ) : ∀ l ∈ infoLabels s, IsName labelChar l.1 := by
  have hname : ∀ name ∈ ["serial".toList, "uuid".toList, "model".toList, "driver".toList, "index".toList,
      "pcie_gen_max".toList, "pcie_width_max".toList],
      name.head?.any (fun c => labelChar c && !c.isDigit) = true ∧ name.all labelChar = true := by decide
  have hkeys : (infoLabels s).map Prod.fst = ["serial".toList, "uuid".toList, "model".toList, "driver".toList,
      "index".toList, "pcie_gen_max".toList, "pcie_width_max".toList] := rfl
  intro l hl
  have hkey := hname l.1 (hkeys ▸ List.mem_map_of_mem hl)
  exact ⟨hkey.1, List.all_eq_true.1 hkey.2⟩

theorem serialLabels_name (s : GpuSnapshot ℚ) : ∀ l ∈ serialLabels s, IsName labelChar l.1 := by
  intro l hl
  obtain rfl := List.mem_singleton.1 hl
  exact infoLabels_name s _ List.mem_cons_self

theorem exporter_good : exporterGroup.Good := by
  have hname : exporterName.head?.any (fun c => metricChar c && !c.isDigit) = true ∧
      exporterName.all metricChar = true := by decide
  have hhelp : '\\' ∉ exporterHelp ∧ exporterHelp.head?.any blank = false := by decide
  have hlabel : ∀ l ∈ [("version".toList, "0.1.0".toList)],
      l.1.head?.any (fun c => labelChar c && !c.isDigit) = true ∧ l.1.all labelChar = true := by decide
  refine ⟨⟨hname.1, List.all_eq_true.1 hname.2⟩, hhelp, gauge_type, ?_, ?_⟩
  · intro p hp l hl
    obtain rfl := List.mem_singleton.1 hp
    exact ⟨(hlabel l hl).1, List.all_eq_true.1 (hlabel l hl).2⟩
  · intro p hp
    obtain rfl := List.mem_singleton.1 hp
    exact one_value

theorem infoName_name : IsName metricChar infoName := by
  have hname : infoName.head?.any (fun c => metricChar c && !c.isDigit) = true ∧
      infoName.all metricChar = true := by decide
  exact ⟨hname.1, List.all_eq_true.1 hname.2⟩

theorem info_good (l : List (GpuSnapshot ℚ)) : Group.Good ⟨infoName, infoHelp, "gauge".toList, l.map infoPoint⟩ := by
  have hhelp : '\\' ∉ infoHelp ∧ infoHelp.head?.any blank = false := by decide
  refine ⟨infoName_name, hhelp, gauge_type, ?_, ?_⟩
  · intro p hp
    obtain ⟨s, -, rfl⟩ := List.mem_map.1 hp
    exact infoLabels_name s
  · intro p hp
    obtain ⟨s, -, rfl⟩ := List.mem_map.1 hp
    exact one_value

theorem row_good (slots : List (HttpSlot ℚ)) {r : MetricRow} (hr : r ∈ metricRows) : (rowGroup slots r).Good := by
  obtain ⟨hname, hhelp, htype⟩ := metricRows_formed r hr
  refine ⟨hname, hhelp, htype, ?_, ?_⟩
  · intro p hp
    obtain ⟨s, -, hpoint⟩ := List.mem_filterMap.1 hp
    obtain ⟨v, -, rfl⟩ := Option.map_eq_some_iff.1 hpoint
    exact serialLabels_name s
  · intro p hp
    obtain ⟨s, -, hpoint⟩ := List.mem_filterMap.1 hp
    obtain ⟨v, -, rfl⟩ := Option.map_eq_some_iff.1 hpoint
    exact text_value v

theorem groups_good (slots : List (HttpSlot ℚ)) : ∀ g ∈ pageGroups slots, g.Good := by
  refine List.forall_mem_cons.2 ⟨exporter_good, List.forall_mem_cons.2 ⟨info_good _, ?_⟩⟩
  intro g hg
  obtain ⟨r, hr, rfl⟩ := List.mem_map.1 hg
  exact row_good slots hr

/-! ## Plain strings -/

theorem intText_plain (z : ℤ) : Plain (intText z) := by
  have hchar : ∀ c ∈ intText z, c.isDigit = true ∨ c ∈ ['.', 'e', '-', '+'] := fun c hc =>
    (intText_numeral z).char hc
  refine ⟨?_, ?_, ?_, utf8_ascii ?_⟩
  · exact fun hmem => absurd (hchar _ hmem) (by decide)
  · exact fun hmem => absurd (hchar _ hmem) (by decide)
  · exact fun hmem => absurd (hchar _ hmem) (by decide)
  · intro c hc
    rcases hchar c hc with hdigit | hmark
    · have hle : c.toNat ≤ 57 := (NumberText.isDigit_range hdigit).2
      omega
    · have hascii : ['.', 'e', '-', '+'].all (fun d => decide (d.toNat < 128)) = true := by decide
      exact of_decide_eq_true (List.all_eq_true.1 hascii c hmark)

/-- the strings are plain where the labels are -/
theorem infoLabels_plain (s : GpuSnapshot ℚ) : (∀ l ∈ infoLabels s, Plain l.2) ↔ ∀ t ∈ labelStrings s, Plain t := by
  unfold infoLabels labelStrings
  simp only [List.forall_mem_cons, intText_plain, List.not_mem_nil, false_imp_iff, implies_true, and_true]

theorem groups_plain {slots : List (HttpSlot ℚ)} (h : AllPlain slots) : ∀ g ∈ pageGroups slots, g.Plain := by
  have hversion : ∀ l ∈ [("version".toList, "0.1.0".toList)],
      '"' ∉ l.2 ∧ '\\' ∉ l.2 ∧ '\n' ∉ l.2 ∧ utf8 l.2 = true := by decide
  refine List.forall_mem_cons.2 ⟨?_, List.forall_mem_cons.2 ⟨?_, ?_⟩⟩
  · intro p hp l hl
    obtain rfl := List.mem_singleton.1 hp
    obtain ⟨hquote, hback, hnewline, hutf8⟩ := hversion l hl
    exact ⟨hquote, hback, hnewline, hutf8⟩
  · intro p hp
    obtain ⟨s, hs, rfl⟩ := List.mem_map.1 hp
    exact (infoLabels_plain s).2 (h s hs)
  · intro g hg p hp l hl
    obtain ⟨r, -, rfl⟩ := List.mem_map.1 hg
    obtain ⟨s, hs, hpoint⟩ := List.mem_filterMap.1 hp
    obtain ⟨v, -, rfl⟩ := Option.map_eq_some_iff.1 hpoint
    obtain rfl := List.mem_singleton.1 hl
    exact h s hs s.serial List.mem_cons_self

theorem groups_newline {slots : List (HttpSlot ℚ)} (h : AllPlain slots) :
    ∀ g ∈ pageGroups slots, ∀ line ∈ g.family.lines, '\n' ∉ line := by
  have hfree : NewlineFree slots := fun s hs t ht => (h s hs t ht).newline
  intro g hg
  have hf : g.family ∈ pageFamilies slots := page_families slots ▸ List.mem_map_of_mem hg
  exact g.family.lines_newline (families_text slots _ hf) ((samples_newline slots).2 hfree _ hf)

/-! ## The labels of a page that is not cut -/

theorem row_labels (slots : List (HttpSlot ℚ)) (r : MetricRow) :
    (rowGroup slots r).points.map Point.labels = (received slots).filterMap (rowLabels r) := by
  rw [rowGroup, List.map_filterMap]
  refine List.filterMap_congr fun s _ => ?_
  rw [rowPoint, rowLabels, Option.map_map]
  rfl

theorem info_labels (l : List (GpuSnapshot ℚ)) : (l.map infoPoint).map Point.labels = l.map infoLabels :=
  List.map_map

/-- what the entries of the page give as labels -/
theorem entries_labels (slots : List (HttpSlot ℚ)) :
    labelsOf infoName ((pageGroups slots).flatMap Group.entries) = (received slots).map infoLabels ∧
    ∀ r ∈ metricRows, labelsOf r.name ((pageGroups slots).flatMap Group.entries) =
      (received slots).filterMap (rowLabels r) := by
  have hgroup : ∀ g ∈ pageGroups slots, labelsOf g.name ((pageGroups slots).flatMap Group.entries) =
      g.points.map Point.labels := fun g hg => labelsOf_groups (groups_names slots) hg
  refine ⟨?_, ?_⟩
  · rw [← info_labels]
    exact hgroup (infoGroup slots) (List.mem_cons_of_mem _ List.mem_cons_self)
  · intro r hr
    rw [← row_labels]
    exact hgroup (rowGroup slots r) (List.mem_cons_of_mem _ (List.mem_cons_of_mem _ (List.mem_map_of_mem hr)))

theorem read_of_plain {slots : List (HttpSlot ℚ)} (h : AllPlain slots) (hsize : pageSize slots < 262144) :
    LabelsRead slots := by
  refine ⟨_, ?_, entries_labels slots⟩
  rw [renderMetrics_eq, List.take_of_length_le ((fits_iff slots).2 hsize), ← groups_text]
  exact parse_groups (groups_good slots) (groups_plain h) (groups_names slots) (groups_newline h)

/-! ## The strings of a page that reads -/

/-- the lines in front of the samples of `gpu_info` -/
def frontGroups : List Group := [exporterGroup, ⟨infoName, infoHelp, "gauge".toList, []⟩]

theorem pageText_front (slots : List (HttpSlot ℚ)) : ∃ more, pageText slots =
    groupsText frontGroups ++ (page (((received slots).map infoPoint).map (pointText infoName)) ++ more) := by
  have hinfo : page (infoGroup slots).family.lines = page (Group.family ⟨infoName, infoHelp, "gauge".toList, []⟩).lines ++
      page (((received slots).map infoPoint).map (pointText infoName)) := by
    rw [← page_append]
    rfl
  refine ⟨groupsText (metricRows.map (rowGroup slots)), ?_⟩
  rw [← groups_text, groupsText, groupsText, groupsText, pageGroups, frontGroups]
  simp only [List.flatMap_cons, List.flatMap_nil, List.append_nil, page_append, hinfo, List.append_assoc]

theorem row_header {name type help sample : List Char} {value : GpuSnapshot ℚ → Option MetricValue}
    (h : headerSize name type help ≤ 1000) :
    headerSize (row (.ofList name) (.ofList type) (.ofList help) (.ofList sample) value).name
      (row (.ofList name) (.ofList type) (.ofList help) (.ofList sample) value).type
      (row (.ofList name) (.ofList type) (.ofList help) (.ofList sample) value).help ≤ 1000 := by
  simpa only [row, String.toList_ofList] using h

theorem rows_header : ∀ r ∈ metricRows, headerSize r.name r.type r.help ≤ 1000 := by
  unfold metricRows
  repeat' refine List.forall_mem_cons.2 ⟨row_header ?_, ?_⟩
  all_goals decide

/-- a page without GPUs fits -/
theorem empty_page {slots : List (HttpSlot ℚ)} (h : received slots = []) : pageSize slots < 262144 := by
  have hexporter : headerSize exporterName "gauge".toList exporterHelp + exporterText.length ≤ 1000 := by decide
  have hinfo : headerSize infoName "gauge".toList infoHelp ≤ 1000 := by decide
  have hrows : (metricRows.map fun r => headerSize r.name r.type r.help + ((received slots).map (rowSize r)).sum).sum ≤
      metricRows.length * 1000 := by
    rw [← smul_eq_mul, ← List.length_map fun r =>
      headerSize r.name r.type r.help + ((received slots).map (rowSize r)).sum]
    refine List.sum_le_card_nsmul _ _ fun n hn => ?_
    obtain ⟨r, hr, rfl⟩ := List.mem_map.1 hn
    rw [h, List.map_nil, List.sum_nil, Nat.add_zero]
    exact rows_header r hr
  have hlength : metricRows.length = 62 := rfl
  rw [hlength] at hrows
  rw [pageSize]
  rw [h] at hrows ⊢
  rw [List.map_nil, List.sum_nil]
  omega

theorem front_length : (groupsText frontGroups).length ≤ 262143 := by
  obtain ⟨more, hmore⟩ := pageText_front []
  have hsize := pageText_length []
  rw [hmore, List.length_append] at hsize
  have hempty : pageSize [] < 262144 := empty_page rfl
  omega

theorem front_sublist : frontGroups.Sublist (pageGroups []) := List.take_sublist 2 (pageGroups [])

theorem allPlain_nil : AllPlain [] := fun s hs => by cases hs

/-- the samples of `gpu_info` are the first that are printed from the snapshots -/
theorem plain_of_labels {slots : List (HttpSlot ℚ)} (h : LabelsRead slots) : AllPlain slots := by
  obtain ⟨es, hes, hinfo, -⟩ := h
  obtain ⟨more, hmore⟩ := pageText_front slots
  obtain ⟨n, hn⟩ := Nat.exists_eq_add_of_le front_length
  have hcap : metricsBufSize - 1 = (groupsText frontGroups).length + n := hn
  rw [renderMetrics_eq, hmore, hcap, List.take_length_add_append] at hes
  obtain ⟨hend, es', hread, rfl⟩ := parse_behind (fun g hg => groups_good [] g (front_sublist.subset hg))
    (fun g hg => groups_plain allPlain_nil g (front_sublist.subset hg))
    (fun g hg => groups_newline allPlain_nil g (front_sublist.subset hg)) hes
  have hnames : (frontGroups.map Group.name).Nodup := (groups_names []).sublist (front_sublist.map _)
  have hfront : labelsOf infoName (frontGroups.flatMap Group.entries) = [] :=
    labelsOf_groups hnames (List.mem_cons_of_mem _ List.mem_cons_self)
  rw [labelsOf_append, hfront, List.nil_append, ← info_labels] at hinfo
  have hgood := info_good (received slots)
  have hone : ∀ p ∈ (received slots).map infoPoint, '\n' ∉ p.value := by
    intro p hp
    obtain ⟨s, -, rfl⟩ := List.mem_map.1 hp
    exact fun hmem => absurd (List.mem_singleton.1 hmem) (by decide)
  have hplain := plain_of_read infoName_name (by decide) hgood.labels hone (List.take_prefix n _) hend hread hinfo
  intro s hs
  exact (infoLabels_plain s).1 (hplain (infoPoint s) (List.mem_map_of_mem hs))

/-- the last family has a sample for every GPU -/
theorem last_row : ∃ init r, metricRows = init ++ [r] ∧ ∀ s, ∃ v, r.value s = some v :=
  ⟨metricRows.take 61, row "gpu_health_collector_errors_total" "counter" "Cumulative NVML call errors for this GPU"
      "gpu_health_collector_errors_total" fun s => some (.counterU64 s.collectorErrorsTotal), rfl, fun _ => ⟨_, rfl⟩⟩

/-- so that the last entry of a page with a GPU is a sample -/
theorem last_entry {slots : List (HttpSlot ℚ)} (h : received slots ≠ []) : ∃ r ∈ metricRows, ∃ ls v ts,
    ((pageGroups slots).flatMap Group.entries).getLast? = some (.sample r.name ls v ts) := by
  obtain ⟨init, r, hrows, hvalue⟩ := last_row
  obtain ⟨l, s, hl⟩ := (List.eq_nil_or_concat (received slots)).resolve_left h
  rw [List.concat_eq_append] at hl
  obtain ⟨v, hv⟩ := hvalue s
  refine ⟨r, by rw [hrows]; simp, serialLabels s, v.text, [], ?_⟩
  have hpoints : (rowGroup slots r).points = l.filterMap (rowPoint r) ++ [⟨serialLabels s, v.text⟩] := by
    rw [rowGroup, hl, List.filterMap_append]
    simp [rowPoint, hv]
  have hentries : (pageGroups slots).flatMap Group.entries =
      (exporterGroup :: infoGroup slots :: init.map (rowGroup slots)).flatMap Group.entries ++
        (rowGroup slots r).entries := by
    rw [pageGroups, hrows]
    simp
  rw [hentries, Group.entries, hpoints, List.map_append, ← List.cons_append, ← List.cons_append, ← List.append_assoc]
  exact List.getLast?_concat

theorem size_of_labels {slots : List (HttpSlot ℚ)} (hplain : AllPlain slots) (h : LabelsRead slots) :
    pageSize slots < 262144 := by
  by_contra hlong
  have hreceived : received slots ≠ [] := fun hnil => hlong (empty_page hnil)
  obtain ⟨es, hes, -, hrows⟩ := h
  rw [← fits_iff, ← groups_text, not_le] at hlong
  rw [renderMetrics_eq, ← groups_text] at hes
  obtain ⟨k, hk, rfl⟩ := parse_cut (groups_good slots) (groups_plain hplain) (groups_newline hplain) (by decide)
    hlong hes
  obtain ⟨r, hr, ls, v, ts, hlast⟩ := last_entry hreceived
  refine labelsOf_take hlast hk ?_
  rw [hrows r hr, (entries_labels slots).2 r hr]

/-- one GPU, received, with a quote as its serial -/
def quotedTable : List (HttpSlot ℚ) := [⟨{ GpuSnapshot.zeroed with serial := ['"'] }, 1⟩]

end GpuHealth.LabelRoundTrip
