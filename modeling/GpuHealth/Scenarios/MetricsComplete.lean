/-
Whether the page of `/metrics` is complete.

The property: the body that `render_metrics` leaves in its buffer ends in a newline and shows for every metric family
exactly one HELP line, one TYPE line and one sample line for each received GPU, in slot order and under the family's
name (the fan family only for GPUs with a fan; the exporter's own family has one sample): `row_samples` says so of the
families of the rows. It fails: `bprintf` drops what does not fit the buffer of 256 KiB (`full_table_cut`), and a newline
in a serial, UUID, model or driver version breaks its lines.

`metrics_iff`: for every slot table, the page is complete if and only if no received GPU has a newline in one of the
four strings and the whole page has fewer than 262144 characters.
-/
import GpuHealth.Render

namespace GpuHealth.MetricsComplete

open GpuHealth.Decimal GpuHealth.NumberText GpuHealth.HttpChild GpuHealth.Exposition GpuHealth.Render

/-! ## The property -/

/-- the body of `/metrics` shows every family with all its lines -/
def PageComplete (slots : List (HttpSlot ℚ)) : Prop :=
  Complete (pageFamilies slots) (renderMetrics metricsBufSize (some slots))

/-- the strings that are printed as label values -/
def labelStrings (s : GpuSnapshot ℚ) : List CStr := [s.serial, s.uuid, s.gpuModel, s.driverVersion]

def NewlineFree (slots : List (HttpSlot ℚ)) : Prop := ∀ s ∈ received slots, ∀ t ∈ labelStrings s, '\n' ∉ t

/-! ## One sample for each GPU -/

/-- a GPU without a fan, for the fan family -/
def Skips (r : MetricRow) (s : GpuSnapshot ℚ) : Prop := r.name = "gpu_fan_speed_ratio".toList ∧ s.fanSpeedPct < 0

instance (r : MetricRow) (s : GpuSnapshot ℚ) : Decidable (Skips r s) := inferInstanceAs (Decidable (_ ∧ _))

theorem shown_row {name type help sample : List Char} {value : GpuSnapshot ℚ → Option MetricValue}
    (hname : name ≠ "gpu_fan_speed_ratio".toList) (hvalue : ∀ s, (value s).isSome = true) (s : GpuSnapshot ℚ) :
    (row (.ofList name) (.ofList type) (.ofList help) (.ofList sample) value).value s = none ↔
      Skips (row (.ofList name) (.ofList type) (.ofList help) (.ofList sample) value) s := by
  refine iff_of_false ?_ ?_
  · exact Option.isSome_iff_ne_none.1 (hvalue s)
  · rintro ⟨hfan, -⟩
    exact hname (String.toList_ofList.symm.trans hfan)

theorem fan_row {type help sample : String} {v : GpuSnapshot ℚ → MetricValue} (s : GpuSnapshot ℚ) :
    (row "gpu_fan_speed_ratio" type help sample fun s => if s.fanSpeedPct < 0 then none else some (v s)).value s = none ↔
      Skips (row "gpu_fan_speed_ratio" type help sample fun s => if s.fanSpeedPct < 0 then none else some (v s)) s := by
  change (if s.fanSpeedPct < 0 then none else some (v s)) = none ↔ _ ∧ s.fanSpeedPct < 0
  split_ifs with hfan
  · exact iff_of_true rfl ⟨rfl, hfan⟩
  · exact iff_of_false not_false fun h => hfan h.2

/-- a row prints nothing for the GPUs it skips, and for no other -/
theorem value_none_iff : ∀ r ∈ metricRows, ∀ s, r.value s = none ↔ Skips r s := by
  unfold metricRows
  iterate 12 refine List.forall_mem_cons.2 ⟨shown_row (by decide) fun s => rfl, ?_⟩
  refine List.forall_mem_cons.2 ⟨fan_row, ?_⟩
  iterate 14 refine List.forall_mem_cons.2 ⟨shown_row (by decide) fun s => rfl, ?_⟩
  refine List.forall_mem_cons.2 ⟨shown_row (by decide) fun s => by split_ifs <;> rfl, ?_⟩
  iterate 34 refine List.forall_mem_cons.2 ⟨shown_row (by decide) fun s => rfl, ?_⟩
  exact List.forall_mem_nil _

/-- **The samples of a row**: one for each received GPU, in slot order, the fan's only for a GPU with a fan. -/
theorem row_samples (slots : List (HttpSlot ℚ)) {r : MetricRow} (hr : r ∈ metricRows) :
    ∃ text : GpuSnapshot ℚ → CStr, (rowFamily slots r).samples =
      ((received slots).filter fun s => ¬ Skips r s).map fun s => sampleText r.name s.serial (text s) := by
  refine ⟨fun s => ((r.value s).map MetricValue.text).getD [], ?_⟩
  show (received slots).filterMap r.sampleText = _
  rw [← List.filterMap_eq_filter, List.map_filterMap]
  refine List.filterMap_congr fun s _ => ?_
  unfold MetricRow.sampleText
  rw [(metricRows_headed r hr).2]
  cases hvalue : r.value s with
  | none => simp [Option.guard, (value_none_iff r hr s).1 hvalue]
  | some v =>
    have hshown : ¬ Skips r s := by
      rw [← value_none_iff r hr s, hvalue]
      exact Option.some_ne_none v
    simp [Option.guard, hshown, hvalue]

/-! ## The size of a page -/

/-- a HELP and a TYPE line -/
def headerSize (name type help : CStr) : ℕ := 2 * name.length + type.length + help.length + 18

/-- a line of a row, nothing for a GPU the row skips -/
def rowSize (r : MetricRow) (s : GpuSnapshot ℚ) : ℕ :=
  match r.value s with
  | none => 0
  | some v => r.sample.length + s.serial.length + v.text.length + 13

/-- a line of `gpu_info` -/
def infoSize (s : GpuSnapshot ℚ) : ℕ :=
  s.serial.length + s.uuid.length + s.gpuModel.length + s.driverVersion.length + (intText s.gpuIndex).length +
    (intText s.pcieLinkGenMax).length + (intText s.pcieLinkWidthMax).length + 92

/-- the families of the exporter and of `gpu_info`, and those of the rows -/
def pageSize (slots : List (HttpSlot ℚ)) : ℕ :=
  headerSize exporterName "gauge".toList exporterHelp + exporterText.length + 1 +
  headerSize infoName "gauge".toList infoHelp + ((received slots).map infoSize).sum +
  (metricRows.map fun r => headerSize r.name r.type r.help + ((received slots).map (rowSize r)).sum).sum

theorem page_length (l : List CStr) : (page l).length = (l.map fun line => line.length + 1).sum := by
  rw [page, List.length_flatMap]
  simp

theorem header_length (f : Family) : (page [f.helpLine, f.typeLine]).length = headerSize f.name f.type f.help := by
  simp [Family.helpLine, Family.typeLine, helpFront, typeFront, headerSize]
  omega

theorem family_length (f : Family) :
    (page f.lines).length = headerSize f.name f.type f.help + (f.samples.map fun line => line.length + 1).sum := by
  rw [← header_length, ← page_length, ← List.length_append, ← page_append]
  rfl

theorem infoText_length (s : GpuSnapshot ℚ) : (infoText s).length + 1 = infoSize s := by
  have hserial : "gpu_info\x7bserial=\"".toList.length = 17 := rfl
  have huuid : "\",uuid=\"".toList.length = 8 := rfl
  have hmodel : "\",model=\"".toList.length = 9 := rfl
  have hdriver : "\",driver=\"".toList.length = 10 := rfl
  have hindex : "\",index=\"".toList.length = 9 := rfl
  have hgen : "\",pcie_gen_max=\"".toList.length = 16 := rfl
  have hwidth : "\",pcie_width_max=\"".toList.length = 18 := rfl
  have hend : "\"\x7d 1".toList.length = 4 := rfl
  unfold infoText infoSize
  simp only [List.length_append]
  rw [hserial, huuid, hmodel, hdriver, hindex, hgen, hwidth, hend]
  omega

theorem sampleText_length (r : MetricRow) (s : GpuSnapshot ℚ) :
    ((r.sampleText s).map fun line => line.length + 1).getD 0 = rowSize r s := by
  have hfront : "\x7bserial=\"".toList.length = 9 := rfl
  have hend : "\"\x7d ".toList.length = 3 := rfl
  unfold MetricRow.sampleText rowSize
  cases r.value s with
  | none => rfl
  | some v =>
    simp only [Option.map_some, Option.getD_some, Render.sampleText, List.length_append]
    rw [hfront, hend]
    omega

theorem row_length (slots : List (HttpSlot ℚ)) (r : MetricRow) :
    (((rowFamily slots r).samples).map fun line => line.length + 1).sum = ((received slots).map (rowSize r)).sum := by
  unfold rowFamily
  dsimp only
  induction received slots with
  | nil => rfl
  | cons s l ih =>
    rw [List.map_cons, List.sum_cons, ← sampleText_length, ← ih]
    cases htext : r.sampleText s with
    | none => simp [htext]
    | some line => simp [htext]

/-- **`pageSize` is the length of the page.** -/
theorem pageText_length (slots : List (HttpSlot ℚ)) : (pageText slots).length = pageSize slots := by
  have hrows : (page ((metricRows.map (rowFamily slots)).flatMap Family.lines)).length =
      (metricRows.map fun r => headerSize r.name r.type r.help + ((received slots).map (rowSize r)).sum).sum := by
    rw [List.flatMap_map, page, List.flatMap_assoc, List.length_flatMap]
    refine congrArg List.sum (List.map_congr_left fun r _ => ?_)
    rw [← row_length]
    exact family_length (rowFamily slots r)
  have hinfo : ((infoFamily slots).samples.map fun line => line.length + 1).sum =
      ((received slots).map infoSize).sum := by
    rw [infoFamily, List.map_map]
    exact congrArg List.sum (List.map_congr_left fun s _ => infoText_length s)
  have hexporter : (exporterFamily.samples.map fun line => line.length + 1).sum = exporterText.length + 1 := by
    simp [exporterFamily]
  rw [pageText, pageFamilies, List.flatMap_cons, List.flatMap_cons, page_append, page_append, List.length_append,
    List.length_append, hrows, family_length, family_length, hinfo, hexporter, pageSize]
  simp only [exporterFamily, infoFamily]
  omega

/-! ## The condition -/

theorem families_text (slots : List (HttpSlot ℚ)) :
    ∀ f ∈ pageFamilies slots, '\n' ∉ f.name ∧ '\n' ∉ f.help ∧ '\n' ∉ f.type := by
  intro f hf
  rcases List.mem_cons.1 hf with rfl | hrest
  · decide
  · rcases List.mem_cons.1 hrest with rfl | hrow
    · have hinfo : '\n' ∉ infoName ∧ '\n' ∉ infoHelp ∧ '\n' ∉ "gauge".toList := by decide
      exact hinfo
    · obtain ⟨r, hr, rfl⟩ := List.mem_map.1 hrow
      exact ⟨(metricRows_headed r hr).1.newline.1, (metricRows_headed r hr).1.newline.2⟩

theorem notin {c : Char} {l : List Char} (h : c ∉ l) : c ∉ (String.ofList l).toList := by
  rwa [String.toList_ofList]

theorem infoText_newline (s : GpuSnapshot ℚ) : '\n' ∉ infoText s ↔ ∀ t ∈ labelStrings s, '\n' ∉ t := by
  have hint : ∀ z, '\n' ∉ intText z := by
    intro z hmem
    rcases (intText_numeral z).char hmem with hdigit | hmark
    · exact absurd hdigit (by decide)
    · exact absurd hmark (by decide)
  have hserial : '\n' ∉ "gpu_info\x7bserial=\"".toList := notin (by decide)
  have huuid : '\n' ∉ "\",uuid=\"".toList := notin (by decide)
  have hmodel : '\n' ∉ "\",model=\"".toList := notin (by decide)
  have hdriver : '\n' ∉ "\",driver=\"".toList := notin (by decide)
  have hindex : '\n' ∉ "\",index=\"".toList := notin (by decide)
  have hgen : '\n' ∉ "\",pcie_gen_max=\"".toList := notin (by decide)
  have hwidth : '\n' ∉ "\",pcie_width_max=\"".toList := notin (by decide)
  have hend : '\n' ∉ "\"\x7d 1".toList := notin (by decide)
  unfold infoText labelStrings
  simp only [List.mem_append, not_or, List.forall_mem_cons, hserial, huuid, hmodel, hdriver, hindex, hgen, hwidth, hend,
    hint, not_false_eq_true, and_true, true_and, and_assoc]
  simp

theorem sampleText_newline (name : CStr) {serial : CStr} (hname : '\n' ∉ name) (hserial : '\n' ∉ serial)
    (v : MetricValue) : '\n' ∉ sampleText name serial v.text := by
  have hfront : '\n' ∉ "\x7bserial=\"".toList := by decide
  have hend : '\n' ∉ "\"\x7d ".toList := by decide
  unfold sampleText
  simp only [List.mem_append, not_or]
  exact ⟨⟨⟨⟨hname, hfront⟩, hserial⟩, hend⟩, v.text_newline⟩

theorem samples_newline (slots : List (HttpSlot ℚ)) :
    (∀ f ∈ pageFamilies slots, ∀ line ∈ f.samples, '\n' ∉ line) ↔ NewlineFree slots := by
  refine ⟨?_, ?_⟩
  · intro h s hs
    rw [← infoText_newline]
    exact h (infoFamily slots) (List.mem_cons_of_mem _ List.mem_cons_self) _ (List.mem_map.2 ⟨s, hs, rfl⟩)
  · intro h f hf line hline
    rcases List.mem_cons.1 hf with rfl | hrest
    · revert line
      decide
    · rcases List.mem_cons.1 hrest with rfl | hrow
      · obtain ⟨s, hs, rfl⟩ := List.mem_map.1 hline
        exact (infoText_newline s).2 (h s hs)
      · obtain ⟨r, hr, rfl⟩ := List.mem_map.1 hrow
        obtain ⟨s, hs, htext⟩ := List.mem_filterMap.1 hline
        obtain ⟨v, -, rfl⟩ := Option.map_eq_some_iff.1 htext
        obtain ⟨hheaded, hname⟩ := metricRows_headed r hr
        exact sampleText_newline r.sample (hname ▸ hheaded.newline.1) (h s hs s.serial (by simp [labelStrings])) v

/-- what `renderMetrics` keeps is complete if and only if it keeps everything -/
theorem pageComplete_iff (slots : List (HttpSlot ℚ)) : PageComplete slots ↔
    (∀ f ∈ pageFamilies slots, ∀ line ∈ f.samples, '\n' ∉ line) ∧ (pageText slots).length ≤ metricsBufSize - 1 := by
  rw [PageComplete, renderMetrics_eq]
  exact complete_iff (pageFamilies_named slots) (pageFamilies_names slots) (List.cons_ne_nil _ _)
    (families_text slots) (metricsBufSize - 1)

theorem fits_iff (slots : List (HttpSlot ℚ)) :
    (pageText slots).length ≤ metricsBufSize - 1 ↔ pageSize slots < 262144 := by
  rw [pageText_length]
  exact Nat.lt_succ_iff.symm

/-- **When the page is complete.** For every slot table: if and only if no received GPU has a newline in a label and
the page has fewer than 262144 characters. -/
theorem metrics_iff (slots : List (HttpSlot ℚ)) :
    PageComplete slots ↔ NewlineFree slots ∧ pageSize slots < 262144 := by
  rw [pageComplete_iff, samples_newline, fits_iff]

/-! ## A full table -/

/-- 256 GPUs, each with an empty first snapshot -/
def fullTable : List (HttpSlot ℚ) := List.replicate 256 ⟨.zeroed, 1⟩

theorem row_least {name type help : List Char} {value : GpuSnapshot ℚ → Option MetricValue} (s : GpuSnapshot ℚ)
    (hname : 4 ≤ name.length) (hvalue : (value s).isSome = true) :
    17 ≤ rowSize (row (.ofList name) (.ofList type) (.ofList help) (.ofList name) value) s := by
  obtain ⟨v, hv⟩ := Option.isSome_iff_exists.1 hvalue
  unfold rowSize
  simp only [row, hv, String.toList_ofList]
  omega

/-- every family has a line for an empty snapshot -/
theorem rows_least : ∀ r ∈ metricRows, 17 ≤ rowSize r .zeroed := by
  unfold metricRows
  repeat' refine List.forall_mem_cons.2 ⟨row_least .zeroed ?_ ?_, ?_⟩
  all_goals decide

theorem rows_le_pageSize (slots : List (HttpSlot ℚ)) :
    (metricRows.map fun r => headerSize r.name r.type r.help + ((received slots).map (rowSize r)).sum).sum ≤
      pageSize slots := Nat.le_add_left _ _

theorem fullTable_size : 262144 ≤ pageSize fullTable := by
  have hreceived : received fullTable = List.replicate 256 (GpuSnapshot.zeroed : GpuSnapshot ℚ) := by
    rw [received, fullTable, List.filterMap_replicate]
    rfl
  have hrow : ∀ r ∈ metricRows, 4352 ≤
      headerSize r.name r.type r.help + ((received fullTable).map (rowSize r)).sum := by
    intro r hr
    have hleast := rows_least r hr
    rw [hreceived, List.map_replicate, List.sum_replicate, smul_eq_mul]
    omega
  have hlength : metricRows.length = 62 := rfl
  calc 262144
    _ ≤ metricRows.length * 4352 := by rw [hlength]; norm_num
    _ ≤ (metricRows.map fun r => headerSize r.name r.type r.help + ((received fullTable).map (rowSize r)).sum).sum := by
      rw [← smul_eq_mul, ← List.length_map fun r =>
        headerSize r.name r.type r.help + ((received fullTable).map (rowSize r)).sum]
      refine List.card_nsmul_le_sum _ _ fun n hn => ?_
      obtain ⟨r, hr, rfl⟩ := List.mem_map.1 hn
      exact hrow r hr
    _ ≤ pageSize fullTable := rows_le_pageSize fullTable

/-- The page of 256 GPUs, the most the child accepts, is cut. -/
theorem full_table_cut : fullTable.length = 256 ∧ ¬ PageComplete fullTable := by
  refine ⟨List.length_replicate, ?_⟩
  intro h
  have hfits := (fits_iff fullTable).1 ((pageComplete_iff fullTable).1 h).2
  exact absurd hfits (not_lt.2 fullTable_size)

end GpuHealth.MetricsComplete
