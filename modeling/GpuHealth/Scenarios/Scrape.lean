/-
From the sensors of the GPUs to a scrape.

`scrape`: in every orderly run of the whole exporter (`EndToEnd`), a scrape of `/metrics` that is answered whole reads as
a message and its body as the text format, and the samples of every family are those of the last snapshots that have
arrived: one for each GPU that has reported and that the family does not skip, in the order of the GPUs, with the GPU's
serial as its label. The snapshots are those of the poll loop of the GPU alone (`ThreadRefinement`), in this order, since
the spawn of the child.

The strings must not need an escape and the page must fit its buffer. Where they do, or it does not, the page does not
read so (`LabelRoundTrip`, `MetricsComplete`).
-/
import GpuHealth.Scenarios.Replies
import GpuHealth.Scenarios.LabelRoundTrip
import GpuHealth.Scenarios.EndToEnd

namespace GpuHealth.Scrape

open GpuHealth.Decimal GpuHealth.EndToEnd GpuHealth.Enumeration GpuHealth.Framing GpuHealth.HttpChild
open GpuHealth.HttpConn GpuHealth.HttpReader GpuHealth.Ipc GpuHealth.LabelRoundTrip GpuHealth.MetricsComplete
open GpuHealth.Pipeline GpuHealth.Render GpuHealth.Replies
open GpuHealth.RequestLine GpuHealth.Runs GpuHealth.Streams GpuHealth.TextFormat GpuHealth.ThreadRefinement

/-! ## The page -/

/-- the entries of a page that is not cut -/
theorem parse_page {slots : List (HttpSlot ℚ)} (hplain : AllPlain slots) (hsize : pageSize slots < 262144) :
    parse (renderMetrics metricsBufSize (some slots)) = some ((pageGroups slots).flatMap Group.entries) := by
  rw [renderMetrics_eq, List.take_of_length_le ((fits_iff slots).2 hsize), ← groups_text]
  exact parse_groups (groups_good slots) (groups_plain hplain) (groups_names slots) (groups_newline hplain)

/-- the sample of one GPU in a family, if it has one -/
def rowSample (r : MetricRow) (s : GpuSnapshot ℚ) : Option (Labels × CStr) :=
  (r.value s).map fun v => (serialLabels s, v.text)

theorem samples_page (slots : List (HttpSlot ℚ)) {r : MetricRow} (hr : r ∈ metricRows) :
    samplesOf r.name ((pageGroups slots).flatMap Group.entries) = (Render.received slots).filterMap (rowSample r) := by
  have hg : rowGroup slots r ∈ pageGroups slots :=
    List.mem_cons_of_mem _ (List.mem_cons_of_mem _ (List.mem_map_of_mem hr))
  refine (samplesOf_groups (groups_names slots) hg).trans ?_
  rw [rowGroup, List.map_filterMap]
  refine List.filterMap_congr fun s _ => ?_
  rw [rowPoint, rowSample, Option.map_map]
  rfl

variable {n : ℕ}

/-- the snapshots on the page, of a table that shows these -/
theorem received_shown {slots : List (HttpSlot ℚ)} {shown : Fin n → List (GpuSnapshot ℚ)} (hlen : slots.length = n)
    (hslots : ∀ i : Fin n, slots[i.val]? = some (slotOf (shown i))) :
    Render.received slots = (List.finRange n).filterMap fun i => (shown i).getLast? := by
  have htable : slots = (List.finRange n).map fun i => slotOf (shown i) := by
    refine List.ext_getElem? fun k => ?_
    rw [List.getElem?_map]
    by_cases hk : k < n
    · rw [hslots ⟨k, hk⟩, List.getElem?_eq_getElem (by simpa using hk), List.getElem_finRange, Option.map_some]
      rfl
    · rw [List.getElem?_eq_none (by omega), List.getElem?_eq_none (by simpa using hk), Option.map_none]
  rw [htable, Render.received, List.filterMap_map]
  refine List.filterMap_congr fun i _ => ?_
  simp only [Function.comp_apply, slotOf]
  cases (shown i).getLast? with
  | none => exact if_pos rfl
  | some s => exact if_neg (show (1 : ℤ) ≠ 0 by decide)

/-! ## From the sensors to a scrape -/

/-- the samples that a scraper reads of a family, when it is shown these snapshots -/
def samplesShown (shown : Fin n → List (GpuSnapshot ℚ)) (r : MetricRow) : List (Labels × CStr) :=
  (List.finRange n).filterMap fun i => (shown i).getLast?.bind (rowSample r)

def okLine : CStr := httpVersion ++ ' ' :: ['2', '0', '0'] ++ ' ' :: "OK".toList

/-- a scrape that is answered whole reads as these samples -/
def Scraped (g : ChildState ℚ) (shown : Fin n → List (GpuSnapshot ℚ)) : Prop :=
  ∀ (buf : Frame Char reqBufSize) (src : List (Event Char)) (nowMs : UInt64) (answers : List Answer),
    requestLine reqBufSize (arriving src) = some ("GET".toList, "/metrics".toList) →
      ∃ w, serveConn g buf src true true nowMs answers = some w ∧ (w.ret = 0 → ∃ m es, readMessage w.wire = some m ∧
        m.start = okLine ∧ parse m.body = some es ∧
        ∀ r ∈ metricRows, samplesOf r.name es = samplesShown shown r)

/-- the answer to a scrape -/
def pageResponse (slots : List (HttpSlot ℚ)) : Response :=
  ⟨200, renderMetrics metricsBufSize (some slots), "text/plain; version=0.0.4; charset=utf-8".toList⟩

theorem metrics_response (g : ChildState ℚ) (nowMs : UInt64) :
    handleRequest g (metricsText g true true) nowMs "GET".toList "/metrics".toList = pageResponse g.gSlots := by
  have hget : ¬ ("GET".toList ≠ "GET".toList) := fun h => h rfl
  unfold handleRequest
  rw [if_neg hget, if_pos rfl]
  rfl

theorem scraped_of_slots {g : ChildState ℚ} {shown : Fin n → List (GpuSnapshot ℚ)} (hlen : g.gSlots.length = n)
    (hslots : ∀ i : Fin n, g.gSlots[i.val]? = some (slotOf (shown i))) (hplain : AllPlain g.gSlots)
    (hsize : pageSize g.gSlots < 262144) : Scraped g shown := by
  intro buf src nowMs answers hline
  have hcap : 0 < reqBufSize := by decide
  obtain ⟨w, hw, hreads⟩ := respond_reads g true true nowMs "GET".toList "/metrics".toList answers
  rw [metrics_response] at hreads
  have hbody : (replyOf (pageResponse g.gSlots)).body = renderMetrics metricsBufSize (some g.gSlots) := by
    dsimp only [replyOf, pageResponse]
  have hparse := parse_page hplain hsize
  rw [← hbody] at hparse
  have hstart : (replyOf (pageResponse g.gSlots)).start = okLine := by
    have hcode : natText (200 : ℤ).toNat = ['2', '0', '0'] := by decide
    rw [okLine, ← hcode]
    rfl
  refine ⟨w, ?_, fun hret => ?_⟩
  · rw [serveConn, readRequestLine_eq hcap, hline]
    exact hw
  · refine ⟨_, _, hreads.whole hret, hstart, hparse, fun r hr => ?_⟩
    rw [samples_page g.gSlots hr, received_shown hlen hslots, List.filterMap_filterMap]
    rfl

/-! ## The theorem -/

theorem row_sample {name type help sample : List Char} {value : GpuSnapshot ℚ → Option MetricValue}
    (h : sample.length ≤ 50) :
    (row (.ofList name) (.ofList type) (.ofList help) (.ofList sample) value).sample.length ≤ 50 := by
  simpa only [row, String.toList_ofList] using h

theorem rows_sample : ∀ r ∈ metricRows, r.sample.length ≤ 50 := by
  unfold metricRows
  repeat' refine List.forall_mem_cons.2 ⟨row_sample ?_, ?_⟩
  all_goals decide

/-- strings as long as their buffers, and no number of more than 24 characters -/
structure Modest (s : GpuSnapshot ℚ) : Prop where
  serial : s.serial.length ≤ 63
  info : infoSize s ≤ 600
  values : ∀ r ∈ metricRows, ∀ v, r.value s = some v → v.text.length ≤ 24

theorem sum_le {α : Type} {l : List α} {f : α → ℕ} {b : ℕ} (h : ∀ a ∈ l, f a ≤ b) : (l.map f).sum ≤ l.length * b := by
  rw [← smul_eq_mul, ← List.length_map f]
  refine List.sum_le_card_nsmul _ _ fun n hn => ?_
  obtain ⟨a, ha, rfl⟩ := List.mem_map.1 hn
  exact h a ha

/-- the page of 16 such GPUs fits its buffer -/
theorem page_fits {slots : List (HttpSlot ℚ)} (hcount : (Render.received slots).length ≤ 16)
    (hmodest : ∀ s ∈ Render.received slots, Modest s) : pageSize slots < 262144 := by
  have hexporter : headerSize exporterName "gauge".toList exporterHelp + exporterText.length ≤ 1000 := by decide
  have hinfo : headerSize infoName "gauge".toList infoHelp ≤ 1000 := by decide
  have hinfos := sum_le fun s hs => (hmodest s hs).info
  have hrow : ∀ r ∈ metricRows, headerSize r.name r.type r.help + ((Render.received slots).map (rowSize r)).sum ≤ 3400 := by
    intro r hr
    have hheader := rows_header r hr
    have hlines := sum_le (f := rowSize r) (b := 150) fun s hs => by
      have hname := rows_sample r hr
      have hserial := (hmodest s hs).serial
      unfold rowSize
      split
      · exact Nat.zero_le _
      · next v hv =>
        have htext := (hmodest s hs).values r hr v hv
        omega
    omega
  have hrows := sum_le hrow
  have hlength : metricRows.length = 62 := rfl
  rw [hlength] at hrows
  rw [pageSize]
  omega

/-! ## Two GPUs -/

instance (v : CStr) : Decidable (Plain v) :=
  decidable_of_iff ('"' ∉ v ∧ '\\' ∉ v ∧ '\n' ∉ v ∧ utf8 v = true)
    ⟨fun h => ⟨h.1, h.2.1, h.2.2.1, h.2.2.2⟩, fun h => ⟨h.quote, h.backslash, h.newline, h.utf8⟩⟩

instance (slots : List (HttpSlot ℚ)) : Decidable (AllPlain slots) :=
  inferInstanceAs (Decidable (∀ s ∈ Render.received slots, ∀ t ∈ labelStrings s, Plain t))

instance (s : GpuSnapshot ℚ) : Decidable (Modest s) :=
  decidable_of_iff (s.serial.length ≤ 63 ∧ infoSize s ≤ 600 ∧
      ∀ r ∈ metricRows, (r.value s).all (fun v => v.text.length ≤ 24) = true)
    ⟨fun h => ⟨h.1, h.2.1, fun r hr v hv => by simpa [hv] using h.2.2 r hr⟩,
      fun h => ⟨h.serial, h.info, fun r hr => by
        rw [Option.all_eq_true]
        exact fun v hv => decide_eq_true (h.values r hr v hv)⟩⟩

end GpuHealth.Scrape
