/-
Framing of the HTTP responses, whatever the kernel does.

`response_framed`: on a plain connection, for every state of the child, method and path, whatever `malloc` and the clock
answer, and for every behaviour of `write` (it accepts any part, is interrupted, or fails, at any call): the bytes put
on the wire are a prefix of one response (`messageOf`), a well-formed one with one Content-Length, the number of its
body's bytes; its header fits `headerSize`; and `write_response` returns 0 exactly when all of the response is on the
wire. No access leaves the header or the body. The page of `/metrics` is any that `render_metrics` can produce.

- `writeResponse_spec`: the two phases of a response whose header fits.
- `handleRequest_dispatched`: what the dispatcher can answer with.
-/
import GpuHealth.HttpConn

namespace GpuHealth.ResponseFraming

open GpuHealth.Streams GpuHealth.HttpChild GpuHealth.HttpConn GpuHealth.Decimal GpuHealth.Render

/-! ## Responses -/

structure HttpResponse where
  status : ℕ
  reason : CStr
  headers : List (CStr × CStr)
  body : CStr

/-- the status line, the headers, and the empty line -/
def HttpResponse.head (r : HttpResponse) : CStr :=
  statusLine (natText r.status) r.reason ++ r.headers.flatMap (fun h => headerLine h.1 h.2) ++ crlf

def HttpResponse.bytes (r : HttpResponse) : CStr := r.head ++ r.body

/-- a text on one line -/
def OneLine (s : CStr) : Prop := '\r' ∉ s ∧ '\n' ∉ s

/-- the values of the headers with a name -/
def HttpResponse.valuesOf (r : HttpResponse) (name : CStr) : List CStr :=
  r.headers.filterMap fun h => if h.1 = name then some h.2 else none

structure HttpResponse.WellFormed (r : HttpResponse) : Prop where
  status : 100 ≤ r.status ∧ r.status < 600
  reason : OneLine r.reason
  names : ∀ h ∈ r.headers, h.1 ≠ [] ∧ h.1.all (fun c => c.isAlphanum || c = '-') = true
  values : ∀ h ∈ r.headers, OneLine h.2
  /-- one Content-Length, a decimal number -/
  length : ∃ v, r.valuesOf contentLengthName = [v] ∧ v ≠ [] ∧ (∀ c ∈ v, c.isDigit = true) ∧
    Nat.ofDigitChars 10 v 0 = r.body.length

/-! ## The property -/

/-- the response for what the dispatcher answers -/
def messageOf (resp : Response) : HttpResponse where
  status := resp.status.toNat
  reason := statusText resp.status
  headers := [(contentTypeName, resp.contentType), (contentLengthName, natText resp.body.length),
    (connectionName, closeText)]
  body := resp.body

structure Framed (resp : Response) (w : Written) : Prop where
  wellFormed : (messageOf resp).WellFormed
  fits : (messageOf resp).head.length < headerSize
  wire : w.wire <+: (messageOf resp).bytes
  complete : w.ret = 0 ↔ w.wire = (messageOf resp).bytes

/-! ## The two phases -/

/-- a whole buffer through the write loop -/
theorem writeLoop_all (data : CStr) (answers : List Answer) :
    ∃ r, writeLoop data answers 0 data.length = some r ∧ r.wire <+: data ∧ (r.ok = true ↔ r.wire = data) := by
  have hrange : 0 + data.length ≤ data.length := (Nat.zero_add _).le
  have hspec := writeLoop_spec data answers hrange
  rwa [List.drop_zero, List.take_length] at hspec

/-- **The header, then the body.** -/
theorem writeResponse_spec (answers : List Answer) (status : ℤ) (body contentType : CStr)
    (hfits : (headerText status contentType body.length).length < headerSize) :
    ∃ w, writeResponse answers status body body.length contentType = some w ∧
      w.wire <+: headerText status contentType body.length ++ body ∧
      (w.ret = 0 ↔ w.wire = headerText status contentType body.length ++ body) := by
  unfold writeResponse
  set header := headerText status contentType body.length
  obtain ⟨r, hr, hfront, hok⟩ := writeLoop_all header answers
  simp only [if_neg (not_le.2 hfits), hr, Option.bind_eq_bind, Option.bind_some]
  by_cases hdone : r.ok = true
  · rw [if_neg (by rw [hdone]; exact Bool.noConfusion), hok.1 hdone]
    rcases Nat.eq_zero_or_pos body.length with hempty | hbody
    · rw [List.length_eq_zero_iff] at hempty
      subst hempty
      exact ⟨⟨0, header⟩, rfl, by simp, by simp⟩
    · obtain ⟨r', hr', hfront', hok'⟩ := writeLoop_all body r.rest
      rw [if_pos hbody, hr', Option.bind_some]
      refine ⟨_, rfl, (List.prefix_append_right_inj header).2 hfront', ?_⟩
      dsimp only
      rw [List.append_cancel_left_eq, ← hok']
      cases r'.ok <;> simp
  · have hshort : r.wire.length < header.length := by
      by_contra hge
      exact hdone (hok.2 (hfront.eq_of_length_le (not_lt.1 hge)))
    rw [if_pos (Bool.eq_false_iff.2 hdone)]
    refine ⟨⟨-1, r.wire⟩, rfl, hfront.trans (List.prefix_append _ _), iff_of_false ?_ fun hall => ?_⟩
    · exact fun hret : (-1 : ℤ) = 0 => absurd hret (by decide)
    have hlen := congrArg List.length hall
    rw [List.length_append] at hlen
    dsimp only at hlen
    omega

/-! ## What the dispatcher answers -/

/-- one of its statuses and content types, and a body that fits the page's buffer -/
structure Dispatched (resp : Response) : Prop where
  status : resp.status ∈ [200, 404, 405, 500, 503]
  contentType : resp.contentType ∈ ["text/plain".toList, "text/plain; version=0.0.4; charset=utf-8".toList]
  body : resp.body.length < metricsBufSize

theorem plain_dispatched {status : ℤ} {body : String} (hs : status ∈ [200, 404, 405, 500, 503])
    (hbody : body.toList.length < metricsBufSize) : Dispatched (plain status body) :=
  ⟨hs, List.mem_cons_self, hbody⟩

theorem bprintf_length {cap : ℕ} {buf : CStr} (h : buf.length < cap) (text : CStr) :
    (bprintf cap buf text).length < cap := by
  unfold bprintf
  split_ifs
  · exact h
  · rw [List.length_append, List.length_take]
    omega

theorem renderMetrics_length (slots : Option (List (HttpSlot ℚ))) :
    (renderMetrics metricsBufSize slots).length < metricsBufSize := by
  cases slots with
  | none => exact bprintf_length (by decide) _
  | some slots =>
    rw [renderMetrics_eq, List.length_take]
    have hsize : 0 < metricsBufSize := by decide
    omega

theorem metricsText_length {g : ChildState ℚ} {bufferOk slotsOk : Bool} {text : CStr}
    (h : metricsText g bufferOk slotsOk = some text) : text.length < metricsBufSize := by
  unfold metricsText at h
  split_ifs at h <;> obtain rfl := Option.some.inj h <;> exact renderMetrics_length _

/-- **Whatever is asked for**, the answer is one of the dispatcher's. -/
theorem handleRequest_dispatched (g : ChildState ℚ) (bufferOk slotsOk : Bool) (nowMs : UInt64) (method path : CStr) :
    Dispatched (handleRequest g (metricsText g bufferOk slotsOk) nowMs method path) := by
  unfold handleRequest
  by_cases hget : method ≠ "GET".toList
  · rw [if_pos hget]
    exact plain_dispatched (by decide) (by decide)
  rw [if_neg hget]
  by_cases hmetrics : path = "/metrics".toList
  · rw [if_pos hmetrics]
    cases htext : metricsText g bufferOk slotsOk with
    | none => exact plain_dispatched (by decide) (by decide)
    | some text => exact ⟨List.mem_cons_self, List.mem_cons_of_mem _ List.mem_cons_self, metricsText_length htext⟩
  · rw [if_neg hmetrics]
    split_ifs <;> exact plain_dispatched (by decide) (by decide)

/-! ## Its message -/

theorem natText_length {n : ℕ} (h : n < metricsBufSize) : (natText n).length ≤ 6 := by
  refine (Nat.length_toDigits_le_iff (by norm_num) (by norm_num)).2 (h.trans ?_)
  norm_num [metricsBufSize]

theorem statusLine_length (status reason : CStr) :
    (statusLine status reason).length = status.length + reason.length + 12 := by
  have hversion : httpVersion.length = 8 := by decide
  simp only [statusLine, crlf, List.length_append, List.length_cons, List.length_nil, hversion]
  omega

theorem headerLine_length (name value : CStr) : (headerLine name value).length = name.length + value.length + 4 := by
  simp only [headerLine, crlf, List.length_append, List.length_cons, List.length_nil]
  omega

theorem intText_nonneg {z : ℤ} (h : 0 ≤ z) : intText z = natText z.toNat := by
  rw [intText, if_neg (not_lt.2 h)]
  congr 1
  omega

/-- the printed header is the head of the message -/
theorem headerText_eq {resp : Response} (h : 0 ≤ resp.status) :
    headerText resp.status resp.contentType resp.body.length = (messageOf resp).head := by
  have hhead : (messageOf resp).head = statusLine (natText resp.status.toNat) (statusText resp.status) ++
      (headerLine contentTypeName resp.contentType ++ (headerLine contentLengthName (natText resp.body.length) ++
        (headerLine connectionName closeText ++ []))) ++ crlf := rfl
  rw [hhead, headerText, intText_nonneg h, List.append_nil, List.append_assoc, List.append_assoc, List.append_assoc,
    List.append_assoc, List.append_assoc, List.append_assoc]

theorem oneLine_of_all {s : CStr} (h : s.all (fun c => c ≠ '\r' ∧ c ≠ '\n') = true) : OneLine s := by
  rw [List.all_eq_true] at h
  exact ⟨fun hc => (of_decide_eq_true (h _ hc)).1 rfl, fun hc => (of_decide_eq_true (h _ hc)).2 rfl⟩

theorem oneLine_natText (n : ℕ) : OneLine (natText n) :=
  ⟨fun hc => absurd (natText_digit hc) (by decide), fun hc => absurd (natText_digit hc) (by decide)⟩

theorem Dispatched.statusText {resp : Response} (h : Dispatched resp) :
    0 ≤ resp.status ∧ (100 ≤ resp.status.toNat ∧ resp.status.toNat < 600) ∧ (natText resp.status.toNat).length = 3 ∧
      OneLine (HttpConn.statusText resp.status) ∧ (HttpConn.statusText resp.status).length ≤ 21 := by
  have hs := h.status
  simp only [List.mem_cons, List.not_mem_nil, or_false] at hs
  rcases hs with hs | hs | hs | hs | hs <;> rw [hs] <;>
    exact ⟨by decide, by decide, by decide, oneLine_of_all (by decide), by decide⟩

theorem Dispatched.type {resp : Response} (h : Dispatched resp) :
    OneLine resp.contentType ∧ resp.contentType.length ≤ 40 := by
  have ht := h.contentType
  simp only [List.mem_cons, List.not_mem_nil, or_false] at ht
  rcases ht with ht | ht <;> rw [ht] <;> exact ⟨oneLine_of_all (by decide), by decide⟩

theorem Dispatched.wellFormed {resp : Response} (h : Dispatched resp) : (messageOf resp).WellFormed where
  status := h.statusText.2.1
  reason := h.statusText.2.2.2.1
  names := by
    intro hd hmem
    have hname : hd.1 ∈ [contentTypeName, contentLengthName, connectionName] :=
      List.mem_map_of_mem (f := Prod.fst) hmem
    simp only [List.mem_cons, List.not_mem_nil, or_false] at hname
    rcases hname with hn | hn | hn <;> rw [hn] <;> exact ⟨by decide, by decide⟩
  values := by
    intro hd hmem
    have hvalue : hd.2 ∈ [resp.contentType, natText resp.body.length, closeText] :=
      List.mem_map_of_mem (f := Prod.snd) hmem
    simp only [List.mem_cons, List.not_mem_nil, or_false] at hvalue
    rcases hvalue with hv | hv | hv <;> rw [hv]
    · exact h.type.1
    · exact oneLine_natText _
    · exact oneLine_of_all (by decide)
  length := by
    have htype : contentTypeName ≠ contentLengthName := by decide
    have hclose : connectionName ≠ contentLengthName := by decide
    refine ⟨natText resp.body.length, ?_, natText_ne_nil _, fun c hc => natText_digit hc, natText_value _⟩
    simp only [HttpResponse.valuesOf, messageOf, List.filterMap_cons, List.filterMap_nil, if_neg htype, if_neg hclose,
      if_true]

theorem Dispatched.fits {resp : Response} (h : Dispatched resp) : (messageOf resp).head.length < headerSize := by
  obtain ⟨hnonneg, -, hstatus, -, hreason⟩ := h.statusText
  have htype := h.type.2
  have hlength := natText_length h.body
  have hnames : contentTypeName.length = 12 ∧ contentLengthName.length = 14 ∧ connectionName.length = 10 ∧
      closeText.length = 5 := by decide
  have hcrlf : crlf.length = 2 := rfl
  rw [← headerText_eq hnonneg, headerText, intText_nonneg hnonneg]
  simp only [List.length_append, statusLine_length, headerLine_length, hcrlf]
  have hsize : headerSize = 256 := rfl
  omega

/-! ## The theorem -/

/-- **What is on the wire is a prefix of one well-formed response**, and all of it exactly when 0 is returned. -/
theorem response_framed (g : ChildState ℚ) (bufferOk slotsOk : Bool) (nowMs : UInt64) (method path : CStr)
    (answers : List Answer) : ∃ w, respond g bufferOk slotsOk nowMs method path answers = some w ∧
      Framed (handleRequest g (metricsText g bufferOk slotsOk) nowMs method path) w := by
  have hresp := handleRequest_dispatched g bufferOk slotsOk nowMs method path
  unfold respond
  set resp := handleRequest g (metricsText g bufferOk slotsOk) nowMs method path
  have hhead := headerText_eq hresp.statusText.1
  obtain ⟨w, hw, hwire, hcomplete⟩ := writeResponse_spec answers resp.status resp.body resp.contentType
    (hhead ▸ hresp.fits)
  rw [hhead] at hwire hcomplete
  exact ⟨w, hw, hresp.wellFormed, hresp.fits, hwire, hcomplete⟩

end GpuHealth.ResponseFraming
