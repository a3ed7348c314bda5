/-
What a client reads.

`reply_or_nothing`: for every state of the child, every client and every behaviour of its connection (a request in any
pieces, whatever the request buffer held before, a response that is accepted in part, interrupted or refused at any
call), the client gets nothing without a request line. With one it reads (`HttpReader`) exactly the response to its own
request when `write_response` returns 0; when it returns -1, what has arrived does not read as a message. A client never
takes a part of a response for all of it.
-/
import GpuHealth.Core.HttpReader
import GpuHealth.Scenarios.RequestLine
import GpuHealth.Scenarios.ResponseFraming

namespace GpuHealth.Replies

open GpuHealth.Buffer GpuHealth.Framing GpuHealth.HttpChild GpuHealth.HttpConn GpuHealth.HttpReader GpuHealth.Streams
open GpuHealth.Decimal GpuHealth.RequestLine GpuHealth.ResponseFraming

/-! ## A response as a message -/

/-- the message of a response -/
def replyOf (resp : Response) : Message where
  start := httpVersion ++ ' ' :: natText resp.status.toNat ++ ' ' :: statusText resp.status
  fields := (messageOf resp).headers
  body := resp.body

theorem replyOf_text (resp : Response) : (replyOf resp).text = (messageOf resp).bytes := by
  simp [Message.text, Message.lines, replyOf, HttpResponse.bytes, HttpResponse.head, messageOf, statusLine, headerLine,
    fieldLine, HttpReader.crlf, HttpConn.crlf]

/-- a text without CR, and without blanks at its ends -/
def Tidy (s : CStr) : Prop := '\r' ∉ s ∧ s.head?.any blank = false ∧ s.getLast?.any blank = false

instance (s : CStr) : Decidable (Tidy s) := inferInstanceAs (Decidable (_ ∧ _))

theorem natText_tidy (n : ℕ) : Tidy (natText n) := by
  have hdigit : ∀ c ∈ natText n, blank c = false ∧ c ≠ '\r' := by
    intro c hc
    have hd := natText_digit hc
    constructor
    · by_contra hb
      simp only [blank, Bool.or_eq_true, decide_eq_true_eq, Bool.not_eq_false] at hb
      rcases hb with rfl | rfl <;> exact absurd hd (by decide)
    · rintro rfl
      exact absurd hd (by decide)
  refine ⟨fun hmem => (hdigit _ hmem).2 rfl, ?_, ?_⟩
  · cases hhead : (natText n).head? with
    | none => rfl
    | some c => exact (hdigit c (List.mem_of_head? hhead)).1
  · cases hlast : (natText n).getLast? with
    | none => rfl
    | some c => exact (hdigit c (List.mem_of_getLast? hlast)).1

theorem bodyLength_reply (resp : Response) : bodyLength (replyOf resp).fields = some resp.body.length := by
  have hone : contentLengths (replyOf resp).fields = [natText resp.body.length] := by
    have htype : contentTypeName.map Char.toLower ≠ "content-length".toList := by decide
    have hlength : contentLengthName.map Char.toLower = "content-length".toList := by decide
    have hclose : connectionName.map Char.toLower ≠ "content-length".toList := by decide
    simp only [contentLengths, replyOf, messageOf, List.filterMap_cons, List.filterMap_nil, if_neg htype, if_neg hclose,
      if_pos hlength]
  have hdigits : (natText resp.body.length).all Char.isDigit = true :=
    List.all_eq_true.2 fun c hc => natText_digit hc
  rw [bodyLength, hone]
  dsimp only
  rw [if_pos ⟨natText_ne_nil _, hdigits⟩, natText_value]

/-- every answer of the dispatcher is a well-formed message -/
theorem reply_wellFormed {resp : Response} (h : Dispatched resp) : (replyOf resp).WellFormed where
  start := by
    have hreason : '\r' ∉ statusText resp.status := h.wellFormed.reason.1
    refine ⟨by simp [replyOf], ?_⟩
    have hversion : '\r' ∉ httpVersion := by decide
    simp [replyOf, hreason, hversion, (natText_tidy _).1]
  fields := by
    have htype : Tidy resp.contentType := by
      have hmem := h.contentType
      simp only [List.mem_cons, List.not_mem_nil, or_false] at hmem
      rcases hmem with heq | heq <;> rw [heq] <;> decide
    have hclose : Tidy closeText := by decide
    have hfield : ∀ {name value : CStr}, ':' ∉ name ∧ '\r' ∉ name → Tidy value → FieldWellFormed (name, value) :=
      fun hname hvalue => ⟨hname, hvalue.1, hvalue.2.1, hvalue.2.2⟩
    change ∀ f ∈ [_, _, _], FieldWellFormed f
    refine List.forall_mem_cons.2 ⟨hfield (by decide) htype, List.forall_mem_cons.2 ⟨hfield (by decide) (natText_tidy _),
      List.forall_mem_singleton.2 (hfield (by decide) hclose)⟩⟩
  length := bodyLength_reply resp

/-! ## A connection -/

/-- what a client reads, for what the child writes -/
structure Reads (resp : Response) (w : Written) : Prop where
  whole : w.ret = 0 → readMessage w.wire = some (replyOf resp)
  cut : w.ret ≠ 0 → readMessage w.wire = none

theorem respond_reads (g : ChildState ℚ) (bufferOk slotsOk : Bool) (nowMs : UInt64) (method path : CStr)
    (answers : List Answer) : ∃ w, respond g bufferOk slotsOk nowMs method path answers = some w ∧
      Reads (handleRequest g (metricsText g bufferOk slotsOk) nowMs method path) w := by
  have hresp := handleRequest_dispatched g bufferOk slotsOk nowMs method path
  unfold respond
  set resp := handleRequest g (metricsText g bufferOk slotsOk) nowMs method path
  have hhead := headerText_eq hresp.statusText.1
  obtain ⟨w, hw, hwire, hcomplete⟩ := writeResponse_spec answers resp.status resp.body resp.contentType
    (hhead ▸ hresp.fits)
  have hbytes : headerText resp.status resp.contentType resp.body.length ++ resp.body = (replyOf resp).text := by
    rw [replyOf_text, hhead]
    rfl
  rw [hbytes] at hwire hcomplete
  refine ⟨w, hw, ⟨fun hret => ?_, fun hret => ?_⟩⟩
  · rw [hcomplete.1 hret]
    have hread := readMessage_text (reply_wellFormed hresp) []
    rwa [List.append_nil] at hread
  · exact readMessage_cut (reply_wellFormed hresp) hwire (mt hcomplete.2 hret)

/-- what is on the wire, for the request line of the stream -/
def Answered (g : ChildState ℚ) (metrics : Option CStr) (nowMs : UInt64) (w : Written) : Option (CStr × CStr) → Prop
  | none => w.wire = []
  | some (method, path) => Reads (handleRequest g metrics nowMs method path) w

/-- **A client reads the whole response to its own request, or no response.** -/
theorem reply_or_nothing (g : ChildState ℚ) (buf : Frame Char reqBufSize) (src : List (Event Char))
    (bufferOk slotsOk : Bool) (nowMs : UInt64) (answers : List Answer) :
    ∃ w, serveConn g buf src bufferOk slotsOk nowMs answers = some w ∧
      Answered g (metricsText g bufferOk slotsOk) nowMs w (requestLine reqBufSize (arriving src)) := by
  have hcap : 0 < reqBufSize := by decide
  rw [serveConn, readRequestLine_eq hcap]
  cases requestLine reqBufSize (arriving src) with
  | none => exact ⟨_, rfl, rfl⟩
  | some line => exact respond_reads g bufferOk slotsOk nowMs line.1 line.2 answers

end GpuHealth.Replies
