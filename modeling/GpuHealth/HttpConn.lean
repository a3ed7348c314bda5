/-
One plain connection of the HTTP child at the level of its `read` and `write` calls (`src/http.c`): `read_request_line`,
`conn_write_all` and `write_response`.

The request buffer is a `Frame` of `cap` bytes with any content at the start; pointers into it are indices, and every
access of it is checked (none is an access outside). The request is cut in place: the newline, the CR in front of it
and the two spaces become terminators, and the strings are read at the end, as the caller reads them.

A response is written in two phases, header and body. The header is printed into `headerSize` bytes; one that does not
fit is not written at all.

On a plain connection `conn_read` and `conn_write` are `read` and `write`.
-/
import GpuHealth.Core.Streams
import GpuHealth.Core.Buffer
import GpuHealth.Render

namespace GpuHealth.HttpConn

open GpuHealth.Framing GpuHealth.Streams GpuHealth.Buffer GpuHealth.HttpChild GpuHealth.Decimal

/-! ## The request line -/

/-- `REQ_BUF_SIZE` -/
def reqBufSize : ℕ := 4096

variable {cap : ℕ}

structure RequestVars (cap : ℕ) where
  buf : Frame Char cap
  pos : ℕ
  /-- the loop is left by its break -/
  brk : Bool

/-- the third argument of `conn_read`, 0 when the loop is left -/
def requestRoom (v : RequestVars cap) : ℕ := if v.brk = false ∧ v.pos < cap - 1 then cap - v.pos - 1 else 0

/-- the loop body behind a `conn_read` that delivered bytes -/
def requestGot (v : RequestVars cap) (bs : List Char) : Option (RequestVars cap) := do
  let buf ← store v.buf v.pos bs
  let lf ← memchr buf '\n' (v.pos + bs.length)
  some ⟨buf, v.pos + bs.length, lf.isSome⟩

/-- `*(lf - 1)` becomes a terminator if it is a CR -/
def cutCr (buf : Frame Char cap) (lf : ℕ) : Option (Frame Char cap) :=
  if lf > 0 then do
    let c ← peek buf (lf - 1)
    if c = '\r' then store buf (lf - 1) ['\x00'] else some buf
  else some buf

/-- `*sp2` becomes a terminator if there is a second space -/
def cutSp2 (buf : Frame Char cap) (path : ℕ) : Option (Frame Char cap) := do
  match ← strchr '\x00' buf path ' ' with
  | none => some buf
  | some sp2 => store buf sp2 ['\x00']

/-- the line, cut at its spaces; the inner none is the return value -1 -/
def cutSpaces (buf : Frame Char cap) : Option (Option (CStr × CStr)) := do
  match ← strchr '\x00' buf 0 ' ' with
  | none => some none
  | some sp1 =>
    let buf ← store buf sp1 ['\x00']
    let buf ← cutSp2 buf (sp1 + 1)
    let method ← cstring '\x00' buf 0
    let path ← cstring '\x00' buf (sp1 + 1)
    some (some (method, path))

/-- behind the loop -/
def parseRequest (buf : Frame Char cap) (pos : ℕ) : Option (Option (CStr × CStr)) := do
  let buf ← store buf pos ['\x00']
  match ← memchr buf '\n' pos with
  | none => some none
  | some lf =>
    let buf ← store buf lf ['\x00']
    let buf ← cutCr buf lf
    cutSpaces buf

/-- the method and the path, or none for the return value -1; the outer none is an access outside `buf` -/
def readRequestLine (buf : Frame Char cap) (src : List (Event Char)) : Option (Option (CStr × CStr)) :=
  match readLoop requestRoom requestGot ⟨buf, 0, false⟩ src with
  | .fault => none
  | .failed => some none
  | .done v _ => parseRequest v.buf v.pos

/-! ## The response -/

/-- `sizeof(header)` -/
def headerSize : ℕ := 256

def statusText : ℤ → CStr
  | 200 => "OK".toList
  | 404 => "Not Found".toList
  | 405 => "Method Not Allowed".toList
  | 500 => "Internal Server Error".toList
  | 503 => "Service Unavailable".toList
  | _ => "Unknown".toList

def crlf : CStr := ['\r', '\n']

def contentTypeName : CStr := "Content-Type".toList

def contentLengthName : CStr := "Content-Length".toList

def connectionName : CStr := "Connection".toList

def closeText : CStr := "close".toList

def httpVersion : CStr := "HTTP/1.1".toList

def statusLine (status reason : CStr) : CStr := httpVersion ++ ' ' :: status ++ ' ' :: reason ++ crlf

def headerLine (name value : CStr) : CStr := name ++ ':' :: ' ' :: value ++ crlf

/-- what `snprintf` prints into `header` -/
def headerText (status : ℤ) (contentType : CStr) (bodyLen : ℕ) : CStr :=
  statusLine (intText status) (statusText status) ++
    headerLine contentTypeName contentType ++
    headerLine contentLengthName (natText bodyLen) ++
    headerLine connectionName closeText ++
    crlf

/-- the return value, and the bytes put on the wire -/
structure Written where
  ret : ℤ
  wire : CStr
deriving DecidableEq, Repr

/-- none is an access outside the header or the body -/
def writeResponse (answers : List Answer) (status : ℤ) (body : CStr) (bodyLen : ℕ) (contentType : CStr) :
    Option Written :=
  let header := headerText status contentType bodyLen
  if header.length ≥ headerSize then some ⟨-1, []⟩
  else do
    let r ← writeLoop header answers 0 header.length
    if r.ok = false then some ⟨-1, r.wire⟩
    else if bodyLen > 0 then
      let r' ← writeLoop body r.rest 0 bodyLen
      some ⟨if r'.ok then 0 else -1, r.wire ++ r'.wire⟩
    else some ⟨0, r.wire⟩

/-- the text of `/metrics`: none without a buffer, an error line without a copy of the slots -/
def metricsText (g : ChildState ℚ) (bufferOk slotsOk : Bool) : Option CStr :=
  if bufferOk then some (Render.renderMetrics Render.metricsBufSize (if slotsOk then some g.gSlots else none)) else none

/-- `handle_request` with what `malloc` and the clock answer -/
def respond (g : ChildState ℚ) (bufferOk slotsOk : Bool) (nowMs : UInt64) (method path : CStr) (answers : List Answer) :
    Option Written :=
  let r := handleRequest g (metricsText g bufferOk slotsOk) nowMs method path
  writeResponse answers r.status r.body r.body.length r.contentType

/-- the round of the accept loop with one client in the clear: nothing is written without a request line -/
def serveConn (g : ChildState ℚ) (buf : Frame Char reqBufSize) (src : List (Event Char)) (bufferOk slotsOk : Bool)
    (nowMs : UInt64) (answers : List Answer) : Option Written :=
  match readRequestLine buf src with
  | none => none
  | some none => some ⟨-1, []⟩
  | some (some (method, path)) => respond g bufferOk slotsOk nowMs method path answers

end GpuHealth.HttpConn
