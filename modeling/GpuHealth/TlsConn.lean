/-
One TLS connection of the HTTP child at the level of its mbedTLS calls (`src/http.c` built with `WITH_TLS`): the loops of
`read_request_line` and `conn_write_all` over `conn_read` and `conn_write`.

Each loop is fed what `mbedtls_ssl_read` and `mbedtls_ssl_write` return, with what they do to `errno`. The inner loops of
`conn_read` and `conn_write` repeat a call on WANT_READ and WANT_WRITE; any other negative value is their return value,
and the outer loop then looks at `errno`, as it does for `read` and `write`.
-/
import GpuHealth.Core.RetryLoops
import GpuHealth.HttpConn

namespace GpuHealth.TlsConn

open GpuHealth.Framing GpuHealth.HttpConn GpuHealth.RetryLoops

/-! ## Reading the request -/

/-- what `mbedtls_ssl_read` returns: a number of bytes, 0, or a negative value -/
inductive SslRead where
  | data (b : Char) (bs : List Char)
  | eof
  /-- `MBEDTLS_ERR_SSL_WANT_READ` or `MBEDTLS_ERR_SSL_WANT_WRITE` -/
  | want
  /-- any other -/
  | error (code : ℤ)

variable {cap : ℕ}

structure TlsRequest (cap : ℕ) where
  vars : RequestVars cap
  errno : ℤ

/-- the method and the path, none for -1, or an access outside the buffer -/
abbrev RequestRet := Option (Option (CStr × CStr))

/-- the head of the loop, and what is behind it -/
def requestHead (s : TlsRequest cap) : Except RequestRet (TlsRequest cap) :=
  if requestRoom s.vars = 0 then .error (parseRequest s.vars.buf s.vars.pos) else .ok s

def requestCall (s : TlsRequest cap) (call : Call SslRead) : Except RequestRet (TlsRequest cap) :=
  let errno := call.errno.getD s.errno
  match call.ret with
  | .want => .ok { s with errno }
  | .eof => .error (some none)
  | .error _ => if errno = eintr then .ok { s with errno } else .error (some none)
  | .data b bs =>
    match requestGot s.vars ((b :: bs).take (requestRoom s.vars)) with
    | none => .error none
    | some vars => requestHead { vars, errno }

/-- `read_request_line`, as far as these calls take it -/
def readRequestLine (buf : Frame Char cap) (errno : ℤ) (calls : List (Call SslRead)) :
    Except RequestRet (TlsRequest cap) :=
  requestHead ⟨⟨buf, 0, false⟩, errno⟩ >>= calls.foldlM requestCall

/-! ## Writing -/

/-- what `mbedtls_ssl_write` returns: a number of bytes, or a negative value -/
inductive SslWrite where
  | wrote (n : ℕ)
  | want
  | error (code : ℤ)

/-- the range that is still to be written; `done` bytes of it are, in this call of `conn_write` -/
structure TlsWriter where
  buf : ℕ
  len : ℕ
  done : ℕ
  errno : ℤ

/-- the head of the loop -/
def writeHead (s : TlsWriter) : Except ℤ TlsWriter := if s.len > 0 then .ok s else .error 0

def writeCall (s : TlsWriter) (call : Call SslWrite) : Except ℤ TlsWriter :=
  let errno := call.errno.getD s.errno
  match call.ret with
  | .want => .ok { s with errno }
  | .error _ =>
    -- `conn_write` forgets what it has written
    if errno = eintr then .ok { s with done := 0, errno } else .error (-1)
  | .wrote n =>
    let done := s.done + min n (s.len - s.done)
    if done < s.len then .ok { s with done, errno }
    else writeHead ⟨s.buf + done, s.len - done, 0, errno⟩

/-- `conn_write_all`, as far as these calls take it -/
def connWriteAll (len : ℕ) (errno : ℤ) (calls : List (Call SslWrite)) : Except ℤ TlsWriter :=
  writeHead ⟨0, len, 0, errno⟩ >>= calls.foldlM writeCall

/-! ## Both go by errno -/

theorem requestHead_ok {s s' : TlsRequest cap} (h : requestHead s = .ok s') : s' = s := by
  unfold requestHead at h
  split_ifs at h
  cases h
  rfl

theorem writeHead_ok {s s' : TlsWriter} (h : writeHead s = .ok s') : s' = s := by
  unfold writeHead at h
  split_ifs at h
  cases h
  rfl

theorem requestCall_errno (code : ℤ) :
    GoesByErrno (@requestCall cap) TlsRequest.errno (some none) ⟨.error code, none⟩ where
  keeps := rfl
  follows := by
    intro s c s' h
    unfold requestCall at h
    dsimp only at h
    split at h
    · cases h
      rfl
    · cases h
    · split_ifs at h
      cases h
      rfl
    · split at h
      · cases h
      · rw [requestHead_ok h]
  stops := fun s hne => if_neg hne
  retries := fun s heq => ⟨_, if_pos heq⟩

theorem writeCall_errno (code : ℤ) : GoesByErrno writeCall TlsWriter.errno (-1) ⟨.error code, none⟩ where
  keeps := rfl
  follows := by
    intro s c s' h
    unfold writeCall at h
    dsimp only at h
    split at h
    · cases h
      rfl
    · split_ifs at h
      cases h
      rfl
    · split_ifs at h
      · cases h
        rfl
      · rw [writeHead_ok h]
  stops := fun s hne => if_neg hne
  retries := fun s heq => ⟨_, if_pos heq⟩

end GpuHealth.TlsConn
