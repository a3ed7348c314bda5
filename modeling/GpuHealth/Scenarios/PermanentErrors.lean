/-
Whether the loops over a TLS connection end when its calls keep failing.

The property: whatever `errno` holds and whatever the connection did before, when from some call on `mbedtls_ssl_read` or
`mbedtls_ssl_write` keeps returning a negative value other than WANT_READ and WANT_WRITE and leaves `errno` alone,
`read_request_line` and `conn_write_all` return -1 after finitely many calls more. It fails: both take a negative value
for an interrupted call if `errno` is EINTR, also a stale one. Then they repeat the call for ever
(`close_notify_spins`).

`ends_on_error_iff`: for every `errno`, error code, buffer, length and every sequence of calls that the loop is still
running after, it returns -1 from the lasting error if and only if `errno` is not EINTR when the error sets in.
Witness `ends_on_error_fresh`: before it some bytes, an interrupted call and a wait, which sets `errno` again.
-/
import GpuHealth.TlsConn

namespace GpuHealth.PermanentErrors

open GpuHealth.Framing GpuHealth.RetryLoops GpuHealth.TlsConn
open GpuHealth.HttpConn (reqBufSize)

/-! ## The property -/

/-- a call that fails with `code` and leaves `errno` alone -/
def readFailure (code : ℤ) : Call SslRead := ⟨.error code, none⟩

def writeFailure (code : ℤ) : Call SslWrite := ⟨.error code, none⟩

/-- a `read_request_line` that is running after `calls` returns -1 when all further calls fail -/
def ReadEnds {cap : ℕ} (buf : Frame Char cap) (errno code : ℤ) (calls : List (Call SslRead)) : Prop :=
  EndsWith (readRequestLine buf errno) (some none) (readFailure code) calls

def WriteEnds (len : ℕ) (errno code : ℤ) (calls : List (Call SslWrite)) : Prop :=
  EndsWith (connWriteAll len errno) (-1) (writeFailure code) calls

structure EndsOnError (errno code : ℤ) : Prop where
  read : ∀ (cap : ℕ) (buf : Frame Char cap) (calls : List (Call SslRead)),
    Running (readRequestLine buf errno calls) → ReadEnds buf errno code calls
  write : ∀ (len : ℕ) (calls : List (Call SslWrite)),
    Running (connWriteAll len errno calls) → WriteEnds len errno code calls

/-! ## The two loops -/

theorem readEnds_iff {cap : ℕ} {buf : Frame Char cap} {errno : ℤ} (code : ℤ) {calls : List (Call SslRead)}
    (hrun : Running (readRequestLine buf errno calls)) :
    ReadEnds buf errno code calls ↔ errnoLeft errno calls ≠ eintr :=
  headed_ends_iff (requestCall_errno code) (fun _ hhead => requestHead_ok hhead) hrun

theorem writeEnds_iff {len : ℕ} {errno : ℤ} (code : ℤ) {calls : List (Call SslWrite)}
    (hrun : Running (connWriteAll len errno calls)) :
    WriteEnds len errno code calls ↔ errnoLeft errno calls ≠ eintr :=
  headed_ends_iff (writeCall_errno code) (fun _ hhead => writeHead_ok hhead) hrun

/-! ## The theorem -/

/-- **Both loops return from a lasting error if and only if EINTR was not left behind.** -/
theorem ends_on_error_iff (errno code : ℤ) :
    (∀ (cap : ℕ) (buf : Frame Char cap) (calls : List (Call SslRead)), Running (readRequestLine buf errno calls) →
      (ReadEnds buf errno code calls ↔ errnoLeft errno calls ≠ eintr)) ∧
    (∀ (len : ℕ) (calls : List (Call SslWrite)), Running (connWriteAll len errno calls) →
      (WriteEnds len errno code calls ↔ errnoLeft errno calls ≠ eintr)) :=
  ⟨fun _ _ _ hrun => readEnds_iff code hrun, fun _ _ hrun => writeEnds_iff code hrun⟩

/-- `MBEDTLS_ERR_SSL_PEER_CLOSE_NOTIFY` -/
def closeNotify : ℤ := -0x7880

/-- a buffer with any content -/
def freshBuf : Frame Char reqBufSize := ⟨List.replicate reqBufSize '?', List.length_replicate⟩

def eagain : ℤ := 11

/-- a success, an interrupted call, and one that has to wait -/
def readCalls : List (Call SslRead) :=
  [⟨.data 'G' "ET".toList, none⟩, ⟨.error (-0x4c), some eintr⟩, ⟨.want, some eagain⟩]

def writeCalls : List (Call SslWrite) := [⟨.wrote 2, none⟩, ⟨.error (-0x4e), some eintr⟩, ⟨.want, some eagain⟩]

/-- the error sets in behind these calls -/
theorem ends_on_error_fresh : ReadEnds freshBuf 0 closeNotify readCalls ∧ WriteEnds 5 0 closeNotify writeCalls :=
  ⟨((ends_on_error_iff 0 closeNotify).1 reqBufSize freshBuf readCalls ⟨_, rfl⟩).2 (by decide),
    ((ends_on_error_iff 0 closeNotify).2 5 writeCalls ⟨_, rfl⟩).2 (by decide)⟩

/-- With EINTR left behind, neither loop returns from a peer's close, however often it calls. -/
theorem close_notify_spins :
    (∀ n, Running (readRequestLine freshBuf eintr (List.replicate n (readFailure closeNotify)))) ∧
    (∀ n, Running (connWriteAll 5 eintr (List.replicate n (writeFailure closeNotify)))) ∧
    ¬ EndsOnError eintr closeNotify := by
  refine ⟨fun n => ?_, fun n => ?_, fun h => ?_⟩
  · exact running_of_eintr (requestCall_errno closeNotify) rfl n
  · exact running_of_eintr (writeCall_errno closeNotify) rfl n
  · have hends := h.write 5 [] ⟨_, rfl⟩
    exact (writeEnds_iff closeNotify ⟨_, rfl⟩).1 hends rfl

end GpuHealth.PermanentErrors
