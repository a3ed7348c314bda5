/-
The receiving end of the IPC stream at the level of its `read` calls (`snapshot_recv` of `src/snapshot.c`,
`ipc_receiver_thread` of `src/http.c`).

`snapshot_recv` fills its message in a loop (`Streams.readLoop`) whose pointer and count of remaining bytes are
variables of their own. The thread is a step for each iteration of its loop; it reuses one message for all calls.
`g_running` may also be cleared elsewhere, so a run may end after any number of iterations. How the bytes of a message are
its members (the object representation of `gpu_ipc_msg_t`) is a parameter, `decode`.

`snapshotRecv_cases`: a call takes the next block off the stream, or fails when less than a block is left.
-/
import GpuHealth.Core.Streams
import GpuHealth.Core.Buffer
import GpuHealth.Ipc
import GpuHealth.HttpChild

namespace GpuHealth.IpcReceiver

open GpuHealth.Framing GpuHealth.Streams GpuHealth.Buffer GpuHealth.Ipc GpuHealth.HttpChild

variable {K : Type}

/-! ## snapshot_recv -/

structure RecvVars where
  msg : IpcMsg
  buf : ℕ
  remaining : ℕ

/-- the loop body behind a `read` that delivered bytes -/
def recvGot (v : RecvVars) (bs : List UInt8) : Option RecvVars := do
  let msg ← store v.msg v.buf bs
  some ⟨msg, v.buf + bs.length, v.remaining - bs.length⟩

def snapshotRecv (msg : IpcMsg) (src : List (Event UInt8)) : LoopRes RecvVars UInt8 :=
  readLoop RecvVars.remaining recvGot ⟨msg, 0, msgSize⟩ src

/-! ## The receiver thread -/

structure Receiver (K : Type) where
  g : ChildState K
  msg : IpcMsg
  src : List (Event UInt8)
  gRunning : Bool
  /-- what the calls have returned, oldest first -/
  received : List IpcMsg

/-- one iteration; none when it reaches outside the message -/
def receiverStep (decode : IpcMsg → GpuIpcMsg K) (r : Receiver K) : Option (Receiver K) :=
  if r.gRunning = false then some r
  else
    match snapshotRecv r.msg r.src with
    | .fault => none
    | .failed => some { r with gRunning := false }
    | .done v rest =>
      some { r with g := receive r.g (decode v.msg), msg := v.msg, src := rest, received := r.received ++ [v.msg] }

/-- the thread after `k` iterations, from the child's state and what arrives -/
def ipcReceiverThread (decode : IpcMsg → GpuIpcMsg K) (g : ChildState K) (msg : IpcMsg) (src : List (Event UInt8)) :
    ℕ → Option (Receiver K)
  | 0 => some ⟨g, msg, src, true, []⟩
  | k + 1 => (ipcReceiverThread decode g msg src k).bind (receiverStep decode)

/-! ## One call -/

/-- the pointer and the count agree, and the message begins with what was read -/
structure RecvInv (v : RecvVars) (seen : List UInt8) : Prop where
  buf : v.buf = seen.length
  remaining : v.buf + v.remaining = msgSize
  stored : v.msg.val.take v.buf = seen

theorem recvGot_inv {v : RecvVars} {seen bs : List UInt8} (h : RecvInv v seen) (hfits : bs.length ≤ v.remaining) :
    ∃ v', recvGot v bs = some v' ∧ RecvInv v' (seen ++ bs) := by
  obtain ⟨hbuf, hrem, hstored⟩ := h
  obtain ⟨msg, hmsg, hval⟩ := store_inside v.msg v.buf bs (by omega)
  refine ⟨⟨msg, v.buf + bs.length, v.remaining - bs.length⟩, by simp [recvGot, hmsg], ?_, ?_, ?_⟩
  · simp [hbuf]
  · dsimp only
    omega
  · have hfront : (seen ++ bs).length = v.buf + bs.length := by rw [List.length_append, hbuf]
    dsimp only
    rw [hval, hstored, ← hfront, List.take_left']
    rfl

/-- **A call takes the next block off the stream, or fails** when less than a block is left. -/
theorem snapshotRecv_cases (msg : IpcMsg) (src : List (Event UInt8)) :
    (msgSize ≤ (arriving src).length ∧ ∃ v rest, snapshotRecv msg src = .done v rest ∧
      v.msg.val = (arriving src).take msgSize ∧ arriving rest = (arriving src).drop msgSize) ∨
    ((arriving src).length < msgSize ∧ snapshotRecv msg src = .failed) := by
  have hstart : RecvInv ⟨msg, 0, msgSize⟩ [] := ⟨rfl, Nat.zero_add _, rfl⟩
  have hgot : ∀ v seen bs, RecvInv v seen → bs ≠ [] → bs.length ≤ v.remaining →
      ∃ v', recvGot v bs = some v' ∧ RecvInv v' (seen ++ bs) := fun _ _ _ hI _ hfits => recvGot_inv hI hfits
  rcases readLoop_rule hgot hstart src with
    ⟨v, seen, rest, hdone, hI, hroom, hall⟩ | ⟨v, hfailed, hI, hroom⟩
  · left
    obtain ⟨hbuf, hrem, hstored⟩ := hI
    rw [List.nil_append] at hall
    have hlen : seen.length = msgSize := by omega
    have hblock : v.msg.val = seen := by
      rw [← hstored, hbuf, hlen, List.take_of_length_le (by rw [v.msg.property])]
    have htake : (arriving src).take msgSize = seen ∧ (arriving src).drop msgSize = arriving rest := by
      rw [← hall, ← hlen]
      exact ⟨List.take_left' rfl, List.drop_left' rfl⟩
    refine ⟨?_, v, rest, hdone, hblock.trans htake.1.symm, htake.2.symm⟩
    rw [← hall, List.length_append, hlen]
    exact Nat.le_add_right _ _
  · right
    obtain ⟨hbuf, hrem, -⟩ := hI
    rw [List.nil_append] at hbuf
    exact ⟨by omega, hfailed⟩

/-! ## One iteration -/

theorem receiverStep_stopped (decode : IpcMsg → GpuIpcMsg K) {r : Receiver K} (h : r.gRunning = false) :
    receiverStep decode r = some r := if_pos h

theorem receiverStep_done (decode : IpcMsg → GpuIpcMsg K) {r : Receiver K} (h : r.gRunning = true) {v : RecvVars}
    {rest : List (Event UInt8)} (hcall : snapshotRecv r.msg r.src = .done v rest) :
    receiverStep decode r =
      some { r with
        g := receive r.g (decode v.msg), msg := v.msg, src := rest, received := r.received ++ [v.msg] } := by
  rw [receiverStep, if_neg (by rw [h]; exact Bool.noConfusion), hcall]

theorem receiverStep_failed (decode : IpcMsg → GpuIpcMsg K) {r : Receiver K} (h : r.gRunning = true)
    (hcall : snapshotRecv r.msg r.src = .failed) : receiverStep decode r = some { r with gRunning := false } := by
  rw [receiverStep, if_neg (by rw [h]; exact Bool.noConfusion), hcall]

end GpuHealth.IpcReceiver
