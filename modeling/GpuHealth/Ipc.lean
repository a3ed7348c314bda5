/-
The IPC stream at the level of its system calls (`snapshot_send` and `snapshot_recv` of `src/snapshot.c`).

The poll threads of all GPUs share one stream descriptor. A message is the object representation of a
`gpu_ipc_msg_t`: `msgSize` bytes. `snapshot_send` copies its message under the snapshot mutex and then writes it in a
loop, without a lock: each `write` may accept any part of what is left, or be interrupted. `snapshot_recv` reads in the
same way. A step of the system is one system call of one of the parties, in any order (`IpcOp`); an operation that its
party cannot make is skipped.

The `gpu_ipc_init_t` before the first message is written before the threads start and read before the loop, and is left
out. `Snapshot.snapshotSend` is a whole call as one step.
-/
import GpuHealth.Core.Framing

namespace GpuHealth.Ipc

open GpuHealth.Framing

/-- `sizeof(gpu_ipc_msg_t)` on a 64-bit system -/
def msgSize : ℕ := 640

theorem msgSize_pos : 0 < msgSize := by decide

abbrev IpcMsg := Frame UInt8 msgSize

/-- a call of `snapshot_send` in its loop; `remaining` is its variable -/
structure SendCall where
  msg : IpcMsg
  remaining : ℕ
deriving DecidableEq

/-- the bytes from `buf` on -/
def SendCall.buf (c : SendCall) : List UInt8 := c.msg.val.drop (msgSize - c.remaining)

/-- the bytes before `buf` -/
def SendCall.written (c : SendCall) : List UInt8 := c.msg.val.take (msgSize - c.remaining)

/-- the socket, the calls the threads `T` are in, and the child's receiver -/
structure IpcState (T : Type) where
  sending : T → Option SendCall
  /-- written and not yet read -/
  stream : List UInt8
  /-- what the current `snapshot_recv` has read -/
  got : List UInt8
  /-- what `snapshot_recv` has returned, oldest first -/
  received : List IpcMsg

def ipcStart (T : Type) : IpcState T := ⟨fun _ => none, [], [], []⟩

/-- one call of one party; the numbers are return values -/
inductive IpcOp (T : Type) where
  /-- the thread enters `snapshot_send`, with this message copied -/
  | send (t : T) (msg : IpcMsg)
  | write (t : T) (ret : ℕ)
  | writeEintr (t : T)
  | read (ret : ℕ)
  | readEintr

variable {T : Type} [DecidableEq T]

/-- `snapshot_send` up to its loop; a thread makes one call at a time -/
def snapshotSend (st : IpcState T) (t : T) (msg : IpcMsg) : IpcState T :=
  match st.sending t with
  | some _ => st
  | none => { st with sending := Function.update st.sending t (some ⟨msg, msgSize⟩) }

/-- a `write` of the loop accepts `ret` bytes; at 0 remaining bytes the call returns -/
def sendWrite (st : IpcState T) (t : T) (ret : ℕ) : IpcState T :=
  match st.sending t with
  | none => st
  | some c =>
    if 0 < ret ∧ ret ≤ c.remaining then
      { st with
        stream := st.stream ++ c.buf.take ret
        sending := Function.update st.sending t
          (if c.remaining - ret = 0 then none else some { c with remaining := c.remaining - ret }) }
    else st

/-- a `read` of the loop of `snapshot_recv` delivers `ret` bytes; a whole message is returned -/
def recvRead (st : IpcState T) (ret : ℕ) : IpcState T :=
  if 0 < ret ∧ ret ≤ st.stream.length ∧ ret ≤ msgSize - st.got.length then
    if h : (st.got ++ st.stream.take ret).length = msgSize then
      { st with
        stream := st.stream.drop ret
        got := []
        received := st.received ++ [⟨st.got ++ st.stream.take ret, h⟩] }
    else { st with stream := st.stream.drop ret, got := st.got ++ st.stream.take ret }
  else st

def ipcStep (st : IpcState T) : IpcOp T → IpcState T
  | .send t msg => snapshotSend st t msg
  | .write t ret => sendWrite st t ret
  | .read ret => recvRead st ret
  -- EINTR: the loop goes on as it was
  | .writeEintr _ => st
  | .readEintr => st

/-- the message a thread passes to `snapshot_send` in this step -/
def passed (st : IpcState T) : IpcOp T → Option (T × IpcMsg)
  | .send t msg => if st.sending t = none then some (t, msg) else none
  | _ => none

/-! ## What a step does -/

theorem snapshotSend_eq (st : IpcState T) (t : T) (msg : IpcMsg) :
    snapshotSend st t msg =
      if st.sending t = none then { st with sending := Function.update st.sending t (some ⟨msg, msgSize⟩) } else st := by
  unfold snapshotSend
  cases st.sending t <;> rfl

/-- **Everything a write can do**: nothing, finish its message, or go on with it. -/
theorem sendWrite_cases (st : IpcState T) (t : T) (ret : ℕ) :
    sendWrite st t ret = st ∨
    ∃ c, st.sending t = some c ∧ 0 < ret ∧
      ((ret = c.remaining ∧ sendWrite st t ret =
          { st with stream := st.stream ++ c.buf, sending := Function.update st.sending t none }) ∨
        (ret < c.remaining ∧ sendWrite st t ret =
          { st with
            stream := st.stream ++ c.buf.take ret
            sending := Function.update st.sending t (some { c with remaining := c.remaining - ret }) })) := by
  unfold sendWrite
  cases hc : st.sending t with
  | none => exact Or.inl rfl
  | some c =>
    dsimp only
    by_cases hret : 0 < ret ∧ ret ≤ c.remaining
    · refine Or.inr ⟨c, rfl, hret.1, ?_⟩
      rw [if_pos hret]
      rcases hret.2.eq_or_lt with heq | hlt
      · refine Or.inl ⟨heq, ?_⟩
        have hall : c.buf.take ret = c.buf := by
          apply List.take_of_length_le
          rw [SendCall.buf, List.length_drop, c.msg.property]
          omega
        rw [if_pos (by omega), hall]
      · refine Or.inr ⟨hlt, ?_⟩
        rw [if_neg (by omega)]
    · exact Or.inl (if_neg hret)

omit [DecidableEq T] in
theorem recvRead_sending (st : IpcState T) (ret : ℕ) : (recvRead st ret).sending = st.sending := by
  unfold recvRead
  split_ifs <;> rfl

omit [DecidableEq T] in
/-- a read moves bytes from the stream to the reader and keeps less than a message -/
theorem recvRead_spec (st : IpcState T) (ret : ℕ) (hgot : st.got.length < msgSize) :
    (recvRead st ret).got.length < msgSize ∧
      concat (recvRead st ret).received ++ (recvRead st ret).got ++ (recvRead st ret).stream =
        concat st.received ++ st.got ++ st.stream := by
  unfold recvRead
  by_cases hret : 0 < ret ∧ ret ≤ st.stream.length ∧ ret ≤ msgSize - st.got.length
  · rw [if_pos hret]
    by_cases hfull : (st.got ++ st.stream.take ret).length = msgSize
    · rw [dif_pos hfull]
      exact ⟨msgSize_pos, by simp⟩
    · rw [dif_neg hfull]
      refine ⟨?_, by simp⟩
      rw [List.length_append, List.length_take, Nat.min_eq_left hret.2.1] at hfull ⊢
      omega
  · rw [if_neg hret]
    exact ⟨hgot, rfl⟩

end GpuHealth.Ipc
