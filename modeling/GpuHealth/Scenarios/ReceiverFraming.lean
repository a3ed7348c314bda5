/-
Framing at the receiving end of the IPC stream, whatever the kernel does.

`receiver_framed`: for every byte stream, cut into `read` results in any way, with interrupted calls anywhere and an end
or an error behind any byte, and for every number of iterations of the receiver thread: the calls of `snapshot_recv`
have returned the first whole blocks of the stream, one each, in order; the call that meets the end or the error before
its block is complete returns -1 and ends the thread; and the slot table is the one of these blocks' messages, one after
the other. So neither a part of a message nor a block at another offset reaches it. No access leaves the message object.
-/
import GpuHealth.IpcReceiver

namespace GpuHealth.ReceiverFraming

open GpuHealth.Framing GpuHealth.Streams GpuHealth.Ipc GpuHealth.HttpChild GpuHealth.IpcReceiver

variable {K : Type}

/-- the whole blocks of a stream -/
def wholeBlocks (src : List (Event UInt8)) : ℕ := (arriving src).length / msgSize

/-- the thread after `k` iterations -/
structure Framed (decode : IpcMsg → GpuIpcMsg K) (g : ChildState K) (src : List (Event UInt8)) (k : ℕ)
    (r : Receiver K) : Prop where
  /-- one message for each iteration while there are whole blocks -/
  count : r.received.length = min k (wholeBlocks src)
  /-- the messages are the stream's consecutive blocks -/
  blocks : concat r.received = (arriving src).take (r.received.length * msgSize)
  /-- the iteration behind the last whole block ends the thread -/
  ended : r.gRunning = false ↔ wholeBlocks src < k
  table : r.g = (r.received.map decode).foldl receive g

/-- while the thread runs, the unread stream is what its messages leave -/
structure Inv (decode : IpcMsg → GpuIpcMsg K) (g : ChildState K) (src : List (Event UInt8)) (k : ℕ) (r : Receiver K) :
    Prop extends Framed decode g src k r where
  unread : r.gRunning = true → arriving r.src = (arriving src).drop (r.received.length * msgSize)

theorem receiverStep_inv {decode : IpcMsg → GpuIpcMsg K} {g : ChildState K} {src : List (Event UInt8)} {k : ℕ}
    {r : Receiver K} (h : Inv decode g src k r) :
    ∃ r', receiverStep decode r = some r' ∧ Inv decode g src (k + 1) r' := by
  obtain ⟨⟨hcount, hblocks, hended, htable⟩, hunread⟩ := h
  cases hrun : r.gRunning with
  | false =>
    have hlast := hended.1 hrun
    refine ⟨r, receiverStep_stopped decode hrun, ⟨?_, hblocks, ?_, htable⟩, hunread⟩
    · rw [hcount, Nat.min_eq_right hlast.le, Nat.min_eq_right (by omega)]
    · exact iff_of_true hrun (by omega)
  | true =>
    have hmore : k ≤ wholeBlocks src := by
      by_contra hno
      exact absurd (hended.2 (not_le.1 hno)) (by rw [hrun]; exact Bool.noConfusion)
    rw [Nat.min_eq_left hmore] at hcount
    have hrest : (arriving r.src).length = (arriving src).length - k * msgSize := by
      rw [hunread hrun, List.length_drop, hcount]
    have hdiv : wholeBlocks src = (arriving src).length / msgSize := rfl
    have hk : k * msgSize ≤ (arriving src).length := (Nat.le_div_iff_mul_le msgSize_pos).1 hmore
    rcases snapshotRecv_cases r.msg r.src with ⟨hwhole, v, rest, hcall, hmsg, hleft⟩ | ⟨hshort, hcall⟩
    · have hnext : k + 1 ≤ wholeBlocks src := by
        rw [hdiv, Nat.le_div_iff_mul_le msgSize_pos, Nat.add_mul]
        omega
      refine ⟨_, receiverStep_done decode hrun hcall, ⟨?_, ?_, ?_, ?_⟩, ?_⟩
      · rw [List.length_append, List.length_singleton, hcount, Nat.min_eq_left hnext]
      · rw [concat_append, hblocks, concat_cons, concat_nil, List.append_nil, hmsg, hunread hrun, List.length_append,
          List.length_singleton, Nat.add_mul, Nat.one_mul, List.take_add]
      · exact iff_of_false (by rw [hrun]; exact Bool.noConfusion) (by omega)
      · rw [List.map_append, List.foldl_append, ← htable]
        rfl
      · intro _
        rw [hleft, hunread hrun, List.drop_drop, List.length_append, List.length_singleton, Nat.add_mul, Nat.one_mul]
    · have hend : wholeBlocks src < k + 1 := by
        rw [hdiv, Nat.div_lt_iff_lt_mul msgSize_pos, Nat.add_mul]
        omega
      refine ⟨_, receiverStep_failed decode hrun hcall, ⟨?_, hblocks, ?_, htable⟩, ?_⟩
      · dsimp only
        omega
      · exact iff_of_true rfl hend
      · exact fun hno => Bool.noConfusion hno

theorem thread_inv (decode : IpcMsg → GpuIpcMsg K) (g : ChildState K) (msg : IpcMsg) (src : List (Event UInt8)) (k : ℕ) :
    ∃ r, ipcReceiverThread decode g msg src k = some r ∧ Inv decode g src k r := by
  induction k with
  | zero => exact ⟨_, rfl, ⟨by simp, by simp, by simp, rfl⟩, fun _ => by simp⟩
  | succ k ih =>
    obtain ⟨r, hr, hinv⟩ := ih
    obtain ⟨r', hstep, hinv'⟩ := receiverStep_inv hinv
    exact ⟨r', by rw [ipcReceiverThread, hr, Option.bind_some, hstep], hinv'⟩

/-- **The receiver is framed**, for every stream, every way to cut it, and every number of iterations. -/
theorem receiver_framed (decode : IpcMsg → GpuIpcMsg K) (g : ChildState K) (msg : IpcMsg) (src : List (Event UInt8))
    (k : ℕ) : ∃ r, ipcReceiverThread decode g msg src k = some r ∧ Framed decode g src k r := by
  obtain ⟨r, hr, hinv⟩ := thread_inv decode g msg src k
  exact ⟨r, hr, hinv.toFramed⟩

end GpuHealth.ReceiverFraming
