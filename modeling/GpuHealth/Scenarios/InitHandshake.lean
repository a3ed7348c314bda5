/-
The start of a child on its stream.

`init_handshake`: the parent has written its init message, in any pieces and with any interruptions, and behind it comes
the stream of the messages of the threads. Then, however the kernel cuts what arrives, and wherever it ends: the child
exits, or it starts with the parent's number of GPUs, and its receiver thread gets the messages from the first one on,
one each: no byte of the init message is taken for one of a message, and none of a message for the number. It does start
when the number is one it takes and the first four bytes arrive before a call is interrupted.
-/
import GpuHealth.InitMessage
import GpuHealth.Scenarios.ReceiverFraming

namespace GpuHealth.InitHandshake

open GpuHealth.Framing GpuHealth.HttpChild GpuHealth.InitMessage GpuHealth.Ipc GpuHealth.IpcReceiver
open GpuHealth.ReceiverFraming GpuHealth.Streams

variable {K : Type}

/-- what the parent has put on the wire when it goes on to `fork` -/
theorem writeIpcInit_wire {n : Int32} {answers : List Answer} {r : WriteRes UInt8}
    (h : writeIpcInit n answers = some r) (hok : r.ok = true) : r.wire = initBytes n := by
  have hfits : 0 + initSize ≤ (initBytes n).length := by rw [initBytes_length, Nat.zero_add]
  obtain ⟨r', hr', -, hall⟩ := writeLoop_spec (initBytes n) answers hfits
  obtain rfl := Option.some.inj (h.symm.trans hr')
  rw [hall.1 hok, List.drop_zero, List.take_of_length_le (initBytes_length n).le]

/-- the child's loop takes the first four bytes, or fails -/
theorem readInit_cases (init : InitMsg) (src : List (Event UInt8)) :
    readOnceLoop InitVars.rem initGot ⟨init, 0, initSize⟩ src = .failed ∨
    ∃ v rest, readOnceLoop InitVars.rem initGot ⟨init, 0, initSize⟩ src = .done v rest ∧
      initSize ≤ (arriving src).length ∧ v.init.val = (arriving src).take initSize ∧
      arriving rest = (arriving src).drop initSize := by
  have hstart : InitInv ⟨init, 0, initSize⟩ [] := ⟨rfl, Nat.zero_add _, rfl⟩
  have hgot : ∀ v seen bs, InitInv v seen → bs ≠ [] → bs.length ≤ v.rem →
      ∃ v', initGot v bs = some v' ∧ InitInv v' (seen ++ bs) := fun _ _ _ hI _ hfits => initGot_inv hI hfits
  rcases readOnceLoop_cases InitVars.rem initGot ⟨init, 0, initSize⟩ src with hloop | hsame
  · exact Or.inl hloop
  · rcases readLoop_rule hgot hstart src with ⟨v, seen, rest, hdone, hI, hroom, hall⟩ | ⟨v, hloop, -, -⟩
    · obtain ⟨hp, hrem, hstored⟩ := hI
      rw [List.nil_append] at hall
      have hlen : seen.length = initSize := by omega
      refine Or.inr ⟨v, rest, hsame.trans hdone, ?_, ?_, ?_⟩
      · rw [← hall, List.length_append, hlen]
        exact Nat.le_add_right _ _
      · rw [← hall, List.take_left' hlen, ← hstored, hlen, List.take_of_length_le v.init.property.le]
      · rw [← hall, List.drop_left' hlen]
    · exact Or.inl (hsame.trans hloop)

/-- a thread that reads a beginning of the messages -/
theorem receiver_sent (decode : IpcMsg → GpuIpcMsg K) (g : ChildState K) (msg : IpcMsg) {rest : List (Event UInt8)}
    {frames : List IpcMsg} {part : List UInt8} (hpart : part.length < msgSize)
    (harr : arriving rest <+: concat frames ++ part) (k : ℕ) :
    ∃ r, ipcReceiverThread decode g msg rest k = some r ∧ r.received <+: frames ∧
      r.g = (r.received.map decode).foldl receive g := by
  obtain ⟨r, hr, hinv⟩ := thread_inv decode g msg rest k
  refine ⟨r, hr, ?_, hinv.table⟩
  have hfront : concat r.received <+: concat frames ++ part := by
    rw [hinv.blocks]
    exact (List.take_prefix _ _).trans harr
  obtain ⟨left, hleft⟩ := hfront
  exact frames_initial hleft hpart

/-- what the loop takes is the message, and what it leaves a beginning of the rest -/
theorem init_taken {n : Int32} {sent : List UInt8} {src rest : List (Event UInt8)} {v : InitVars}
    (harr : arriving src <+: initBytes n ++ sent) (hlen : initSize ≤ (arriving src).length)
    (hval : v.init.val = (arriving src).take initSize) (hrest : arriving rest = (arriving src).drop initSize) :
    v.init.numGpus = n ∧ arriving rest <+: sent := by
  obtain ⟨tail, htail⟩ := harr
  have hfront : (arriving src).take initSize = initBytes n := by
    have htake := congrArg (List.take initSize) htail
    rwa [List.take_append_of_le_length hlen, List.take_left' (initBytes_length n)] at htake
  refine ⟨numGpus_initBytes (hval.trans hfront), tail, ?_⟩
  have hdrop := congrArg (List.drop initSize) htail
  rwa [List.drop_append_of_le_length hlen, List.drop_left' (initBytes_length n), ← hrest] at hdrop

/-- **The start of a child.** -/
theorem init_handshake [Zero K] (n : Int32) (answers : List Answer) (w : WriteRes UInt8)
    (hwrite : writeIpcInit n answers = some w) (hok : w.ok = true) (frames : List IpcMsg) (part : List UInt8)
    (hpart : part.length < msgSize) (src : List (Event UInt8))
    (harr : arriving src <+: w.wire ++ (concat frames ++ part)) (pollIntervalS : ℤ) (init : InitMsg)
    (decode : IpcMsg → GpuIpcMsg K) :
    ((httpChildInit pollIntervalS init src : Option (ChildState K × List (Event UInt8))) = none ∨
      ∃ g rest, httpChildInit pollIntervalS init src = some (g, rest) ∧ childStart n.toInt pollIntervalS = some g ∧
        ∀ msg k, ∃ r, ipcReceiverThread decode g msg rest k = some r ∧ r.received <+: frames ∧
          r.g = (r.received.map decode).foldl receive g) ∧
    (∀ a b, src = a ++ b → .eintr ∉ a → initSize ≤ (arriving a).length →
      (childStart n.toInt pollIntervalS : Option (ChildState K)).isSome →
      (httpChildInit pollIntervalS init src : Option (ChildState K × List (Event UInt8))).isSome) := by
  rw [writeIpcInit_wire hwrite hok] at harr
  rcases readInit_cases init src with hfailed | ⟨v, rest, hdone, hlen, hval, hrest⟩
  · refine ⟨Or.inl (by rw [httpChildInit, hfailed]), ?_⟩
    rintro a b rfl heintr henough -
    exact absurd hfailed (readOnceLoop_enough (fun _ _ _ => initGot_rem) a b _ heintr henough)
  · obtain ⟨hnum, hfront⟩ := init_taken harr hlen hval hrest
    have hstart : httpChildInit pollIntervalS init src =
        (childStart n.toInt pollIntervalS : Option (ChildState K)).map fun g => (g, rest) := by
      rw [httpChildInit, hdone]
      dsimp only
      rw [hnum]
    rw [hstart]
    constructor
    · cases hchild : (childStart n.toInt pollIntervalS : Option (ChildState K)) with
      | none => exact Or.inl rfl
      | some g => exact Or.inr ⟨g, rest, rfl, rfl, fun msg k => receiver_sent decode g msg hpart hfront k⟩
    · intro a b _ _ _ hchild
      rwa [Option.isSome_map]

/-- the second piece ends the init message and begins the first of the others -/
def firstPieces : List (Event UInt8) := [.piece 2 [0], .piece 0 (0 :: List.replicate 300 1)]

/-- two messages, in pieces of their own, and the beginning of a third -/
def laterPieces : List (Event UInt8) :=
  [.eintr, .piece 1 (List.replicate 339 1 ++ List.replicate 600 2), .piece 2 (List.replicate 39 2 ++ [3, 3])]

def sentFrames : List IpcMsg := [1, 2].map fun b => ⟨List.replicate msgSize b, List.length_replicate⟩

def numbered (frame : IpcMsg) : GpuIpcMsg ℚ := ⟨(frame.val.headD 0).toNat - 1, .zeroed⟩

theorem init_handshake_two : ∃ g rest,
    httpChildInit 10 ⟨[9, 9, 9, 9], rfl⟩ (firstPieces ++ laterPieces) = some (g, rest) ∧ childStart 2 10 = some g ∧
      ∀ msg k, ∃ r, ipcReceiverThread numbered g msg rest k = some r ∧ r.received <+: sentFrames ∧
        r.g = (r.received.map numbered).foldl receive g := by
  have hsent : arriving (firstPieces ++ laterPieces) <+: initBytes 2 ++ (concat sentFrames ++ [3, 3]) := by
    decide +kernel
  obtain ⟨hcases, hstarts⟩ := init_handshake (K := ℚ) 2 [.accept 0, .eintr, .accept 5] ⟨initBytes 2, true, []⟩ rfl rfl
    sentFrames [3, 3] (by decide) (firstPieces ++ laterPieces) hsent 10 ⟨[9, 9, 9, 9], rfl⟩ numbered
  have hwhole : .eintr ∉ firstPieces := by
    simp only [firstPieces, List.mem_cons, List.not_mem_nil, reduceCtorEq, or_self, not_false_eq_true]
  have hsome := hstarts firstPieces laterPieces rfl hwhole (by decide +kernel) (by decide)
  rcases hcases with hnone | hstarted
  · rw [hnone] at hsome
    cases hsome
  · exact hstarted

end GpuHealth.InitHandshake
