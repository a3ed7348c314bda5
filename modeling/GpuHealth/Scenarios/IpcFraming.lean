/-
Framing of the IPC stream under concurrent senders.

The property (`Delivered`): whatever the order of the threads' `write` calls and the lengths they accept, the
messages `snapshot_recv` returns are an interleaving of the messages the threads pass to `snapshot_send`: each whole,
once, in per-thread order. `snapshot_send` resumes a partial write without a lock, so another thread's bytes can land in
the middle of a message, and from then on the child cuts the stream in the wrong places.

- `mixed_messages`: a thread's first byte, then a whole message of another thread, then the rest. The child receives two
  mixtures.
- `exclusive_delivered`: in every run in which no thread writes while another is in the middle of its message
  (`Exclusive`), it holds in every state reached.
- `whole_writes_delivered`: a run whose every write accepts all that is left is of this kind. That is the design's
  assumption, one atomic `write` for each message, and the abstraction of `Snapshot.snapshotSend`.
Witness `exclusive_delivered_two`: two threads, partial writes one after the other.

`Inv` is the invariant: the bytes read, buffered and in flight are the finished messages in the order they were
finished, then the beginning of at most one more (`Opening`).
-/
import GpuHealth.Ipc
import GpuHealth.Core.Runs

namespace GpuHealth.IpcFraming

open GpuHealth.Framing GpuHealth.Ipc GpuHealth.Runs

variable {T : Type} [DecidableEq T]

/-! ## The property -/

/-- the message a thread is still sending -/
def pendingMsg (st : IpcState T) (t : T) : List IpcMsg := (st.sending t).toList.map SendCall.msg

/-- `order` has, of each thread, the messages it has passed and finished, in its order -/
def Finished (st : IpcState T) (sent order : List (T × IpcMsg)) : Prop :=
  ∀ t, perWriter t sent = perWriter t order ++ pendingMsg st t

/-- the child receives an interleaving of the threads' messages, all of it when nothing is in flight -/
def Delivered (st : IpcState T) (sent : List (T × IpcMsg)) : Prop :=
  ∃ order, Finished st sent order ∧ st.received <+: order.map Prod.snd ∧
    (st.stream = [] → st.received = order.map Prod.snd)

/-- the messages passed to `snapshot_send` in a run -/
def passedIn (ops : List (IpcOp T)) : List (T × IpcMsg) := outputs ipcStep passed (ipcStart T) ops

/-! ## The condition -/

/-- the thread has written some of its message -/
def MidMessage (st : IpcState T) (t : T) : Prop := ∃ c, st.sending t = some c ∧ c.remaining < msgSize

/-- no thread writes while another is in the middle of its message -/
def Exclusive (st : IpcState T) : IpcOp T → Prop
  | .write t _ => ∀ u, u ≠ t → ¬ MidMessage st u
  | _ => True

instance (st : IpcState T) (t : T) : Decidable (MidMessage st t) :=
  inferInstanceAs (Decidable (∃ c, c ∈ st.sending t ∧ c.remaining < msgSize))

instance [Fintype T] (st : IpcState T) : DecidablePred (Exclusive st)
  | .write t _ => inferInstanceAs (Decidable (∀ u, u ≠ t → ¬ MidMessage st u))
  | .send _ _ | .writeEintr _ | .read _ | .readEintr => isTrue trivial

/-! ## The invariant -/

/-- `part` is the beginning of at most one message, and every other call is at the start of its own -/
inductive Opening (st : IpcState T) : List UInt8 → Prop
  | idle (h : ∀ u, ¬ MidMessage st u) : Opening st []
  | busy (t : T) (c : SendCall) (hc : st.sending t = some c) (hmid : c.remaining < msgSize)
      (h : ∀ u, u ≠ t → ¬ MidMessage st u) : Opening st c.written

structure Inv (st : IpcState T) (sent order : List (T × IpcMsg)) (part : List UInt8) : Prop where
  finished : Finished st sent order
  bounds : ∀ t c, st.sending t = some c → 0 < c.remaining ∧ c.remaining ≤ msgSize
  got_lt : st.got.length < msgSize
  opening : Opening st part
  wire : concat st.received ++ st.got ++ st.stream = concat (order.map Prod.snd) ++ part

variable {st : IpcState T} {sent order : List (T × IpcMsg)} {part : List UInt8}

omit [DecidableEq T] in
/-- a call at its start has written nothing -/
theorem written_start {c : SendCall} (h : ¬ c.remaining < msgSize) : c.written = [] := by
  rw [SendCall.written, Nat.sub_eq_zero_of_le (not_lt.1 h), List.take_zero]

/-- a write moves bytes from `buf` to those written -/
theorem written_continue {c : SendCall} {ret : ℕ} (hret : ret ≤ c.remaining) (hc : c.remaining ≤ msgSize) :
    c.written ++ c.buf.take ret = ({ c with remaining := c.remaining - ret } : SendCall).written := by
  have hindex : msgSize - c.remaining + ret = msgSize - (c.remaining - ret) := by omega
  rw [SendCall.written, SendCall.written, SendCall.buf, ← List.take_add, hindex]

omit [DecidableEq T] in
theorem midMessage_start (u : T) : ¬ MidMessage (ipcStart T) u := by
  intro hmid
  obtain ⟨c, hc, -⟩ := hmid
  cases hc

theorem inv_start : Inv (ipcStart T) [] [] [] where
  finished := fun t => rfl
  bounds := fun t c hc => by cases hc
  got_lt := msgSize_pos
  opening := Opening.idle midMessage_start
  wire := rfl

/-- the beginning on the wire is the only one that may write -/
theorem Opening.of_exclusive (h : Opening st part) {t : T} {c : SendCall} (hc : st.sending t = some c)
    (hexcl : ∀ u, u ≠ t → ¬ MidMessage st u) : part = c.written := by
  cases h with
  | idle hidle =>
    rw [written_start]
    intro hmid
    exact hidle t ⟨c, hc, hmid⟩
  | busy t' c' hc' hmid hothers =>
    by_cases ht : t' = t
    · subst ht
      rw [hc] at hc'
      rw [Option.some.inj hc']
    · exact absurd ⟨c', hc', hmid⟩ (hexcl t' ht)

/-- a beginning is shorter than a message -/
theorem Inv.part_lt (h : Inv st sent order part) : part.length < msgSize := by
  have hbounds := h.bounds
  cases h.opening with
  | idle => exact msgSize_pos
  | busy t c hc hmid _ =>
    have hpos := (hbounds t c hc).1
    rw [SendCall.written, List.length_take, c.msg.property]
    omega

/-! ## Steps

A call of `snapshot_send` changes its own thread's entry of `sending`, and may append to the stream. -/

theorem sending_self (t : T) (v : Option SendCall) (bytes : List UInt8) :
    ({ st with stream := bytes, sending := Function.update st.sending t v } : IpcState T).sending t = v :=
  Function.update_self _ _ _

theorem sending_other {t u : T} (h : u ≠ t) (v : Option SendCall) (bytes : List UInt8) :
    ({ st with stream := bytes, sending := Function.update st.sending t v } : IpcState T).sending u = st.sending u :=
  Function.update_of_ne h _ _

theorem midMessage_other {t u : T} (h : u ≠ t) (v : Option SendCall) (bytes : List UInt8) :
    MidMessage { st with stream := bytes, sending := Function.update st.sending t v } u ↔ MidMessage st u := by
  rw [MidMessage, MidMessage, sending_other h]

/-- a call at its start is not in the middle -/
theorem midMessage_send {t u : T} {msg : IpcMsg}
    (h : MidMessage { st with sending := Function.update st.sending t (some ⟨msg, msgSize⟩) } u) : MidMessage st u := by
  by_cases hut : u = t
  · subst hut
    obtain ⟨c, hc, hlt⟩ := h
    rw [sending_self] at hc
    obtain rfl := Option.some.inj hc
    exact absurd hlt (lt_irrefl _)
  · exact (midMessage_other hut _ _).1 h

/-- nor is a thread whose call has returned -/
theorem midMessage_finish {t u : T} {bytes : List UInt8}
    (h : MidMessage { st with stream := bytes, sending := Function.update st.sending t none } u) :
    u ≠ t ∧ MidMessage st u := by
  by_cases hut : u = t
  · subst hut
    obtain ⟨c, hc, -⟩ := h
    rw [sending_self] at hc
    cases hc
  · exact ⟨hut, (midMessage_other hut _ _).1 h⟩

theorem pendingMsg_self (t : T) (v : Option SendCall) (bytes : List UInt8) :
    pendingMsg { st with stream := bytes, sending := Function.update st.sending t v } t =
      v.toList.map SendCall.msg := by
  rw [pendingMsg, sending_self]

theorem pendingMsg_other {t u : T} (h : u ≠ t) (v : Option SendCall) (bytes : List UInt8) :
    pendingMsg { st with stream := bytes, sending := Function.update st.sending t v } u = pendingMsg st u := by
  rw [pendingMsg, pendingMsg, sending_other h]

/-- the bounds hold of the new call and of the calls of the others -/
theorem bounds_update (h : Inv st sent order part) {t : T} {v : Option SendCall} {bytes : List UInt8}
    (hv : ∀ c, v = some c → 0 < c.remaining ∧ c.remaining ≤ msgSize) (u : T) (c : SendCall)
    (hc : ({ st with stream := bytes, sending := Function.update st.sending t v } : IpcState T).sending u = some c) :
    0 < c.remaining ∧ c.remaining ≤ msgSize := by
  by_cases hut : u = t
  · subst hut
    rw [sending_self] at hc
    exact hv c hc
  · rw [sending_other hut] at hc
    exact h.bounds u c hc

/-- a thread enters `snapshot_send` -/
theorem inv_send (h : Inv st sent order part) {t : T} (hfree : st.sending t = none) (msg : IpcMsg) :
    Inv { st with sending := Function.update st.sending t (some ⟨msg, msgSize⟩) } (sent ++ [(t, msg)]) order part where
  finished := by
    intro u
    have hu := h.finished u
    by_cases hut : u = t
    · subst hut
      rw [pendingMsg, hfree, Option.toList_none, List.map_nil, List.append_nil] at hu
      rw [perWriter_snoc_self, hu]
      exact congrArg _ (pendingMsg_self u (some ⟨msg, msgSize⟩) st.stream).symm
    · rw [perWriter_snoc_other hut, hu]
      exact congrArg _ (pendingMsg_other hut (some ⟨msg, msgSize⟩) st.stream).symm
  bounds := by
    apply bounds_update h
    intro c hc
    obtain rfl := Option.some.inj hc
    exact ⟨msgSize_pos, le_rfl⟩
  got_lt := h.got_lt
  opening := by
    cases h.opening with
    | idle hidle =>
      apply Opening.idle
      intro u hmid
      exact hidle u (midMessage_send hmid)
    | busy t' c hc hlt hothers =>
      have hne : t' ≠ t := by
        intro heq
        rw [heq, hfree] at hc
        cases hc
      apply Opening.busy t' c ((sending_other hne _ _).trans hc) hlt
      intro u hu hmid
      exact hothers u hu (midMessage_send hmid)
  wire := h.wire

/-- a write finishes its message -/
theorem inv_finish (h : Inv st sent order part) {t : T} {c : SendCall} (hc : st.sending t = some c)
    (hexcl : ∀ u, u ≠ t → ¬ MidMessage st u) :
    Inv { st with stream := st.stream ++ c.buf, sending := Function.update st.sending t none } sent
      (order ++ [(t, c.msg)]) [] where
  finished := by
    intro u
    have hu := h.finished u
    by_cases hut : u = t
    · subst hut
      rw [pendingMsg, hc] at hu
      rw [perWriter_snoc_self, pendingMsg_self, hu]
      simp
    · rw [perWriter_snoc_other hut, pendingMsg_other hut, hu]
  bounds := by
    apply bounds_update h
    intro c hc
    cases hc
  got_lt := h.got_lt
  opening := by
    apply Opening.idle
    intro u hmid
    obtain ⟨hut, hmid⟩ := midMessage_finish hmid
    exact hexcl u hut hmid
  wire := by
    have hmsg : c.written ++ c.buf = c.msg.val := List.take_append_drop _ _
    calc concat st.received ++ st.got ++ (st.stream ++ c.buf)
        = concat (order.map Prod.snd) ++ part ++ c.buf := by rw [← List.append_assoc, h.wire]
      _ = concat (order.map Prod.snd) ++ c.msg.val := by rw [h.opening.of_exclusive hc hexcl, List.append_assoc, hmsg]
      _ = concat ((order ++ [(t, c.msg)]).map Prod.snd) ++ [] := by simp

/-- a write leaves a rest of its message -/
theorem inv_continue (h : Inv st sent order part) {t : T} {c : SendCall} {ret : ℕ} (hc : st.sending t = some c)
    (hexcl : ∀ u, u ≠ t → ¬ MidMessage st u) (hpos : 0 < ret) (hlt : ret < c.remaining) :
    Inv { st with
        stream := st.stream ++ c.buf.take ret
        sending := Function.update st.sending t (some { c with remaining := c.remaining - ret }) } sent order
      { c with remaining := c.remaining - ret }.written where
  finished := by
    intro u
    have hu := h.finished u
    by_cases hut : u = t
    · subst hut
      rw [pendingMsg, hc] at hu
      rw [pendingMsg_self, hu]
      rfl
    · rw [pendingMsg_other hut, hu]
  bounds := by
    apply bounds_update h
    intro c' hc'
    obtain rfl := Option.some.inj hc'
    have hle := (h.bounds t c hc).2
    dsimp only
    omega
  got_lt := h.got_lt
  opening := by
    have hle := (h.bounds t c hc).2
    apply Opening.busy t _ (sending_self t _ _)
    · dsimp only
      omega
    · intro u hut hmid
      exact hexcl u hut ((midMessage_other hut _ _).1 hmid)
  wire := by
    have hwritten := written_continue hlt.le (h.bounds t c hc).2
    calc concat st.received ++ st.got ++ (st.stream ++ c.buf.take ret)
        = concat (order.map Prod.snd) ++ part ++ c.buf.take ret := by rw [← List.append_assoc, h.wire]
      _ = concat (order.map Prod.snd) ++ (c.written ++ c.buf.take ret) := by
        rw [h.opening.of_exclusive hc hexcl, List.append_assoc]
      _ = _ := congrArg _ hwritten

/-- a read leaves the senders and the bytes where they are -/
theorem inv_read (h : Inv st sent order part) (ret : ℕ) : Inv (recvRead st ret) sent order part := by
  have hsending := recvRead_sending st ret
  obtain ⟨hgot, hbytes⟩ := recvRead_spec st ret h.got_lt
  have hmid : ∀ u, MidMessage (recvRead st ret) u ↔ MidMessage st u := by
    intro u
    rw [MidMessage, MidMessage, hsending]
  refine ⟨?_, ?_, hgot, ?_, hbytes.trans h.wire⟩
  · intro u
    rw [pendingMsg, hsending]
    exact h.finished u
  · rw [hsending]
    exact h.bounds
  · cases h.opening with
    | idle hidle => exact Opening.idle fun u hu => hidle u ((hmid u).1 hu)
    | busy t c hc hlt hothers =>
      exact Opening.busy t c (by rw [hsending, hc]) hlt fun u hut hu => hothers u hut ((hmid u).1 hu)

/-- **The step lemma**: an exclusive system call keeps the invariant. -/
theorem inv_step (h : Inv st sent order part) (op : IpcOp T) (hexcl : Exclusive st op) :
    ∃ order' part', Inv (ipcStep st op) (sent ++ (passed st op).toList) order' part' := by
  cases op with
  | send t msg =>
    rw [ipcStep, snapshotSend_eq, passed]
    by_cases hfree : st.sending t = none
    · rw [if_pos hfree, if_pos hfree]
      exact ⟨order, part, inv_send h hfree msg⟩
    · rw [if_neg hfree, if_neg hfree]
      exact ⟨order, part, by simpa using h⟩
  | write t ret =>
    simp only [passed, Option.toList_none, List.append_nil, ipcStep]
    rcases sendWrite_cases st t ret with heq | ⟨c, hc, hpos, ⟨-, heq⟩ | ⟨hlt, heq⟩⟩
    · rw [heq]
      exact ⟨order, part, h⟩
    · rw [heq]
      exact ⟨_, _, inv_finish h hc hexcl⟩
    · rw [heq]
      exact ⟨_, _, inv_continue h hc hexcl hpos hlt⟩
  | writeEintr t => exact ⟨order, part, by simpa [passed, ipcStep] using h⟩
  | read ret => exact ⟨order, part, by simpa [passed, ipcStep] using inv_read h ret⟩
  | readEintr => exact ⟨order, part, by simpa [passed, ipcStep] using h⟩

/-- **The run lemma** -/
theorem inv_run {ops : List (IpcOp T)}
    (hexcl : AtEveryStep (fun pre op => Exclusive (run ipcStep (ipcStart T) pre) op) ops) :
    ∃ order part, Inv (run ipcStep (ipcStart T) ops) (passedIn ops) order part := by
  induction ops using List.reverseRecOn with
  | nil => exact ⟨[], [], inv_start⟩
  | append_singleton ops op ih =>
    obtain ⟨hpre, hop⟩ := atEveryStep_snoc.1 hexcl
    obtain ⟨order, part, h⟩ := ih hpre
    rw [run_snoc, passedIn, outputs_snoc]
    exact inv_step h op hop

/-- what the invariant says of the messages received -/
theorem delivered_of_inv (h : Inv st sent order part) : Delivered st sent := by
  refine ⟨order, h.finished, ?_, ?_⟩
  · have hwire := h.wire
    rw [List.append_assoc] at hwire
    exact frames_initial hwire h.part_lt
  · intro hempty
    have hwire := h.wire
    rw [hempty, List.append_nil] at hwire
    exact frames_eq hwire h.got_lt h.part_lt

/-! ## Runs that deliver -/

/-- **Exclusive runs deliver.** When no thread of a run writes while another is in the middle of its message, the child
receives an interleaving of the threads' messages, whatever the order and the lengths of the calls. -/
theorem exclusive_delivered (ops : List (IpcOp T))
    (hexcl : AtEveryStep (fun pre op => Exclusive (run ipcStep (ipcStart T) pre) op) ops) (pre : List (IpcOp T))
    (hpre : pre <+: ops) : Delivered (run ipcStep (ipcStart T) pre) (passedIn pre) := by
  obtain ⟨order, part, h⟩ := inv_run (hexcl.initial hpre)
  exact delivered_of_inv h

/-- the write accepts all that is left -/
def WholeWrite (st : IpcState T) : IpcOp T → Prop
  | .write t ret => ∀ c, st.sending t = some c → ret = c.remaining
  | _ => True

/-- whole writes leave no thread in the middle of a message -/
theorem midMessage_whole {op : IpcOp T} (hwhole : WholeWrite st op) (hidle : ∀ u, ¬ MidMessage st u) (u : T) :
    ¬ MidMessage (ipcStep st op) u := by
  intro hmid
  cases op with
  | send t msg =>
    rw [ipcStep, snapshotSend_eq] at hmid
    split_ifs at hmid
    · exact hidle u (midMessage_send hmid)
    · exact hidle u hmid
  | write t ret =>
    rw [ipcStep] at hmid
    rcases sendWrite_cases st t ret with heq | ⟨c, hc, -, ⟨-, heq⟩ | ⟨hlt, -⟩⟩
    · exact hidle u (heq ▸ hmid)
    · rw [heq] at hmid
      exact hidle u (midMessage_finish hmid).2
    · exact absurd (hwhole c hc) hlt.ne
  | read ret =>
    rw [ipcStep, MidMessage, recvRead_sending] at hmid
    exact hidle u hmid
  | writeEintr t => exact hidle u hmid
  | readEintr => exact hidle u hmid

/-- **Whole writes are exclusive.** -/
theorem whole_writes_exclusive {ops : List (IpcOp T)}
    (hwhole : AtEveryStep (fun pre op => WholeWrite (run ipcStep (ipcStart T) pre) op) ops) :
    AtEveryStep (fun pre op => Exclusive (run ipcStep (ipcStart T) pre) op) ops ∧
      ∀ u, ¬ MidMessage (run ipcStep (ipcStart T) ops) u := by
  induction ops using List.reverseRecOn with
  | nil => exact ⟨atEveryStep_nil _, midMessage_start⟩
  | append_singleton ops op ih =>
    obtain ⟨hpre, hop⟩ := atEveryStep_snoc.1 hwhole
    obtain ⟨hexcl, hidle⟩ := ih hpre
    constructor
    · refine atEveryStep_snoc.2 ⟨hexcl, ?_⟩
      cases op with
      | write t ret => exact fun u _ => hidle u
      | _ => trivial
    · rw [run_snoc]
      exact midMessage_whole hop hidle

/-- **One write for each message**: the child receives an interleaving of the threads' messages. -/
theorem whole_writes_delivered {ops : List (IpcOp T)}
    (hwhole : AtEveryStep (fun pre op => WholeWrite (run ipcStep (ipcStart T) pre) op) ops) :
    Delivered (run ipcStep (ipcStart T) ops) (passedIn ops) := by
  obtain ⟨order, part, h⟩ := inv_run (whole_writes_exclusive hwhole).1
  exact delivered_of_inv h

/-- a received message is one that a thread has passed -/
theorem Delivered.passed (h : Delivered st sent) {msg : IpcMsg} (hmsg : msg ∈ st.received) :
    ∃ t, (t, msg) ∈ sent := by
  obtain ⟨order, hfinished, hinitial, -⟩ := h
  obtain ⟨e, he, rfl⟩ := List.mem_map.1 (hinitial.subset hmsg)
  refine ⟨e.1, mem_perWriter.1 ?_⟩
  rw [hfinished e.1]
  exact List.mem_append_left _ (mem_perWriter.2 he)

/-! ## Two threads -/

/-- a message of one byte, repeated -/
def uniform (b : UInt8) : IpcMsg := ⟨List.replicate msgSize b, List.length_replicate⟩

/-- two threads, one after the other, each in two writes -/
def turnsOps : List (IpcOp Bool) :=
  [.send false (uniform 1), .send true (uniform 2), .write false 1, .writeEintr false, .write false 639, .read 300,
    .write true 300, .write true 340, .read 340, .readEintr, .read 640]

/-- a run in turns delivers both messages -/
theorem exclusive_delivered_two :
    Delivered (run ipcStep (ipcStart Bool) turnsOps) (passedIn turnsOps) ∧
    (run ipcStep (ipcStart Bool) turnsOps).received = [uniform 1, uniform 2] := by
  refine ⟨?_, by decide +kernel⟩
  apply exclusive_delivered turnsOps _ turnsOps (List.prefix_refl _)
  apply atEveryStep_of_visits
  decide +kernel

/-- the second thread writes after the first byte of the first one's message -/
def mixedOps : List (IpcOp Bool) :=
  [.send false (uniform 1), .send true (uniform 2), .write false 1, .write true 640, .write false 639, .read 640,
    .read 640]

/-- **A partial write mixes messages.** -/
theorem mixed_messages :
    passedIn mixedOps = [(false, uniform 1), (true, uniform 2)] ∧
    (run ipcStep (ipcStart Bool) mixedOps).received.map Subtype.val =
      [1 :: List.replicate 639 2, 2 :: List.replicate 639 1] ∧
    ¬ Delivered (run ipcStep (ipcStart Bool) mixedOps) (passedIn mixedOps) := by
  have hpassed : passedIn mixedOps = [(false, uniform 1), (true, uniform 2)] := by decide +kernel
  have hreceived : (run ipcStep (ipcStart Bool) mixedOps).received.map Subtype.val =
      [1 :: List.replicate 639 2, 2 :: List.replicate 639 1] := by
    decide +kernel
  refine ⟨hpassed, hreceived, ?_⟩
  intro hdelivered
  have hmem : 1 :: List.replicate 639 2 ∈ (run ipcStep (ipcStart Bool) mixedOps).received.map Subtype.val := by
    rw [hreceived]
    exact List.mem_cons_self
  obtain ⟨msg, hmsg, hbytes⟩ := List.mem_map.1 hmem
  obtain ⟨t, ht⟩ := hdelivered.passed hmsg
  rw [hpassed] at ht
  -- the mixture is neither message
  rcases List.mem_pair.1 ht with heq | heq
  · rw [(Prod.mk.inj heq).2] at hbytes
    exact absurd hbytes (by decide +kernel)
  · rw [(Prod.mk.inj heq).2] at hbytes
    exact absurd hbytes (by decide +kernel)

end GpuHealth.IpcFraming
