/-
From the sensors of a GPU to the answers of the HTTP child, over the whole exporter of `Pipeline`: any interleaving of
the threads, writes of any length, failed calls, and any number of exits and respawns of the child.

- `end_to_end`: in every orderly run, the slot of GPU `i` holds the last snapshot that has arrived (`Shows`): the last of
  the messages the child has received for it. What has arrived and what is on its way was published, in this order,
  since the child's spawn; it is all of it if no call of the thread has failed. The published snapshots are those of a
  poll loop of the GPU alone (`ThreadRefinement`).
- `probes_sound`: /ready and /live speak of what has been published since the spawn of the child that answers.
- `lost_before_spawn`: a GPU whose thread has left its loop while there is no child keeps every later child at 503.
  Nobody sends its last snapshot again.

A run is orderly when no thread writes while another is in the middle of its message (`IpcFraming` shows that this is
needed), and no message is cut off on a living child's socket. `Linked` is the invariant of a child's life: the
invariants of the stream and of the child's table, and the messages of each thread against its publications.
-/
import GpuHealth.Pipeline
import GpuHealth.Enumeration
import GpuHealth.Scenarios.ThreadRefinement
import GpuHealth.Scenarios.IpcFraming
import GpuHealth.Scenarios.Liveness

namespace GpuHealth.EndToEnd

open GpuHealth.Enumeration GpuHealth.Framing GpuHealth.HttpChild GpuHealth.Ipc GpuHealth.IpcFraming
open GpuHealth.LastWrite GpuHealth.Pipeline GpuHealth.PollThreads GpuHealth.Readiness GpuHealth.Runs
open GpuHealth.Snapshot GpuHealth.ThreadRefinement

variable {K : Type} [Arith K] {n : ℕ}

/-! ## The condition -/

/-- messages are not mixed on the wire, and none is cut off while the child lives -/
def Orderly (p : PipeState K n) : PipeOp n → Prop
  | .write j _ => ∀ u, u ≠ j → ¬ MidMessage p.ipc u
  | .fail j => p.child.isSome → ¬ MidMessage p.ipc j
  | _ => True

instance (p : PipeState K n) : DecidablePred (Orderly p)
  | .write j _ => inferInstanceAs (Decidable (∀ u, u ≠ j → ¬ MidMessage p.ipc u))
  | .fail j => inferInstanceAs (Decidable (p.child.isSome → ¬ MidMessage p.ipc j))
  | .thread _ | .publish _ _ | .read _ | .exit | .spawn => isTrue trivial

/-! ## What is published -/

/-- the snapshots thread `i` publishes in a run of the pipeline -/
def publications (exp : Exporter K) (decode : IpcMsg → GpuIpcMsg K) (i : Fin n) (p : PipeState K n)
    (ops : List (PipeOp n)) : List (GpuSnapshot K) :=
  outputs (PollThreads.step exp) (assembled exp i) p.sys (outputs (pipeStep exp decode) (acted exp decode) p ops)

variable {exp : Exporter K} {decode : IpcMsg → GpuIpcMsg K}

theorem publications_append (i : Fin n) (p : PipeState K n) (a b : List (PipeOp n)) :
    publications exp decode i p (a ++ b) =
      publications exp decode i p a ++ publications exp decode i (run (pipeStep exp decode) p a) b := by
  rw [publications, publications, publications, outputs_append, outputs_append, run_sys]

/-- the snapshot thread `i` publishes in one step -/
theorem publications_one (i : Fin n) (p : PipeState K n) (op : PipeOp n) :
    publications exp decode i p [op] =
      outputs (PollThreads.step exp) (assembled exp i) p.sys (acted exp decode p op).toList := by
  rw [publications, outputs_cons, outputs_nil, List.append_nil]

/-- steps that are not publications publish nothing -/
theorem publications_silent (i : Fin n) (p : PipeState K n) {op : PipeOp n} (hop : ∀ j frame, op ≠ .publish j frame) :
    publications exp decode i p [op] = [] := by
  rw [publications_one]
  cases op with
  | publish j frame => exact absurd rfl (hop j frame)
  | thread op =>
    rw [acted]
    cases op with
    | publish j => rfl
    | change name content => rfl
    | poll j env =>
      split_ifs <;> rfl
    | check j =>
      split_ifs <;> rfl
    | load j =>
      split_ifs <;> rfl
  | write j ret => rfl
  | fail j => rfl
  | read ret => rfl
  | exit => rfl
  | spawn => rfl

/-- a publication publishes what its message carries -/
theorem publications_publish (i : Fin n) {p : PipeState K n} {j : Fin n} {frame : IpcMsg}
    (h : Publishes exp decode p j frame) :
    publications exp decode i p [.publish j frame] = if j = i then [(decode frame).snapshot] else [] := by
  rw [publications_one, acted, if_pos h, Option.toList_some, outputs_cons, outputs_nil, List.append_nil, assembled]
  by_cases hji : j = i
  · subst hji
    rw [if_pos ⟨rfl, h.2.1⟩, if_pos rfl, h.2.2]
    rfl
  · rw [if_neg (fun hc => hji hc.1), if_neg hji]
    rfl

/-! ## The index of a thread -/

theorem pollThread_index (exp : Exporter K) (env : Collector.PollEnv) (t : Thread K) :
    (pollThread exp env t).st.ctx.gpuIndex = t.st.ctx.gpuIndex := by
  obtain ⟨st, phase⟩ := t
  cases phase with
  | idle =>
    rw [pollThread]
    cases hentry : Collector.pollEntry exp st env with
    | none => rfl
    | some ctx =>
      obtain ⟨-, -, time, rfl⟩ := Collector.pollEntry_some hentry
      dsimp only
      unfold readSensors
      split
      · simp only [Collector.pollError]
        split_ifs <;> rfl
      · rfl
  | polled c => rfl
  | reload c => rfl
  | checked c => rfl

omit [Arith K] in
theorem checkThread_index (exp : Exporter K) (queue : List CStr) (t : Thread K) :
    (checkThread exp queue t).1.st.ctx.gpuIndex = t.st.ctx.gpuIndex := by
  rw [checkThread]
  split
  · split_ifs <;> rfl
  · rfl

theorem loadThread_index (files : CStr → Option CStr) (t : Thread K) :
    (loadThread files t).st.ctx.gpuIndex = t.st.ctx.gpuIndex := by
  unfold loadThread
  split <;> rfl

theorem publishThread_index (exp : Exporter K) (t : Thread K) :
    (publishThread exp t).st.ctx.gpuIndex = t.st.ctx.gpuIndex := by
  unfold publishThread
  split <;> rfl

theorem step_index (exp : Exporter K) (s : System K n) (op : PollThreads.Op n) (i : Fin n) :
    ((PollThreads.step exp s op).threads i).st.ctx.gpuIndex = (s.threads i).st.ctx.gpuIndex := by
  by_cases hop : opThread op = some i
  · rcases step_own exp s hop with ⟨env, -, hth⟩ | ⟨-, hth⟩ | ⟨-, hth⟩ | ⟨-, hth⟩
    · rw [hth, pollThread_index]
    · rw [hth, checkThread_index]
    · rw [hth, loadThread_index]
    · rw [hth, publishThread_index]
  · rw [step_elsewhere exp s hop]

theorem run_index (p : PipeState K n) (ops : List (PipeOp n)) (i : Fin n) :
    ((run (pipeStep exp decode) p ops).sys.threads i).st.ctx.gpuIndex = (p.sys.threads i).st.ctx.gpuIndex := by
  rw [run_sys]
  have hstep : ∀ (s : System K n) (op : PollThreads.Op n),
      (s.threads i).st.ctx.gpuIndex = (p.sys.threads i).st.ctx.gpuIndex →
      ((PollThreads.step exp s op).threads i).st.ctx.gpuIndex = (p.sys.threads i).st.ctx.gpuIndex :=
    fun s op h => (step_index exp s op i).trans h
  exact run_inv hstep _ rfl

/-! ## The invariant of a child's life -/

/-- the snapshots that thread `i` has passed to the stream -/
def snapshots (decode : IpcMsg → GpuIpcMsg K) (i : Fin n) (log : List (Fin n × IpcMsg)) : List (GpuSnapshot K) :=
  (perWriter i log).map fun frame => (decode frame).snapshot

/-- since the child's spawn `pub i` has been published, `sent` passed to its stream and `order` finished, and the child
has stored what it has received; `failed i`: a call of thread `i` has failed since -/
structure Linked (decode : IpcMsg → GpuIpcMsg K) (staleMs : ℤ) (failed : Fin n → Prop)
    (pub : Fin n → List (GpuSnapshot K)) (p : PipeState K n) (g : ChildState K) (sent order : List (Fin n × IpcMsg))
    (part : List UInt8) : Prop where
  wire : IpcFraming.Inv p.ipc sent order part
  child : Readiness.Inv n (p.ipc.received.map decode) g
  stale : g.gStaleMs = staleMs
  index : ∀ e ∈ sent, (decode e.2).gpuIndex = (e.1.val : ℤ)
  published : ∀ i, (snapshots decode i sent).Sublist (pub i)
  whole : ∀ i, ¬ failed i → snapshots decode i sent = pub i

variable {staleMs : ℤ} {failed : Fin n → Prop} {pub : Fin n → List (GpuSnapshot K)} {p : PipeState K n} {g : ChildState K}
  {sent order : List (Fin n × IpcMsg)} {part : List UInt8}

/-- the staleness threshold of a child -/
def childStaleMs (interval : ℤ) : ℤ := max (interval * 3 * 1000) 5000

theorem childStart_valid {interval : ℤ} (hg : childStart n interval = some g) :
    1 ≤ n ∧ g.gStaleMs = childStaleMs interval := by
  rw [childStart] at hg
  split_ifs at hg with hbad
  obtain rfl := Option.some.inj hg
  refine ⟨by omega, ?_⟩
  dsimp only [childStaleMs]
  split_ifs <;> omega

omit [Arith K] in
theorem receive_stale (g : ChildState K) (msgs : List (GpuIpcMsg K)) : (run receive g msgs).gStaleMs = g.gStaleMs := by
  induction msgs generalizing g with
  | nil => rfl
  | cons msg msgs ih =>
    rw [run_cons, ih, receive]
    split_ifs <;> rfl

theorem linked_spawn {interval : ℤ} (hg : childStart n interval = some g) (sys : System K n) :
    Linked decode (childStaleMs interval) (fun _ => False) (fun _ => []) ⟨sys, ipcStart (Fin n), some g⟩ g [] [] [] where
  wire := inv_start
  child := Readiness.inv_start (childStart_valid hg).1 hg
  stale := (childStart_valid hg).2
  index := fun _ he => absurd he List.not_mem_nil
  published := fun _ => List.Sublist.refl _
  whole := fun _ _ => rfl

/-- the other components of the state do not matter -/
theorem Linked.congr (h : Linked decode staleMs failed pub p g sent order part) {p' : PipeState K n}
    (hipc : p'.ipc = p.ipc) :
    Linked decode staleMs failed pub p' g sent order part where
  wire := hipc ▸ h.wire
  child := hipc ▸ h.child
  stale := h.stale
  index := h.index
  published := h.published
  whole := h.whole

/-- a thread publishes -/
theorem linked_publish (h : Linked decode staleMs failed pub p g sent order part)
    (hindex : ∀ j, (p.sys.threads j).st.ctx.gpuIndex = (j.val : ℤ)) {j : Fin n} {frame : IpcMsg}
    (hpub : Publishes exp decode p j frame) :
    Linked decode staleMs failed (fun i => pub i ++ publications exp decode i p [.publish j frame])
      (pipeStep exp decode p (.publish j frame)) g (sent ++ [(j, frame)]) order part := by
  have hfree : p.ipc.sending j = none := Option.isNone_iff_eq_none.1 hpub.1
  have hstep : (pipeStep exp decode p (.publish j frame)).ipc =
      { p.ipc with sending := Function.update p.ipc.sending j (some ⟨frame, msgSize⟩) } := by
    rw [pipeStep, if_pos hpub]
    exact (snapshotSend_eq _ _ _).trans (if_pos hfree)
  have hsnapshots : ∀ i, snapshots decode i (sent ++ [(j, frame)]) =
      snapshots decode i sent ++ publications exp decode i p [.publish j frame] := by
    intro i
    rw [publications_publish i hpub, snapshots, snapshots]
    by_cases hji : j = i
    · subst hji
      rw [perWriter_snoc_self, List.map_append, if_pos rfl]
      rfl
    · rw [perWriter_snoc_other (Ne.symm hji), if_neg hji, List.append_nil]
  refine ⟨?_, ?_, h.stale, ?_, ?_, ?_⟩
  · rw [hstep]
    exact inv_send h.wire hfree frame
  · rw [hstep]
    exact h.child
  · intro e he
    rcases List.mem_append.1 he with hold | hnew
    · exact h.index e hold
    · obtain rfl := List.mem_singleton.1 hnew
      have hmsg : (message exp p.sys j).gpuIndex = (p.sys.threads j).st.ctx.gpuIndex :=
        publishThread_index exp (p.sys.threads j)
      dsimp only
      rw [hpub.2.2, hmsg, hindex]
  · intro i
    rw [hsnapshots]
    exact (h.published i).append (List.Sublist.refl _)
  · intro i hi
    rw [hsnapshots, h.whole i hi]

/-- a `write` of the thread that may write -/
theorem linked_write (h : Linked decode staleMs failed pub p g sent order part) {j : Fin n} (ret : ℕ)
    (hexcl : ∀ u, u ≠ j → ¬ MidMessage p.ipc u) :
    ∃ order' part', Linked decode staleMs failed pub { p with ipc := sendWrite p.ipc j ret } g sent order' part' := by
  obtain ⟨order', part', hwire⟩ := inv_step h.wire (.write j ret) hexcl
  simp only [passed, Option.toList_none, List.append_nil] at hwire
  refine ⟨order', part', hwire, ?_, h.stale, h.index, h.published, h.whole⟩
  have hreceived : (sendWrite p.ipc j ret).received = p.ipc.received := by
    rcases sendWrite_cases p.ipc j ret with heq | ⟨c, -, -, ⟨-, heq⟩ | ⟨-, heq⟩⟩ <;> rw [heq]
  dsimp only
  rw [hreceived]
  exact h.child

/-- a call that has written nothing fails -/
theorem inv_fail {st : IpcState (Fin n)} (h : IpcFraming.Inv st sent order part) {j : Fin n} (hmid : ¬ MidMessage st j) :
    IpcFraming.Inv { st with sending := Function.update st.sending j none }
      (replaceWriter j sent (perWriter j order)) order part where
  finished := by
    intro u
    by_cases huj : u = j
    · subst huj
      have hnone : pendingMsg { st with sending := Function.update st.sending u none } u = [] :=
        pendingMsg_self u none st.stream
      rw [perWriter_replace_self, hnone, List.append_nil]
    · rw [perWriter_replace_other huj, h.finished u]
      exact congrArg _ (pendingMsg_other huj none st.stream).symm
  bounds := by
    apply bounds_update h
    intro c hc
    cases hc
  got_lt := h.got_lt
  opening := by
    have hopening := h.opening
    cases hopening with
    | idle hidle =>
      refine Opening.idle fun u hu => ?_
      exact hidle u (midMessage_finish hu).2
    | busy t c hc hlt hothers =>
      have htj : t ≠ j := by
        rintro rfl
        exact hmid ⟨c, hc, hlt⟩
      refine Opening.busy t c ((sending_other htj none _).trans hc) hlt fun u hut hu => ?_
      exact hothers u hut (midMessage_finish hu).2
  wire := h.wire

theorem linked_fail (h : Linked decode staleMs failed pub p g sent order part) {j : Fin n} (hmid : ¬ MidMessage p.ipc j) :
    Linked decode staleMs (fun i => failed i ∨ i = j) pub
      { p with ipc := { p.ipc with sending := Function.update p.ipc.sending j none } } g
      (replaceWriter j sent (perWriter j order)) order part where
  wire := inv_fail h.wire hmid
  child := h.child
  stale := h.stale
  index := by
    intro e he
    rcases List.mem_append.1 he with hkept | hdone
    · exact h.index e (List.mem_of_mem_filter hkept)
    · obtain ⟨frame, hframe, rfl⟩ := List.mem_map.1 hdone
      refine h.index (j, frame) (mem_perWriter.1 ?_)
      rw [h.wire.finished j]
      exact List.mem_append_left _ hframe
  published := by
    intro i
    by_cases hij : i = j
    · subst hij
      refine List.Sublist.trans ?_ (h.published i)
      rw [snapshots, snapshots, perWriter_replace_self, h.wire.finished i, List.map_append]
      exact List.sublist_append_left _ _
    · rw [snapshots, perWriter_replace_other hij]
      exact h.published i
  whole := by
    intro i hi
    rw [snapshots, perWriter_replace_other fun hij => hi (Or.inr hij)]
    exact h.whole i fun hold => hi (Or.inl hold)

/-- a `read`, and the messages it completes -/
theorem linked_read (h : Linked decode staleMs failed pub p g sent order part) (ret : ℕ) :
    Linked decode staleMs failed pub
      { p with ipc := recvRead p.ipc ret, child := some (receiveNew decode p.ipc (recvRead p.ipc ret) g) }
      (receiveNew decode p.ipc (recvRead p.ipc ret) g) sent order part where
  wire := inv_read h.wire ret
  child := by
    have hgrow : ∃ new, (recvRead p.ipc ret).received = p.ipc.received ++ new := by
      unfold recvRead
      split_ifs
      · exact ⟨_, rfl⟩
      · exact ⟨[], (List.append_nil _).symm⟩
      · exact ⟨[], (List.append_nil _).symm⟩
    obtain ⟨new, hnew⟩ := hgrow
    have hstep : ∀ (msgs : List (GpuIpcMsg K)) (before : List (GpuIpcMsg K)) (g : ChildState K),
        Readiness.Inv n before g → Readiness.Inv n (before ++ msgs) (run receive g msgs) := by
      intro msgs
      induction msgs with
      | nil => exact fun before g hg => by simpa using hg
      | cons msg msgs ih => exact fun before g hg => by simpa using ih _ _ (step_inv hg msg)
    rw [receiveNew, hnew, List.drop_left, List.map_append]
    exact hstep _ _ _ h.child
  stale := (receive_stale _ _).trans h.stale
  index := h.index
  published := h.published
  whole := h.whole

theorem Linked.weaken (h : Linked decode staleMs failed pub p g sent order part) {failed' : Fin n → Prop}
    {pub' : Fin n → List (GpuSnapshot K)} (hfailed : ∀ i, failed i → failed' i) (hpub : ∀ i, pub' i = pub i) :
    Linked decode staleMs failed' pub' p g sent order part where
  wire := h.wire
  child := h.child
  stale := h.stale
  index := h.index
  published := fun i => hpub i ▸ h.published i
  whole := fun i hi => (h.whole i fun hf => hi (hfailed i hf)).trans (hpub i).symm

variable (exp) in
/-- **The step lemma**: an orderly step of a living child's pipeline. -/
theorem linked_step (h : Linked decode staleMs failed pub p g sent order part) (hchild : p.child = some g)
    (hindex : ∀ j, (p.sys.threads j).st.ctx.gpuIndex = (j.val : ℤ)) {op : PipeOp n} (hop : op ≠ .exit)
    (horder : Orderly p op) :
    ∃ g' sent' order' part', (pipeStep exp decode p op).child = some g' ∧
      Linked decode staleMs (fun i => failed i ∨ op = .fail i) (fun i => pub i ++ publications exp decode i p [op])
        (pipeStep exp decode p op) g' sent' order' part' := by
  have hold : ∀ i, failed i → failed i ∨ op = .fail i := fun i hi => Or.inl hi
  have hsilent : (∀ j frame, op ≠ .publish j frame) → ∀ i, pub i ++ publications exp decode i p [op] = pub i := by
    intro hne i
    rw [publications_silent i p hne, List.append_nil]
  cases op with
  | exit => exact absurd rfl hop
  | thread op =>
    refine ⟨g, sent, order, part, ?_, (h.congr ?_).weaken hold (hsilent (by simp))⟩
    · rw [pipeStep]
      split_ifs <;> exact hchild
    · rw [pipeStep]
      split_ifs <;> rfl
  | publish j frame =>
    by_cases hpub : Publishes exp decode p j frame
    · refine ⟨g, _, order, part, ?_, (linked_publish h hindex hpub).weaken hold fun i => rfl⟩
      rw [pipeStep, if_pos hpub]
      exact hchild
    · have hnone : ∀ i, pub i ++ publications exp decode i p [.publish j frame] = pub i := by
        intro i
        rw [publications_one, acted, if_neg hpub]
        exact List.append_nil _
      rw [pipeStep, if_neg hpub]
      exact ⟨g, sent, order, part, hchild, h.weaken hold hnone⟩
  | write j ret =>
    have hstep : pipeStep exp decode p (.write j ret) = { p with ipc := sendWrite p.ipc j ret } := by
      simp [pipeStep, hchild]
    obtain ⟨order', part', hwrite⟩ := linked_write h ret horder
    rw [hstep]
    exact ⟨g, sent, order', part', hchild, hwrite.weaken hold (hsilent (by simp))⟩
  | fail j =>
    have hmid : ¬ MidMessage p.ipc j := horder (by rw [hchild]; rfl)
    refine ⟨g, _, order, part, hchild, (linked_fail h hmid).weaken ?_ (hsilent (by simp))⟩
    intro i hi
    exact hi.imp_right fun hij => congrArg PipeOp.fail hij.symm
  | read ret =>
    have hstep : pipeStep exp decode p (.read ret) = { p with
        ipc := recvRead p.ipc ret, child := some (receiveNew decode p.ipc (recvRead p.ipc ret) g) } := by
      simp [pipeStep, hchild]
    rw [hstep]
    exact ⟨_, sent, order, part, rfl, (linked_read h ret).weaken hold (hsilent (by simp))⟩
  | spawn =>
    rw [pipeStep, hchild]
    exact ⟨g, sent, order, part, hchild, h.weaken hold (hsilent (by simp))⟩

/-- **The run lemma**, from the spawn of a child on. -/
theorem linked_run (hindex : ∀ j, (p.sys.threads j).st.ctx.gpuIndex = (j.val : ℤ))
    {after : List (PipeOp n)} (hnone : p.child = none)
    (hspawn : (pipeStep exp decode p .spawn).child.isSome) (hexit : .exit ∉ after)
    (horder : AtEveryStep (fun pre op => Orderly (run (pipeStep exp decode) (pipeStep exp decode p .spawn) pre) op) after) :
    ∃ g sent order part, (run (pipeStep exp decode) (pipeStep exp decode p .spawn) after).child = some g ∧
      Linked decode (childStaleMs (exp.cfg.int .pollIntervalS)) (fun i => .fail i ∈ after)
        (fun i => publications exp decode i (pipeStep exp decode p .spawn) after)
        (run (pipeStep exp decode) (pipeStep exp decode p .spawn) after) g sent order part := by
  induction after using List.reverseRecOn with
  | nil =>
    have hstep : pipeStep exp decode p .spawn =
        { p with ipc := ipcStart (Fin n), child := childStart n (exp.cfg.int .pollIntervalS) } := by
      rw [pipeStep, hnone]
    rw [hstep] at hspawn ⊢
    obtain ⟨g, hg⟩ := Option.isSome_iff_exists.1 hspawn
    have hfirst : Linked decode (childStaleMs (exp.cfg.int .pollIntervalS)) (fun _ => False) (fun _ => [])
        { p with ipc := ipcStart (Fin n), child := childStart n (exp.cfg.int .pollIntervalS) } g [] [] [] :=
      (linked_spawn hg p.sys).congr rfl
    exact ⟨g, [], [], [], hg, hfirst.weaken (fun _ hf => hf.elim) fun i => rfl⟩
  | append_singleton after op ih =>
    obtain ⟨hpre, hop⟩ := atEveryStep_snoc.1 horder
    have hmem : op ≠ .exit := by
      rintro rfl
      exact hexit (List.mem_append_right _ List.mem_cons_self)
    obtain ⟨g, sent, order, part, hchild, hlinked⟩ := ih (fun hc => hexit (List.mem_append_left _ hc)) hpre
    have hidx : ∀ j, ((run (pipeStep exp decode) (pipeStep exp decode p .spawn) after).sys.threads j).st.ctx.gpuIndex =
        (j.val : ℤ) := by
      intro j
      rw [← run_cons, run_index]
      exact hindex j
    obtain ⟨g', sent', order', part', hchild', hlinked'⟩ := linked_step exp hlinked hchild hidx hmem hop
    rw [run_snoc]
    refine ⟨g', sent', order', part', hchild', hlinked'.weaken ?_ fun i => publications_append i _ _ _⟩
    intro i hi
    rcases hi with hold | rfl
    · exact List.mem_append_left _ hold
    · exact List.mem_append_right _ List.mem_cons_self

/-- a child that lives has been spawned, and has not exited since -/
theorem exists_spawn {p : PipeState K n} (hnone : p.child = none) {ops : List (PipeOp n)}
    (hsome : (run (pipeStep exp decode) p ops).child.isSome) :
    ∃ before after, ops = before ++ .spawn :: after ∧ (run (pipeStep exp decode) p before).child = none ∧
      (run (pipeStep exp decode) p (before ++ [.spawn])).child.isSome ∧ .exit ∉ after := by
  induction ops using List.reverseRecOn with
  | nil =>
    rw [run_nil, hnone] at hsome
    cases hsome
  | append_singleton ops op ih =>
    cases hbefore : (run (pipeStep exp decode) p ops).child with
    | none =>
      have hspawn : op = .spawn := by
        rw [run_snoc] at hsome
        cases op with
        | spawn => rfl
        | thread op =>
          rw [pipeStep] at hsome
          split_ifs at hsome <;> rw [hbefore] at hsome <;> cases hsome
        | publish j frame =>
          rw [pipeStep] at hsome
          split_ifs at hsome <;> rw [hbefore] at hsome <;> cases hsome
        | write j ret =>
          have hnochild : ¬ (none : Option (ChildState K)).isSome = true := by simp
          rw [pipeStep, hbefore, if_neg hnochild, hbefore] at hsome
          cases hsome
        | fail j =>
          rw [pipeStep, hbefore] at hsome
          cases hsome
        | read ret =>
          rw [pipeStep, hbefore] at hsome
          dsimp only at hsome
          rw [hbefore] at hsome
          cases hsome
        | exit => cases hsome
      subst hspawn
      exact ⟨ops, [], rfl, hbefore, hsome, List.not_mem_nil⟩
    | some g =>
      obtain ⟨before, after, rfl, hchild, hlives, hexit⟩ := ih (by rw [hbefore]; rfl)
      refine ⟨before, after ++ [op], by simp, hchild, hlives, ?_⟩
      intro hmem
      rcases List.mem_append.1 hmem with hold | hlast
      · exact hexit hold
      · obtain rfl := List.mem_singleton.1 hlast
        rw [run_snoc] at hsome
        cases hsome

/-! ## What the child shows -/

/-- a slot after these snapshots -/
def slotOf (shown : List (GpuSnapshot K)) : HttpSlot K :=
  match shown.getLast? with
  | some s => ⟨s, 1⟩
  | none => .zeroed

/-- of what GPU `i` has published since the spawn, `shown` has arrived and `flying` is on its way -/
structure Shows (decode : IpcMsg → GpuIpcMsg K) (p : PipeState K n) (g : ChildState K) (i : Fin n) (failed : Prop)
    (since shown flying : List (GpuSnapshot K)) : Prop where
  received : shown = ((p.ipc.received.map decode).filter (isFor i.val)).map (·.snapshot)
  slot : g.gSlots[i.val]? = some (slotOf shown)
  arrived : (shown ++ flying).Sublist since
  whole : ¬ failed → shown ++ flying = since
  drained : p.ipc.stream = [] → p.ipc.sending i = none → flying = []

omit [Arith K] in
/-- the messages of thread `i` are those with index `i` -/
theorem filter_isFor (i : Fin n) {log : List (Fin n × IpcMsg)}
    (hindex : ∀ e ∈ log, (decode e.2).gpuIndex = (e.1.val : ℤ)) :
    ((log.map Prod.snd).map decode).filter (isFor i.val) = (perWriter i log).map decode := by
  rw [List.map_map, List.filter_map, perWriter, List.map_map]
  have hsame : log.filter (isFor i.val ∘ decode ∘ Prod.snd) = log.filter fun e => e.1 = i := by
    apply List.filter_congr
    intro e he
    have hiff : (e.1.val : ℤ) = i.val ↔ e.1 = i := by rw [Fin.ext_iff, Nat.cast_inj]
    simp only [Function.comp_apply, isFor, hindex e he, hiff]
  rw [hsame]

theorem slotAfter_eq (i : Fin n) {log : List (Fin n × IpcMsg)}
    (hindex : ∀ e ∈ log, (decode e.2).gpuIndex = (e.1.val : ℤ)) :
    slotAfter ((log.map Prod.snd).map decode) i.val = slotOf (snapshots decode i log) := by
  rw [slotAfter, lastWith, filter_isFor i hindex, slotOf, snapshots, List.getLast?_map, List.getLast?_map]
  cases (perWriter i log).getLast? <;> rfl

theorem Linked.shows (h : Linked decode staleMs failed pub p g sent order part) (i : Fin n) :
    ∃ shown flying, Shows decode p g i (failed i) (pub i) shown flying := by
  have hwire := h.wire.wire
  rw [List.append_assoc] at hwire
  obtain ⟨rest, hrest⟩ := frames_initial hwire h.wire.part_lt
  -- the messages finished, cut where the child is
  have hread : p.ipc.received = (order.take p.ipc.received.length).map Prod.snd := by
    rw [List.map_take, ← hrest, List.take_left]
  set done := order.take p.ipc.received.length with hdone
  have horder : order = done ++ order.drop p.ipc.received.length := (List.take_append_drop _ _).symm
  have hindex : ∀ e ∈ done, (decode e.2).gpuIndex = (e.1.val : ℤ) := by
    intro e he
    refine h.index e (mem_perWriter.1 ?_)
    rw [h.wire.finished e.1]
    exact List.mem_append_left _ (mem_perWriter.2 (List.mem_of_mem_take he))
  let flying := (perWriter i (order.drop p.ipc.received.length) ++ pendingMsg p.ipc i).map fun frame =>
    (decode frame).snapshot
  have hsplit : snapshots decode i sent = snapshots decode i done ++ flying := by
    rw [snapshots, snapshots, h.wire.finished i, ← List.map_append, ← List.append_assoc, ← perWriter_append, ← horder]
  refine ⟨snapshots decode i done, flying, ?_, ?_, ?_, ?_, ?_⟩
  · rw [hread, filter_isFor i hindex, snapshots, List.map_map]
    rfl
  · rw [h.child.slots, List.getElem?_map, List.getElem?_range i.isLt, Option.map_some, hread, slotAfter_eq i hindex]
  · rw [← hsplit]
    exact h.published i
  · intro hno
    rw [← hsplit]
    exact h.whole i hno
  · intro hempty hfree
    have hall : p.ipc.received = order.map Prod.snd := by
      rw [hempty, List.append_nil] at hwire
      exact frames_eq hwire h.wire.got_lt h.wire.part_lt
    have hlen : order.drop p.ipc.received.length = [] := by
      rw [hall, List.length_map, List.drop_length]
    dsimp only [flying]
    rw [hlen, pendingMsg, hfree]
    rfl

/-! ## Results -/

/-- the exporter when its threads start: GPU `i` of the enumeration is polled by thread `i` -/
def boot (exp : Exporter K) (vt : IdentityVtable) (files probeFiles : CStr → Option CStr) (nowS : UInt64) :
    PipeState K n :=
  pipelineStart (PollThreads.start exp (fun i : Fin n => enumerateGpu vt i) files probeFiles nowS)

theorem boot_index (exp : Exporter K) (vt : IdentityVtable) (files probeFiles : CStr → Option CStr) (nowS : UInt64)
    (i : Fin n) : ((boot exp vt files probeFiles nowS).sys.threads i).st.ctx.gpuIndex = (i.val : ℤ) := rfl

/-- the run's last spawn: it has made the child that lives -/
structure LastSpawn (exp : Exporter K) (decode : IpcMsg → GpuIpcMsg K) (p : PipeState K n)
    (ops before after : List (PipeOp n)) : Prop where
  split : ops = before ++ .spawn :: after
  none : (run (pipeStep exp decode) p before).child = none
  lives : .exit ∉ after

theorem linked_of_run (hindex : ∀ j, (p.sys.threads j).st.ctx.gpuIndex = (j.val : ℤ)) (hnone : p.child = none)
    {ops : List (PipeOp n)}
    (horder : AtEveryStep (fun pre op => Orderly (run (pipeStep exp decode) p pre) op) ops)
    (hchild : (run (pipeStep exp decode) p ops).child = some g) :
    ∃ before after sent order part, LastSpawn exp decode p ops before after ∧
      Linked decode (childStaleMs (exp.cfg.int .pollIntervalS)) (fun i => .fail i ∈ after)
        (fun i => publications exp decode i (run (pipeStep exp decode) p before) (.spawn :: after))
        (run (pipeStep exp decode) p ops) g sent order part := by
  obtain ⟨before, after, rfl, hbefore, hspawn, hexit⟩ := exists_spawn hnone (by rw [hchild]; rfl)
  rw [run_snoc] at hspawn
  have hafter : AtEveryStep (fun pre op => Orderly (run (pipeStep exp decode)
      (pipeStep exp decode (run (pipeStep exp decode) p before) .spawn) pre) op) after := by
    have hcons : before ++ .spawn :: after = (before ++ [.spawn]) ++ after := by simp
    rw [hcons] at horder
    refine horder.later.imp fun pre op h => ?_
    rwa [run_append, run_snoc] at h
  have hidx : ∀ j, ((run (pipeStep exp decode) p before).sys.threads j).st.ctx.gpuIndex = (j.val : ℤ) :=
    fun j => (run_index p before j).trans (hindex j)
  obtain ⟨g', sent, order, part, hchild', hlinked⟩ := linked_run hidx hbefore hspawn hexit hafter
  have hrun : run (pipeStep exp decode) p (before ++ .spawn :: after) = run (pipeStep exp decode)
      (pipeStep exp decode (run (pipeStep exp decode) p before) .spawn) after := by rw [run_append, run_cons]
  rw [hrun, hchild'] at hchild
  obtain rfl := Option.some.inj hchild
  refine ⟨before, after, sent, order, part, ⟨rfl, hbefore, hexit⟩, ?_⟩
  rw [hrun]
  refine hlinked.weaken (fun _ h => h) fun i => ?_
  have hsilent : publications exp decode i (run (pipeStep exp decode) p before) [.spawn] = [] :=
    publications_silent i _ (by simp)
  have hcons : (PipeOp.spawn :: after : List (PipeOp n)) = [.spawn] ++ after := rfl
  rw [hcons, publications_append, hsilent]
  rfl

/-- **End to end.** In every orderly run of the whole exporter, the child that lives shows of GPU `i` the last snapshot
that has arrived. What has arrived and what is on its way was published in this order since the child's spawn, all of
it if no call of the thread has failed; and the snapshots are those of a poll loop of the GPU alone. -/
theorem end_to_end (exp : Exporter K) (decode : IpcMsg → GpuIpcMsg K) (vt : IdentityVtable)
    (files probeFiles : CStr → Option CStr) (nowS : UInt64) (ops : List (PipeOp n))
    (horder : AtEveryStep (fun pre op =>
      Orderly (run (pipeStep exp decode) (boot exp vt files probeFiles nowS) pre) op) ops)
    (g : ChildState K)
    (hchild : (run (pipeStep exp decode) (boot exp vt files probeFiles nowS) ops).child = some g) :
    let p := boot exp vt files probeFiles nowS
    ∃ before after, LastSpawn exp decode p ops before after ∧ ∀ i : Fin n, ∃ envs since shown flying,
      Sequential exp p.sys (outputs (pipeStep exp decode) (acted exp decode) p ops) i envs ∧
      since <:+ outputs (Collector.step exp) (Collector.published exp) (p.sys.threads i).st envs ∧
      since = publications exp decode i (run (pipeStep exp decode) p before) (.spawn :: after) ∧
      Shows decode (run (pipeStep exp decode) p ops) g i (.fail i ∈ after) since shown flying := by
  intro p
  obtain ⟨before, after, sent, order, part, hspawn, hlinked⟩ := linked_of_run (boot_index exp vt files probeFiles nowS)
    rfl horder hchild
  refine ⟨before, after, hspawn, fun i => ?_⟩
  obtain ⟨envs, hseq⟩ := exists_sequential exp p.sys (i := i) rfl
    (outputs (pipeStep exp decode) (acted exp decode) p ops)
  obtain ⟨shown, flying, hshows⟩ := hlinked.shows i
  refine ⟨envs, _, shown, flying, hseq, ?_, rfl, hshows⟩
  rw [hseq.published, hspawn.split]
  exact ⟨publications exp decode i p before, (publications_append i p before _).symm⟩

/-! ## Two GPUs -/

def bareVtable : IdentityVtable := ⟨none, fun i => ⟨0, i⟩, none, none, none, none, none⟩

def smallBoot : PipeState ℚ 2 := boot Collector.smallExporter bareVtable (fun _ => none) (fun _ => none) 0

/-- an iteration up to its snapshot -/
def pollOps (j : Fin 2) (env : Collector.PollEnv) : List (PipeOp 2) :=
  [.thread (.poll j env), .thread (.check j), .thread (.load j)]

/-- the frames of the first snapshots -/
def smallDecode (frame : IpcMsg) : GpuIpcMsg ℚ :=
  if frame = uniform 1 then
    message Collector.smallExporter (run (PollThreads.step Collector.smallExporter) smallBoot.sys
      [.poll firstGpu (Collector.quietEnv 0), .check firstGpu, .load firstGpu]) firstGpu
  else if frame = uniform 2 then
    message Collector.smallExporter (run (PollThreads.step Collector.smallExporter) smallBoot.sys
      [.poll secondGpu (Collector.quietEnv 5), .check secondGpu, .load secondGpu]) secondGpu
  else ⟨-1, .zeroed⟩

/-- GPU 0 publishes before the spawn, GPU 1 after it -/
def spawnOps : List (PipeOp 2) :=
  pollOps firstGpu (Collector.quietEnv 0) ++ [.publish firstGpu (uniform 1), .fail firstGpu, .spawn] ++
    pollOps secondGpu (Collector.quietEnv 5) ++
    [.publish secondGpu (uniform 2), .write secondGpu 300, .write secondGpu 340, .read 640]

def smallRun (ops : List (PipeOp 2)) : PipeState ℚ 2 :=
  run (pipeStep Collector.smallExporter smallDecode) smallBoot ops

theorem spawnOps_orderly : AtEveryStep (fun pre op => Orderly (smallRun pre) op) spawnOps := by
  apply atEveryStep_of_visits
  decide +kernel

theorem end_to_end_two : ∃ g, (smallRun spawnOps).child = some g ∧
    ∃ before after, LastSpawn Collector.smallExporter smallDecode smallBoot spawnOps before after ∧
      ∀ i : Fin 2, ∃ since shown flying,
        Shows smallDecode (smallRun spawnOps) g i (.fail i ∈ after) since shown flying := by
  obtain ⟨g, hg⟩ : ∃ g, (smallRun spawnOps).child = some g := Option.isSome_iff_exists.1 (by decide +kernel)
  obtain ⟨before, after, hspawn, hall⟩ := end_to_end Collector.smallExporter smallDecode bareVtable (fun _ => none)
    (fun _ => none) 0 spawnOps spawnOps_orderly g hg
  refine ⟨g, hg, before, after, hspawn, fun i => ?_⟩
  obtain ⟨envs, since, shown, flying, -, -, -, hshows⟩ := hall i
  exact ⟨since, shown, flying, hshows⟩

/-! ## The probes -/

theorem slotOf_received (shown : List (GpuSnapshot K)) : (slotOf shown).received ≠ 0 ↔ shown ≠ [] := by
  rcases List.eq_nil_or_concat shown with rfl | ⟨init, s, rfl⟩
  · simp [slotOf, HttpSlot.zeroed]
  · simp [slotOf]

/-- a slot that has been received holds one of its snapshots -/
theorem slotOf_snap {shown : List (GpuSnapshot K)} (h : shown ≠ []) : (slotOf shown).snap ∈ shown := by
  obtain ⟨init, s, rfl⟩ := (List.eq_nil_or_concat shown).resolve_left h
  simp [slotOf]

/-- /ready answers 200 when every GPU shows something -/
theorem Linked.ready (h : Linked decode staleMs failed pub p g sent order part) {shown flying : Fin n → List (GpuSnapshot K)}
    (hshows : ∀ i, Shows decode p g i (failed i) (pub i) (shown i) (flying i)) (metrics : Option CStr) (nowMs : UInt64) :
    (handleRequest g metrics nowMs "GET".toList "/ready".toList).status = 200 ↔ ∀ i, shown i ≠ [] := by
  have hrefines := refines_of_inv h.child
  rw [hrefines.answer]
  constructor
  · intro hall i
    obtain ⟨hlt, hslot⟩ := List.getElem?_eq_some_iff.1 (hshows i).slot
    rw [← slotOf_received, ← hslot]
    exact (hrefines.received i.val hlt).2 (hall i.val i.isLt)
  · intro hall i hi
    obtain ⟨hlt, hslot⟩ := List.getElem?_eq_some_iff.1 (hshows ⟨i, hi⟩).slot
    have hreceived := (slotOf_received _).2 (hall ⟨i, hi⟩)
    rw [← hslot] at hreceived
    exact (hrefines.received i hlt).1 hreceived

omit [Arith K] in
theorem checkLiveness_ne_zero {nowMs : UInt64} {staleMs : ℤ} {slots : List (HttpSlot K)}
    (h : checkLiveness nowMs staleMs slots ≠ 0) : checkLiveness nowMs staleMs slots = 1 := by
  induction slots with
  | nil => rfl
  | cons slot slots ih =>
    rw [checkLiveness] at h ⊢
    split_ifs at h ⊢
    · exact ih h
    · exact absurd rfl h
    · exact ih h

omit [Arith K] in
theorem live_fresh {metrics : Option CStr} {nowMs : UInt64} (h0 : 0 ≤ g.gStaleMs) (h31 : g.gStaleMs < 2 ^ 31)
    (h : (handleRequest g metrics nowMs "GET".toList "/live".toList).status = 200) (slot : HttpSlot K)
    (hslot : slot ∈ g.gSlots) : Liveness.FreshAt nowMs g.gStaleMs slot := by
  have halive : checkLiveness nowMs g.gStaleMs g.gSlots ≠ 0 := by
    intro hzero
    simp [handleRequest, hzero, plain] at h
  exact ((Liveness.inTime_iff h0 h31 slot).1
    ((Liveness.checkLiveness_eq_one nowMs _ _).1 (checkLiveness_ne_zero halive) slot hslot)).1

/-- **The probes speak of the current child.** Since its spawn, every GPU has published when /ready answers 200, and
/ready answers 200 once every GPU has, unless a call has failed or a message is on its way. When /live answers 200, what
the child shows of a GPU has been published since the spawn, and is as young as the threshold asks. -/
theorem probes_sound (exp : Exporter K) (decode : IpcMsg → GpuIpcMsg K) (vt : IdentityVtable)
    (files probeFiles : CStr → Option CStr) (nowS : UInt64)
    (hinterval : 1 ≤ exp.cfg.int .pollIntervalS ∧ exp.cfg.int .pollIntervalS ≤ 60) (ops : List (PipeOp n))
    (horder : AtEveryStep (fun pre op =>
      Orderly (run (pipeStep exp decode) (boot exp vt files probeFiles nowS) pre) op) ops)
    (g : ChildState K)
    (hchild : (run (pipeStep exp decode) (boot exp vt files probeFiles nowS) ops).child = some g)
    (metrics : Option CStr) (nowMs : UInt64) :
    let p := boot exp vt files probeFiles nowS
    let last := run (pipeStep exp decode) p ops
    ∃ before after, LastSpawn exp decode p ops before after ∧
      let since := fun i => publications exp decode i (run (pipeStep exp decode) p before) (.spawn :: after)
      ((handleRequest g metrics nowMs "GET".toList "/ready".toList).status = 200 → ∀ i, since i ≠ []) ∧
      ((∀ i, .fail i ∉ after) → last.ipc.stream = [] → (∀ i, last.ipc.sending i = none) → (∀ i, since i ≠ []) →
        (handleRequest g metrics nowMs "GET".toList "/ready".toList).status = 200) ∧
      ((handleRequest g metrics nowMs "GET".toList "/live".toList).status = 200 →
        ∀ (i : Fin n) (slot : HttpSlot K), g.gSlots[i.val]? = some slot → slot.received ≠ 0 →
          slot.snap ∈ since i ∧
            (nowMs.toNat : ℤ) ≤ slot.snap.lastPollMs.toNat + childStaleMs (exp.cfg.int .pollIntervalS)) := by
  intro p last
  obtain ⟨before, after, sent, order, part, hspawn, hlinked⟩ := linked_of_run (boot_index exp vt files probeFiles nowS)
    rfl horder hchild
  choose shown flying hshows using hlinked.shows
  refine ⟨before, after, hspawn, ?_, ?_, ?_⟩
  · intro hready i hnone
    have hnil : shown i ++ flying i = [] := by
      rw [← List.sublist_nil, ← hnone]
      exact (hshows i).arrived
    exact (hlinked.ready hshows metrics nowMs).1 hready i (List.append_eq_nil_iff.1 hnil).1
  · intro hfail hempty hfree hall
    refine (hlinked.ready hshows metrics nowMs).2 fun i hnone => hall i ?_
    have hwhole := (hshows i).whole (hfail i)
    rw [hnone, (hshows i).drained hempty (hfree i)] at hwhole
    exact hwhole.symm
  · intro hlive i slot hslot hreceived
    have hthreshold : g.gStaleMs = childStaleMs (exp.cfg.int .pollIntervalS) := hlinked.stale
    have h0 : 0 ≤ g.gStaleMs := by
      rw [hthreshold, childStaleMs]
      omega
    have h31 : g.gStaleMs < 2 ^ 31 := by
      rw [hthreshold, childStaleMs]
      omega
    have hfresh := live_fresh h0 h31 hlive slot (List.mem_of_getElem? hslot) hreceived
    rw [hthreshold] at hfresh
    refine ⟨?_, hfresh⟩
    obtain rfl := Option.some.inj ((hshows i).slot.symm.trans hslot)
    exact (hshows i).arrived.subset
      (List.mem_append_left _ (slotOf_snap ((slotOf_received _).1 hreceived)))

theorem probes_sound_two : ∃ g, (smallRun spawnOps).child = some g ∧
    ∃ before after, LastSpawn Collector.smallExporter smallDecode smallBoot spawnOps before after ∧
      ((handleRequest g none 10 "GET".toList "/ready".toList).status = 200 → ∀ i : Fin 2,
        publications Collector.smallExporter smallDecode i (smallRun before) (.spawn :: after) ≠ []) := by
  obtain ⟨g, hg⟩ : ∃ g, (smallRun spawnOps).child = some g := Option.isSome_iff_exists.1 (by decide +kernel)
  obtain ⟨before, after, hspawn, hready, -⟩ := probes_sound Collector.smallExporter smallDecode bareVtable
    (fun _ => none) (fun _ => none) 0 (by decide) spawnOps spawnOps_orderly g hg none 10
  exact ⟨g, hg, before, after, hspawn, hready⟩

/-! ## A GPU that is lost before the child is spawned -/

/-- a thread that has left its loop -/
def Exited (t : Thread K) : Prop := t.st.exited = true ∧ t.phase = .idle

/-- it makes no further step -/
theorem step_exited (exp : Exporter K) {s : System K n} {i : Fin n} (h : Exited (s.threads i)) (op : PollThreads.Op n) :
    (PollThreads.step exp s op).threads i = s.threads i ∧ assembled exp i s op = none := by
  by_cases hop : opThread op = some i
  · have hplace : (s.threads i).place = .idle := by rw [Thread.place, h.2]; rfl
    rcases step_own exp s hop with ⟨env, rfl, hth⟩ | ⟨rfl, hth⟩ | ⟨rfl, hth⟩ | ⟨rfl, hth⟩
    · have hentry : Collector.pollEntry exp (s.threads i).st env = none := by
        rw [Collector.pollEntry, if_pos h.1]
      refine ⟨hth.trans ?_, rfl⟩
      rw [pollThread, h.2]
      dsimp only
      rw [hentry]
    · refine ⟨hth.trans ?_, rfl⟩
      rw [checkThread, h.2]
    · refine ⟨hth.trans ?_, rfl⟩
      rw [loadThread, h.2]
    · refine ⟨hth.trans ?_, ?_⟩
      · rw [publishThread, h.2]
      · rw [assembled, hplace]
        exact if_neg fun hc => by cases hc.2
  · exact ⟨(step_other exp s hop).1, (step_other exp s hop).2.2⟩

theorem run_exited (exp : Exporter K) {s : System K n} {i : Fin n} (h : Exited (s.threads i))
    (ops : List (PollThreads.Op n)) : outputs (PollThreads.step exp) (assembled exp i) s ops = [] := by
  induction ops generalizing s with
  | nil => rfl
  | cons op ops ih =>
    obtain ⟨hthread, hnone⟩ := step_exited exp h op
    rw [outputs_cons, hnone]
    exact ih (by rw [hthread]; exact h)

/-- a thread leaves its loop at the end of an iteration -/
theorem exited_idle (exp : Exporter K) (ctx : Fin n → GpuCtx K) (files probeFiles : CStr → Option CStr) (nowS : UInt64)
    (ops : List (PollThreads.Op n)) {i : Fin n}
    (h : ((run (PollThreads.step exp) (PollThreads.start exp ctx files probeFiles nowS) ops).threads i).st.exited = true) :
    Exited ((run (PollThreads.step exp) (PollThreads.start exp ctx files probeFiles nowS) ops).threads i) := by
  refine ⟨h, ?_⟩
  obtain ⟨envs, rest, hstands, -⟩ := run_advances exp (PollThreads.start exp ctx files probeFiles nowS) (i := i) rfl
    (fun _ _ => True) (fun _ _ _ h => h) (show AtEveryStep _ ops from fun _ _ _ _ _ => trivial)
  generalize (run (PollThreads.step exp) (PollThreads.start exp ctx files probeFiles nowS) ops).threads i = t at h hstands
  cases hstands with
  | idle => rfl
  | polled h' => cases h
  | reload h' hfd => cases h
  | checked h' hany =>
    rw [Collector.baselineReload] at h
    cases h

/-- **A GPU lost before the spawn.** A thread that has left its loop while there is no child has told no child, and will
tell none: every later child shows zeros for its GPU, and answers 503 to /ready for its whole life. -/
theorem lost_before_spawn (exp : Exporter K) (decode : IpcMsg → GpuIpcMsg K) (vt : IdentityVtable)
    (files probeFiles : CStr → Option CStr) (nowS : UInt64) (before after : List (PipeOp n))
    (horder : AtEveryStep (fun pre op =>
      Orderly (run (pipeStep exp decode) (boot exp vt files probeFiles nowS) pre) op) (before ++ after))
    (hnone : (run (pipeStep exp decode) (boot exp vt files probeFiles nowS) before).child = none) (i : Fin n)
    (hexited : ((run (pipeStep exp decode) (boot exp vt files probeFiles nowS) before).sys.threads i).st.exited = true)
    (g : ChildState K)
    (hchild : (run (pipeStep exp decode) (boot exp vt files probeFiles nowS) (before ++ after)).child = some g) :
    g.gSlots[i.val]? = some .zeroed ∧
      ∀ metrics nowMs, (handleRequest g metrics nowMs "GET".toList "/ready".toList).status = 503 := by
  set p := boot exp vt files probeFiles nowS with hp
  have hafter : AtEveryStep (fun pre op =>
      Orderly (run (pipeStep exp decode) (run (pipeStep exp decode) p before) pre) op) after := by
    refine horder.later.imp fun pre op h => ?_
    rwa [run_append] at h
  rw [run_append] at hchild
  have hidx : ∀ j, ((run (pipeStep exp decode) p before).sys.threads j).st.ctx.gpuIndex = (j.val : ℤ) :=
    fun j => (run_index p before j).trans (boot_index exp vt files probeFiles nowS j)
  obtain ⟨early, late, sent, order, part, hspawn, hlinked⟩ := linked_of_run hidx hnone hafter hchild
  have hexit : Exited ((run (pipeStep exp decode) p before).sys.threads i) := by
    rw [run_sys] at hexited ⊢
    exact exited_idle exp _ files probeFiles nowS _ hexited
  have hsilent : publications exp decode i (run (pipeStep exp decode) p before) after = [] := run_exited exp hexit _
  choose shown flying hshows using hlinked.shows
  have hshown : shown i = [] := by
    have hsub := (hshows i).arrived
    rw [hspawn.split, publications_append] at hsilent
    rw [(List.append_eq_nil_iff.1 hsilent).2, List.sublist_nil] at hsub
    exact (List.append_eq_nil_iff.1 hsub).1
  refine ⟨?_, fun metrics nowMs => ?_⟩
  · rw [(hshows i).slot, hshown]
    rfl
  · have hnot : ¬ (handleRequest g metrics nowMs "GET".toList "/ready".toList).status = 200 :=
      fun hready => (hlinked.ready hshows metrics nowMs).1 hready i hshown
    by_cases hall : g.gAllReady = 0
    · simp [handleRequest, hall, plain]
    · exact absurd (by simp [handleRequest, hall, plain]) hnot

/-- GPU 0 is lost before the spawn, GPU 1 reports after it -/
def lostOps : List (PipeOp 2) := [.thread (.poll firstGpu (Collector.failingEnv 0 15))]

def reportOps : List (PipeOp 2) :=
  .spawn :: pollOps secondGpu (Collector.quietEnv 5) ++
    [.publish secondGpu (uniform 2), .write secondGpu 640, .read 640]

theorem lost_before_spawn_two : ∃ g, (smallRun (lostOps ++ reportOps)).child = some g ∧ g.gSlots[0]? = some .zeroed ∧
    ∀ metrics nowMs, (handleRequest g metrics nowMs "GET".toList "/ready".toList).status = 503 := by
  obtain ⟨g, hg⟩ : ∃ g, (smallRun (lostOps ++ reportOps)).child = some g :=
    Option.isSome_iff_exists.1 (by decide +kernel)
  have horder : AtEveryStep (fun pre op => Orderly (smallRun pre) op) (lostOps ++ reportOps) := by
    apply atEveryStep_of_visits
    decide +kernel
  exact ⟨g, hg, lost_before_spawn Collector.smallExporter smallDecode bareVtable (fun _ => none) (fun _ => none) 0 lostOps
    reportOps horder rfl 0 (by decide +kernel) g hg⟩

end GpuHealth.EndToEnd
