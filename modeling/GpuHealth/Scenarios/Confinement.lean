/-
What the HTTP child does with its clients, its files and its descriptors, over its whole life.

- `confined`: for every build and config, whatever the calls of the start answer, in every run: until the filter is
  installed the child does nothing but open the certificate and the key, and behind it no file is opened. Bytes of
  clients go through TLS, all of them, exactly if the build has TLS and a certificate is configured: neither a start nor a
  handshake that fails falls back to the clear. And only a child with 1 to 256 GPUs talks to clients.
- `handles_balanced`: in every run every accepted descriptor and every TLS context is released once and not touched
  after that, and so is the listening socket; a failed handshake frees its context once. What is left at the exit is the
  child's end of the socketpair. The ledger is of what the child itself opens and of that end: the other descriptors it
  inherits at the fork, such as the exporter's inotify descriptor, are not in it.
-/
import GpuHealth.Serving

namespace GpuHealth.Confinement

open GpuHealth.HttpChild GpuHealth.Ledger GpuHealth.Serving

/-! ## The property -/

/-- the build has TLS and a certificate is configured -/
def TlsConfigured (env : ChildEnv) : Prop := env.withTls = true ∧ env.tlsCertPath ≠ []

structure Confined (env : ChildEnv) (trace : List ChildAct) : Prop where
  before : ∀ pre a post, trace = pre ++ a :: post → .installFilter ∉ pre →
    a = .installFilter ∨ a = .openFile env.tlsCertPath ∨ a = .openFile env.tlsKeyPath
  behind : ∀ pre post, trace = pre ++ .installFilter :: post → ∀ path, .openFile path ∉ post
  tls : ∀ through, .transfer through ∈ trace → (through = true ↔ TlsConfigured env)
  gpus : ∀ through, .transfer through ∈ trace → ∃ numGpus, env.init = some numGpus ∧ 1 ≤ numGpus ∧ numGpus ≤ 256

/-! ## The parts of a run -/

/-- an act of the start -/
def Opens (env : ChildEnv) (a : ChildAct) : Prop := a = .openFile env.tlsCertPath ∨ a = .openFile env.tlsKeyPath

/-- an act of `http_child_run`; bytes of clients go one way -/
def Serves (tls : Bool) : ChildAct → Prop
  | .on _ => True
  | .transfer through => through = tls
  | _ => False

theorem connCall_serves (c : Conn) : ∀ a ∈ connCall c, Serves c.tlsActive a := by
  unfold connCall
  split_ifs with htls
  · exact List.forall_mem_cons.2 ⟨trivial, List.forall_mem_cons.2 ⟨trivial, List.forall_mem_singleton.2 htls.symm⟩⟩
  · exact List.forall_mem_cons.2 ⟨trivial, List.forall_mem_singleton.2 (Bool.eq_false_iff.2 htls).symm⟩

theorem replicate_serves {tls : Bool} {acts : List ChildAct} (h : ∀ a ∈ acts, Serves tls a) (n : ℕ) :
    ∀ a ∈ (List.replicate n acts).flatten, Serves tls a := by
  intro a ha
  obtain ⟨l, hl, hmem⟩ := List.mem_flatten.1 ha
  exact h a (List.eq_of_mem_replicate hl ▸ hmem)

theorem connTalk_serves (c : Conn) (a : Client) : ∀ act ∈ connTalk c a, Serves c.tlsActive act := by
  refine List.forall_mem_append.2 ⟨replicate_serves (connCall_serves c) _, ?_⟩
  split_ifs
  · exact replicate_serves (connCall_serves c) _
  · exact nofun

/-- acts on handles move no bytes -/
def OnHandles (acts : List ChildAct) : Prop := ∀ a ∈ acts, ∃ act, a = .on act

theorem OnHandles.serves {acts : List ChildAct} (h : OnHandles acts) (tls : Bool) : ∀ a ∈ acts, Serves tls a := by
  intro a ha
  obtain ⟨act, rfl⟩ := h a ha
  trivial

@[simp] theorem onHandles_nil : OnHandles [] := nofun

@[simp] theorem onHandles_cons (act : Act Handle) (acts : List ChildAct) :
    OnHandles (.on act :: acts) ↔ OnHandles acts := by simp [OnHandles]

@[simp] theorem onHandles_append (acts acts' : List ChildAct) :
    OnHandles (acts ++ acts') ↔ OnHandles acts ∧ OnHandles acts' := List.forall_mem_append

theorem connClose_on (c : Conn) : OnHandles (connClose c).2 := by
  unfold connClose
  split_ifs <;> simp

theorem tlsWrapClient_on (c : Conn) (a : Client) : OnHandles (tlsWrapClient c a).2.2 := by
  have hshake : OnHandles (List.replicate (a.wants + 1) (handshakeStep c)).flatten := by
    intro act hact
    obtain ⟨l, hl, hmem⟩ := List.mem_flatten.1 hact
    rw [List.eq_of_mem_replicate hl] at hmem
    rcases List.mem_cons.1 hmem with rfl | hlast
    · exact ⟨_, rfl⟩
    · exact ⟨_, List.mem_singleton.1 hlast⟩
  unfold tlsWrapClient
  dsimp only
  split_ifs <;> simp [hshake]

/-- a handshake that fails leaves the connection in the clear, one that succeeds does not -/
theorem tlsWrapClient_active (c : Conn) (a : Client) (h : ¬ (tlsWrapClient c a).2.1 < 0) :
    (tlsWrapClient c a).1.tlsActive = true := by
  unfold tlsWrapClient at h ⊢
  dsimp only at h ⊢
  split_ifs at h ⊢
  all_goals first | rfl | exact absurd (show (-1 : ℤ) < 0 by decide) h

theorem serveClient_serves (tlsEnabled : Bool) (a : Client) : ∀ act ∈ serveClient tlsEnabled a, Serves tlsEnabled act := by
  have haccepted : ∀ act ∈ ([.on (.acquire (.fd a.fd)), .on (.use (.fd a.fd)), .on (.use (.fd a.fd))] : List ChildAct),
      Serves tlsEnabled act := by simp [Serves]
  have hclose : ∀ c, ∀ act ∈ (connClose c).2, Serves tlsEnabled act := fun c => (connClose_on c).serves _
  have hwrap := (tlsWrapClient_on ⟨a.fd, false⟩ a).serves tlsEnabled
  unfold serveClient
  dsimp only
  split_ifs with htls hfailed
  · exact List.forall_mem_append.2 ⟨List.forall_mem_append.2 ⟨haccepted, hwrap⟩, hclose _⟩
  · have htalk := connTalk_serves (tlsWrapClient ⟨a.fd, false⟩ a).1 a
    rw [tlsWrapClient_active _ _ hfailed, ← htls] at htalk
    exact List.forall_mem_append.2 ⟨List.forall_mem_append.2 ⟨List.forall_mem_append.2 ⟨haccepted, hwrap⟩, htalk⟩, hclose _⟩
  · have htalk := connTalk_serves ⟨a.fd, false⟩ a
    rw [Bool.eq_false_iff.2 htls] at haccepted hclose ⊢
    exact List.forall_mem_append.2 ⟨List.forall_mem_append.2 ⟨haccepted, htalk⟩, hclose _⟩

theorem httpAcceptLoop_serves (tlsEnabled : Bool) (ipcFd listenFd : ℤ) (ops : List LoopOp) :
    ∀ a ∈ (httpAcceptLoop tlsEnabled ipcFd listenFd ops).1, Serves tlsEnabled a := by
  induction ops with
  | nil => exact nofun
  | cons op ops ih =>
    cases op with
    | stop => exact nofun
    | receive => exact List.forall_mem_cons.2 ⟨trivial, ih⟩
    | timeout => exact List.forall_mem_cons.2 ⟨trivial, ih⟩
    | acceptError => exact List.forall_mem_cons.2 ⟨trivial, List.forall_mem_cons.2 ⟨trivial, ih⟩⟩
    | selectError eintr =>
      rw [httpAcceptLoop]
      split_ifs
      · exact List.forall_mem_cons.2 ⟨trivial, ih⟩
      · exact List.forall_mem_singleton.2 trivial
    | client a =>
      exact List.forall_mem_cons.2 ⟨trivial, List.forall_mem_cons.2 ⟨trivial,
        List.forall_mem_append.2 ⟨serveClient_serves tlsEnabled a, ih⟩⟩⟩

theorem bindListen_on (env : ChildEnv) : OnHandles (bindListen env).2 := by
  unfold bindListen
  dsimp only
  split_ifs <;> simp

/-- what `http_child_run` does, and that it talks to clients only with a valid number of GPUs -/
theorem httpChildRun_serves (env : ChildEnv) (tlsEnabled : Bool) (ops : List LoopOp) :
    (∀ a ∈ (httpChildRun env tlsEnabled ops).1, Serves tlsEnabled a) ∧
      ((∃ numGpus, env.init = some numGpus ∧ 1 ≤ numGpus ∧ numGpus ≤ 256) ∨
        OnHandles (httpChildRun env tlsEnabled ops).1) := by
  have hone : OnHandles [.on (.use (.fd env.ipcFd))] := List.forall_mem_singleton.2 ⟨_, rfl⟩
  have hbind := bindListen_on env
  have hloop := httpAcceptLoop_serves tlsEnabled env.ipcFd (bindListen env).1 ops
  unfold httpChildRun
  dsimp only
  split
  · exact ⟨hone.serves _, Or.inr hone⟩
  · next g hstart =>
    obtain ⟨numGpus, hinit, hvalid⟩ := Option.bind_eq_some_iff.1 hstart
    have hrange : 1 ≤ numGpus ∧ numGpus ≤ 256 := by
      unfold childStart at hvalid
      split_ifs at hvalid
      omega
    refine ⟨?_, Or.inl ⟨numGpus, hinit, hrange⟩⟩
    split_ifs
    · exact hone.serves _
    · exact hone.serves _
    · exact hone.serves _
    · exact List.forall_mem_cons.2 ⟨trivial, hbind.serves _⟩
    · exact List.forall_mem_append.2 ⟨List.forall_mem_cons.2 ⟨trivial,
        List.forall_mem_append.2 ⟨hbind.serves _, hloop⟩⟩, List.forall_mem_singleton.2 trivial⟩
    · exact List.forall_mem_cons.2 ⟨trivial, List.forall_mem_append.2 ⟨hbind.serves _, hloop⟩⟩

/-- the start opens two files at most, and enables TLS exactly where it is configured -/
theorem tlsInit_opens (env : ChildEnv) : (∀ a ∈ (httpChildTlsInit env).2.2, Opens env a) ∧
    (¬ (httpChildTlsInit env).1 < 0 → ((httpChildTlsInit env).2.1 = true ↔ env.tlsCertPath ≠ [])) := by
  unfold httpChildTlsInit
  split_ifs with hcert <;> simp [Opens, hcert]

/-- files in front of the filter, and behind it what `http_child_run` does; or only files -/
theorem childProcess_parts (env : ChildEnv) (ops : List LoopOp) : ∃ files, (∀ a ∈ files, Opens env a) ∧
    ((childProcess env ops).1 = files ∨ ∃ tlsEnabled, (tlsEnabled = true ↔ TlsConfigured env) ∧
      (childProcess env ops).1 = files ++ .installFilter :: (httpChildRun env tlsEnabled ops).1) := by
  unfold childProcess
  by_cases htls : env.withTls = true
  · obtain ⟨hfiles, henabled⟩ := tlsInit_opens env
    refine ⟨(httpChildTlsInit env).2.2, hfiles, ?_⟩
    simp only [if_pos htls]
    split_ifs with hfailed hseccomp
    · exact Or.inl rfl
    · exact Or.inl rfl
    · refine Or.inr ⟨(httpChildTlsInit env).2.1, ?_, rfl⟩
      rw [henabled hfailed, TlsConfigured, htls]
      simp
  · refine ⟨[], nofun, ?_⟩
    simp only [if_neg htls]
    split_ifs with hfailed hseccomp
    · exact Or.inl rfl
    · exact Or.inl rfl
    · exact Or.inr ⟨false, by simp [TlsConfigured, htls], rfl⟩

/-! ## Files, the filter, clients -/

/-- up to the filter there is nothing but what is in front of it -/
theorem before_filter {F : ChildAct} {files rest pre post : List ChildAct} {a : ChildAct}
    (h : files ++ F :: rest = pre ++ a :: post) (hpre : F ∉ pre) : a = F ∨ a ∈ files := by
  rcases List.append_eq_append_iff.1 h with ⟨mid, rfl, hrest⟩ | ⟨mid, rfl, hrest⟩
  · cases mid with
    | nil => exact Or.inl (List.cons.inj hrest).1.symm
    | cons b mid =>
      obtain ⟨rfl, -⟩ := List.cons.inj hrest
      exact absurd (List.mem_append_right _ List.mem_cons_self) hpre
  · cases mid with
    | nil => exact Or.inl (List.cons.inj hrest).1
    | cons b mid =>
      obtain ⟨rfl, -⟩ := List.cons.inj hrest
      exact Or.inr (List.mem_append_right _ List.mem_cons_self)

/-- **The child keeps to its confinement** in every run. -/
theorem confined (env : ChildEnv) (ops : List LoopOp) : Confined env (childProcess env ops).1 := by
  obtain ⟨files, hfiles, hparts⟩ := childProcess_parts env ops
  have hnofilter : .installFilter ∉ files := fun hmem => by
    rcases hfiles _ hmem with h | h <;> cases h
  have hnotransfer : ∀ through, .transfer through ∉ files := fun through hmem => by
    rcases hfiles _ hmem with h | h <;> cases h
  rcases hparts with honly | ⟨tlsEnabled, htls, htrace⟩
  · rw [honly]
    refine ⟨fun pre a post hsplit _ => ?_, fun pre post hsplit => ?_, fun through hmem => ?_, fun through hmem => ?_⟩
    · exact Or.inr (hfiles a (hsplit ▸ List.mem_append_right _ List.mem_cons_self))
    · exact absurd (hsplit ▸ List.mem_append_right _ List.mem_cons_self) hnofilter
    · exact absurd hmem (hnotransfer through)
    · exact absurd hmem (hnotransfer through)
  · obtain ⟨hserves, hgpus⟩ := httpChildRun_serves env tlsEnabled ops
    set acts := (httpChildRun env tlsEnabled ops).1
    have htransfer : ∀ through, .transfer through ∈ (childProcess env ops).1 → .transfer through ∈ acts := by
      intro through hmem
      rw [htrace, List.mem_append, List.mem_cons] at hmem
      exact (hmem.resolve_left (hnotransfer through)).resolve_left nofun
    refine ⟨fun pre a post hsplit hpre => ?_, fun pre post hsplit path hmem => ?_, fun through hmem => ?_,
      fun through hmem => ?_⟩
    · rw [htrace] at hsplit
      exact (before_filter hsplit hpre).imp_right (hfiles a)
    · rw [htrace] at hsplit
      have hnone : .installFilter ∉ acts := fun hin => hserves _ hin
      obtain ⟨-, -, hpost⟩ := (List.append_cons_inj_of_notMem hnofilter hnone).1 hsplit
      exact hserves _ (hpost ▸ hmem)
    · have hthrough : through = tlsEnabled := hserves _ (htransfer through hmem)
      rw [hthrough, htls]
    · rcases hgpus with hrange | hnone
      · exact hrange
      · obtain ⟨act, hact⟩ := hnone _ (htransfer through hmem)
        cases hact

/-! ## Descriptors and TLS contexts -/

/-- what is done with handles -/
def handleLog (acts : List ChildAct) : List (Act Handle) :=
  acts.filterMap fun a => match a with
    | .on act => some act
    | _ => none

@[simp] theorem handleLog_append (acts acts' : List ChildAct) :
    handleLog (acts ++ acts') = handleLog acts ++ handleLog acts' := List.filterMap_append

@[simp] theorem handleLog_nil : handleLog [] = [] := rfl

@[simp] theorem handleLog_on (act : Act Handle) (acts : List ChildAct) :
    handleLog (.on act :: acts) = act :: handleLog acts := rfl

@[simp] theorem handleLog_transfer (through : Bool) (acts : List ChildAct) :
    handleLog (.transfer through :: acts) = handleLog acts := rfl

variable {held : Finset Handle}

/-- calls that each keep what is held -/
theorem replicate_keeps {acts : List ChildAct} (h : after held (handleLog acts) = some held) (n : ℕ) :
    after held (handleLog (List.replicate n acts).flatten) = some held := by
  induction n with
  | zero => rfl
  | succ n ih => rw [List.replicate_succ, List.flatten_cons, handleLog_append, after_keep h, ih]

theorem connCall_keeps {c : Conn} (hfd : .fd c.fd ∈ held) (hssl : c.tlsActive = true → .ssl ∈ held) :
    after held (handleLog (connCall c)) = some held := by
  unfold connCall
  split_ifs with htls
  · simp only [handleLog_on, handleLog_transfer, handleLog_nil]
    rw [after_use (hssl htls), after_use hfd, after_nil]
  · simp only [handleLog_on, handleLog_transfer, handleLog_nil]
    rw [after_use hfd, after_nil]

theorem connTalk_keeps {c : Conn} (hfd : .fd c.fd ∈ held) (hssl : c.tlsActive = true → .ssl ∈ held) (a : Client) :
    after held (handleLog (connTalk c a)) = some held := by
  have hcalls := replicate_keeps (connCall_keeps hfd hssl)
  rw [connTalk, handleLog_append, after_keep (hcalls _)]
  split_ifs
  · exact hcalls _
  · rfl

/-- `tls_wrap_client` on a descriptor that is held: the context is freed again, or it is in use -/
theorem tlsWrapClient_after {c : Conn} (hfd : .fd c.fd ∈ held) (hssl : .ssl ∉ held) (a : Client) :
    ((tlsWrapClient c a).2.1 < 0 ∧ (tlsWrapClient c a).1 = c ∧
      after held (handleLog (tlsWrapClient c a).2.2) = some held) ∨
    (¬ (tlsWrapClient c a).2.1 < 0 ∧ (tlsWrapClient c a).1 = { c with tlsActive := true } ∧
      after held (handleLog (tlsWrapClient c a).2.2) = some (insert .ssl held)) := by
  set within := insert Handle.ssl held
  have hsslIn : .ssl ∈ within := Finset.mem_insert_self _ _
  have hfdIn : .fd c.fd ∈ within := Finset.mem_insert_of_mem hfd
  have hstep : after within (handleLog (handshakeStep c)) = some within := by
    rw [handshakeStep, handleLog_on, handleLog_on, handleLog_nil, after_use hsslIn, after_use hfdIn, after_nil]
  have hshake := replicate_keeps hstep (a.wants + 1)
  have hbegun : ∀ log, after held (.acquire .ssl :: .use .ssl :: log) = after within log := fun log => by
    rw [after_acquire hssl, after_use hsslIn]
  have hfreed : after within [.release .ssl] = some held := by rw [after_release hssl, after_nil]
  unfold tlsWrapClient
  dsimp only
  split_ifs with hsetup hret
  · refine Or.inl ⟨show (-1 : ℤ) < 0 by decide, rfl, ?_⟩
    simp only [handleLog_append, handleLog_on, handleLog_nil, List.cons_append, List.nil_append]
    rw [hbegun, after_use hsslIn, after_keep hshake, hfreed]
  · refine Or.inr ⟨show ¬ (0 : ℤ) < 0 by decide, rfl, ?_⟩
    simp only [handleLog_on, List.cons_append, List.nil_append]
    rw [hbegun, after_use hsslIn, hshake]
  · refine Or.inl ⟨show (-1 : ℤ) < 0 by decide, rfl, ?_⟩
    simp only [handleLog_on, handleLog_nil, List.cons_append, List.nil_append]
    rw [hbegun, hfreed]

/-- **A round with a client leaves the descriptors as they were.** -/
theorem serveClient_keeps (tlsEnabled : Bool) {a : Client} (hpos : 0 ≤ a.fd) (hfd : .fd a.fd ∉ held)
    (hssl : .ssl ∉ held) : after held (handleLog (serveClient tlsEnabled a)) = some held := by
  set within := insert (Handle.fd a.fd) held
  have hfdIn : .fd a.fd ∈ within := Finset.mem_insert_self _ _
  have hsslOut : Handle.ssl ∉ within := by
    rw [Finset.mem_insert, not_or]
    exact ⟨nofun, hssl⟩
  have haccepted : ∀ log, after held (.acquire (.fd a.fd) :: .use (.fd a.fd) :: .use (.fd a.fd) :: log) =
      after within log := fun log => by rw [after_acquire hfd, after_use hfdIn, after_use hfdIn]
  have hclose : after within (handleLog (connClose ⟨a.fd, false⟩).2) = some held := by
    rw [connClose, if_neg Bool.false_ne_true, if_pos hpos, handleLog_on, handleLog_nil, after_release hfd, after_nil]
  unfold serveClient
  dsimp only
  split_ifs with htls hfailed
  · obtain ⟨-, hconn, hwrap⟩ | ⟨hno, -⟩ := tlsWrapClient_after (c := ⟨a.fd, false⟩) hfdIn hsslOut a
    · simp only [handleLog_append, handleLog_on, List.cons_append, List.nil_append]
      rw [haccepted, after_keep hwrap, hconn, hclose]
    · exact absurd hfailed hno
  · obtain ⟨hyes, -⟩ | ⟨-, hconn, hwrap⟩ := tlsWrapClient_after (c := ⟨a.fd, false⟩) hfdIn hsslOut a
    · exact absurd hyes hfailed
    · have htalk : after (insert .ssl within) (handleLog (connTalk ⟨a.fd, true⟩ a)) = some (insert .ssl within) :=
        connTalk_keeps (Finset.mem_insert_of_mem hfdIn) (fun _ => Finset.mem_insert_self _ _) a
      simp only [handleLog_append, handleLog_on, List.cons_append, List.nil_append, List.append_assoc]
      rw [haccepted, after_append, hwrap, Option.bind_some, hconn, after_keep htalk, connClose, if_pos rfl]
      simp only [handleLog_on, handleLog_nil]
      rw [after_use (Finset.mem_insert_self _ _), after_use (Finset.mem_insert_of_mem hfdIn), after_release hsslOut,
        after_release hfd, after_nil]
  · have htalk : after within (handleLog (connTalk ⟨a.fd, false⟩ a)) = some within :=
      connTalk_keeps hfdIn (fun h => absurd h Bool.false_ne_true) a
    simp only [handleLog_append, handleLog_on, List.cons_append, List.nil_append]
    rw [haccepted, after_keep htalk, hclose]

/-- rounds of the accept loop leave the descriptors as they were -/
theorem httpAcceptLoop_keeps (tlsEnabled : Bool) {ipcFd listenFd : ℤ} (hipc : .fd ipcFd ∈ held)
    (hlisten : .fd listenFd ∈ held) (hssl : .ssl ∉ held) {ops : List LoopOp}
    (hops : ∀ a, .client a ∈ ops → 0 ≤ a.fd ∧ .fd a.fd ∉ held) :
    after held (handleLog (httpAcceptLoop tlsEnabled ipcFd listenFd ops).1) = some held := by
  induction ops with
  | nil => rfl
  | cons op ops ih =>
    have hrest := ih fun a ha => hops a (List.mem_cons_of_mem _ ha)
    cases op with
    | stop => rfl
    | receive => exact (after_use hipc _).trans hrest
    | timeout => exact (after_use hlisten _).trans hrest
    | acceptError => exact (after_use hlisten _).trans ((after_use hlisten _).trans hrest)
    | selectError eintr =>
      rw [httpAcceptLoop]
      split_ifs
      · exact (after_use hlisten _).trans hrest
      · exact after_use hlisten _
    | client a =>
      obtain ⟨hpos, hfd⟩ := hops a List.mem_cons_self
      refine (after_use hlisten _).trans ((after_use hlisten _).trans ?_)
      change after held (handleLog (serveClient tlsEnabled a ++ _)) = _
      rw [handleLog_append, after_keep (serveClient_keeps tlsEnabled hpos hfd hssl), hrest]

/-- `bind_listen` returns a socket that it holds, or closes it -/
theorem bindListen_after {env : ChildEnv} (hsocket : .fd env.socket ∉ held) :
    ((bindListen env).1 < 0 ∧ after held (handleLog (bindListen env).2) = some held) ∨
    (¬ (bindListen env).1 < 0 ∧ (bindListen env).1 = env.socket ∧
      after held (handleLog (bindListen env).2) = some (insert (.fd env.socket) held)) := by
  have hin := Finset.mem_insert_self (Handle.fd env.socket) held
  have hfailed : (-1 : ℤ) < 0 := by decide
  unfold bindListen
  dsimp only
  split_ifs with hneg <;>
    simp only [handleLog_on, handleLog_nil, List.cons_append, List.nil_append, after_acquire hsocket, after_use hin,
      after_release hsocket, after_nil]
  · exact Or.inl ⟨hfailed, trivial⟩
  · exact Or.inl ⟨hfailed, trivial⟩
  · exact Or.inl ⟨hfailed, trivial⟩
  · exact Or.inl ⟨hfailed, trivial⟩
  · exact Or.inr ⟨hneg, trivial, trivial⟩

/-- files and the filter are not handles -/
theorem handleLog_opens {env : ChildEnv} {files : List ChildAct} (h : ∀ a ∈ files, Opens env a) :
    handleLog files = [] := by
  rw [handleLog, List.filterMap_eq_nil_iff]
  intro a ha
  rcases h a ha with rfl | rfl <;> rfl

/-- the kernel hands out no descriptor that is open -/
structure FreshFds (env : ChildEnv) (ops : List LoopOp) : Prop where
  socket : env.socket ≠ env.ipcFd
  clients : ∀ a, .client a ∈ ops → 0 ≤ a.fd ∧ a.fd ≠ env.ipcFd ∧ a.fd ≠ env.socket

/-- no breach; what is held is the end of the socketpair, and the listening socket while the child runs -/
def Settled (env : ChildEnv) (run : List ChildAct × Option ℤ) : Prop :=
  after {.fd env.ipcFd} (handleLog run.1) =
    some (if run.2.isSome then {.fd env.ipcFd} else {.fd env.socket, .fd env.ipcFd})

structure Balanced (env : ChildEnv) (run : List ChildAct × Option ℤ) : Prop where
  settled : Settled env run
  /-- released as often as acquired, but for the listening socket of a child that runs -/
  released : ∀ h, h ≠ .fd env.ipcFd → (handleLog run.1).count (.acquire h) =
    (handleLog run.1).count (.release h) + if run.2 = none ∧ h = .fd env.socket then 1 else 0
  /-- after a release the handle is not touched before it is acquired again -/
  untouched : ∀ h pre mid post, handleLog run.1 = pre ++ .release h :: (mid ++ post) → .acquire h ∉ mid →
    ∀ a ∈ mid, a.handle ≠ h

theorem Settled.balanced {env : ChildEnv} {run : List ChildAct × Option ℤ} (h : Settled env run) : Balanced env run where
  settled := h
  released := by
    intro handle hne
    have hmatch := releases_match h handle
    have hstart : holds {Handle.fd env.ipcFd} handle = 0 := if_neg fun hin => hne (Finset.mem_singleton.1 hin)
    rw [hstart, Nat.add_zero] at hmatch
    rw [hmatch]
    unfold holds
    cases run.2 <;> simp [hne]
  untouched := by
    intro handle pre mid post hsplit hnone
    unfold Settled at h
    rw [hsplit] at h
    exact not_used_again h hnone

theorem httpChildRun_settled {env : ChildEnv} {ops : List LoopOp} (hfresh : FreshFds env ops) (tlsEnabled : Bool) :
    Settled env (httpChildRun env tlsEnabled ops) := by
  have hipc : Handle.fd env.ipcFd ∈ ({.fd env.ipcFd} : Finset Handle) := Finset.mem_singleton_self _
  have hsocket : Handle.fd env.socket ∉ ({.fd env.ipcFd} : Finset Handle) := by simpa using hfresh.socket
  have hread := after_use hipc
  -- the loop runs with both descriptors held
  set both : Finset Handle := insert (.fd env.socket) {.fd env.ipcFd}
  have hipcBoth : Handle.fd env.ipcFd ∈ both := Finset.mem_insert_of_mem hipc
  have hclients : ∀ a, .client a ∈ ops → 0 ≤ a.fd ∧ Handle.fd a.fd ∉ both := by
    intro a ha
    obtain ⟨hpos, hne, hne'⟩ := hfresh.clients a ha
    exact ⟨hpos, by simp [both, hne, hne']⟩
  have hloop := httpAcceptLoop_keeps tlsEnabled hipcBoth (Finset.mem_insert_self (Handle.fd env.socket) _)
    (by simp [both]) hclients
  unfold httpChildRun
  dsimp only
  split
  · exact (hread []).trans rfl
  · split_ifs with hslots hfd hthread hfailed hleft
    · exact (hread []).trans rfl
    · exact (hread []).trans rfl
    · exact (hread []).trans rfl
    · obtain ⟨-, hbind⟩ | ⟨hno, -⟩ := bindListen_after hsocket
      · exact (hread _).trans hbind
      · exact absurd hfailed hno
    · obtain ⟨hyes, -⟩ | ⟨-, hfd, hbind⟩ := bindListen_after hsocket
      · exact absurd hyes hfailed
      · rw [hfd]
        unfold Settled
        rw [List.cons_append, List.cons_append, handleLog_on, hread, handleLog_append, handleLog_append, after_append,
          after_append, hbind, Option.bind_some, hloop, Option.bind_some, handleLog_on, handleLog_nil,
          after_release hsocket]
        rfl
    · obtain ⟨hyes, -⟩ | ⟨-, hfd, hbind⟩ := bindListen_after hsocket
      · exact absurd hyes hfailed
      · rw [hfd]
        unfold Settled
        rw [List.cons_append, handleLog_on, hread, handleLog_append, after_append, hbind, Option.bind_some, hloop]
        rfl

theorem childProcess_settled {env : ChildEnv} {ops : List LoopOp} (hfresh : FreshFds env ops) :
    Settled env (childProcess env ops) := by
  have hfiles := handleLog_opens (tlsInit_opens env).1
  have honly : Settled env ((httpChildTlsInit env).2.2, some 1) := by
    unfold Settled
    rw [hfiles]
    rfl
  unfold childProcess
  by_cases htls : env.withTls = true
  · simp only [if_pos htls]
    split_ifs
    · exact honly
    · exact honly
    · unfold Settled
      rw [handleLog_append, hfiles]
      exact httpChildRun_settled hfresh _
  · simp only [if_neg htls]
    split_ifs
    · rfl
    · rfl
    · exact httpChildRun_settled hfresh _

/-- **Descriptors and TLS contexts are released once, and not touched after that**, in every run; of the descriptors
inherited at the fork, the child's end of the socketpair alone is counted. -/
theorem handles_balanced (env : ChildEnv) (ops : List LoopOp) (hfresh : FreshFds env ops) :
    Balanced env (childProcess env ops) :=
  (childProcess_settled hfresh).balanced

/-- a child with TLS: one client whose handshake fails, one that is served, and SIGTERM -/
def tlsEnv : ChildEnv where
  withTls := true
  tlsCertPath := ['c']
  tlsKeyPath := ['k']
  pollIntervalS := 10
  ctrDrbgSeed := 0
  parseCert := 0
  parseKey := 0
  configDefaults := 0
  ownCert := 0
  seccomp := 0
  ipcFd := 4
  init := some 8
  slotsAllocated := true
  fdAllocated := true
  pthreadCreate := 0
  socket := 3
  inetAton := 1
  bind := 0
  listen := 0

def tlsRounds : List LoopOp :=
  [.receive, .client ⟨5, 0, 2, -28928, 0, false, 0⟩, .timeout, .client ⟨5, 0, 1, 0, 1, true, 2⟩, .stop]

theorem handles_balanced_tls :
    (handleLog (childProcess tlsEnv tlsRounds).1).count (.release .ssl) = 2 ∧
      Balanced tlsEnv (childProcess tlsEnv tlsRounds) := by
  refine ⟨by decide, handles_balanced tlsEnv tlsRounds ⟨by decide, ?_⟩⟩
  intro a ha
  simp only [tlsRounds, List.mem_cons, LoopOp.client.injEq, reduceCtorEq, List.not_mem_nil, or_false, false_or] at ha
  rcases ha with rfl | rfl <;> decide

end GpuHealth.Confinement
