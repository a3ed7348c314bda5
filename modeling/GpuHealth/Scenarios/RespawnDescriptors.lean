/-
Who holds the ends of the socketpairs, over any number of spawns, deaths and failures.

- `ends_held`: in every state of every run, whatever else the threads open and close, and whichever free numbers the
  kernel picks: between two spawns the parent holds the parent end of the current pair and no other end; it never holds
  more than three; a child that has made its closes holds its own end only; and there is never more than one child.
- `eof_iff`: while `main` is outside `spawn_http_child` and `shutdown_all`, and the child has made its closes: the child
  reads the end of the file exactly when the exporter has closed its descriptor or is gone, and a thread that sends is
  refused exactly when the child is gone. No copy of an end that a fork has left behind keeps either from seeing it.
-/
import GpuHealth.Respawn

namespace GpuHealth.RespawnDescriptors

open GpuHealth.Descriptors GpuHealth.Respawn GpuHealth.Runs

/-! ## The invariant -/

/-- the child that may be there, by where `main` is -/
def newest (s : Exporter) : Option ℕ :=
  match s.main with
  | .paired _ _ _ | .written _ _ _ => none
  | .forked k _ _ => some k
  | _ => s.childPid

structure Inv (s : Exporter) : Prop where
  parent : Lists Desc.IsEnd s.tables .parent s.parentEnds
  child : ∀ k, Lists Desc.IsEnd s.tables (.child k) (childEnds k (s.children k))
  few : ∀ l, s.main = .closing l → l.length ≤ 2
  current : ∀ e, s.parentFd = some e → ∃ k, s.childPid = some k ∧ e.2 = .parentEnd k
  todo : ∀ k c, s.children k = some c → ∀ e ∈ c.todo, ∃ j, e.2 = .parentEnd j
  known : s.main ≠ .gone → ∀ k, s.children k ≠ none → newest s = some k
  single : ∀ j k, s.children j ≠ none → s.children k ≠ none → j = k

variable {s : Exporter}

theorem inv_start (files : ℕ → Bool) : Inv (start files) where
  parent := by
    refine ⟨fun fd d hd => ⟨fun h => ?_, nofun⟩, nofun, List.nodup_nil⟩
    have hfile : (if files fd then some Desc.file else none) = some d := h
    split_ifs at hfile
    exact absurd (Option.some.inj hfile).symm hd
  child := fun k => ⟨fun fd d _ => ⟨nofun, nofun⟩, nofun, List.nodup_nil⟩
  few := nofun
  current := nofun
  todo := nofun
  known := fun _ k hk => absurd rfl hk
  single := fun j k hj => absurd rfl hj

/-! ## Steps of the parent -/

theorem parentFd_length (s : Exporter) : s.parentFd.toList.length ≤ 1 := by
  cases s.parentFd <;> simp

theorem inv_socketpair (h : Inv s) (fds : Option (ℕ × ℕ)) : Inv (s.socketpair fds) := by
  unfold Exporter.socketpair
  split_ifs with hcond
  · obtain ⟨hrest, -, hreaped⟩ := hcond
    -- the child before has been reported, so that none is alive
    have hnone : ∀ k, s.children k = none := by
      intro k
      by_contra halive
      have hknown := h.known (by rw [hrest]; decide) k halive
      rw [newest, hrest] at hknown
      dsimp only at hknown
      rw [Exporter.reaped, hknown, Option.all_some, Option.isNone_iff_eq_none] at hreaped
      exact halive hreaped
    cases fds with
    | none => exact ⟨h.parent, h.child, h.few, h.current, h.todo, h.known, h.single⟩
    | some fds =>
      obtain ⟨f0, f1⟩ := fds
      dsimp only
      split_ifs with hfree
      · obtain ⟨h0, h1, hne⟩ := hfree
        have hparent := h.parent
        rw [Exporter.parentEnds, hrest] at hparent
        refine ⟨?_, fun k => ?_, nofun, h.current, h.todo, fun _ k hk => absurd (hnone k) hk, h.single⟩
        · refine lists_openAt (lists_openAt hparent h1 (childEnd_isEnd _)) ?_ (parentEnd_isEnd _)
          rw [openAt, Function.update_self, Function.update_of_ne hne]
          exact h0
        · exact lists_openAt_frame (lists_openAt_frame (h.child k) (child_ne_parent k) _ _) (child_ne_parent k) _ _
      · exact h
  · exact h

/-- a spawn that fails closes what it has -/
theorem inv_failed (h : Inv s) {k f0 f1 : ℕ}
    (hends : s.parentEnds = (f0, .parentEnd k) :: (f1, .childEnd k) :: s.parentFd.toList) (hnew : newest s = none)
    (hmain : s.main ≠ .gone) :
    Inv { s with main := .closing [(f0, .parentEnd k), (f1, .childEnd k)], gRunning := false } := by
  have hnone : ∀ j, s.children j = none := by
    intro j
    by_contra halive
    have hknown := h.known hmain j halive
    rw [hnew] at hknown
    cases hknown
  have hparent := h.parent
  rw [hends] at hparent
  refine ⟨hparent, h.child, ?_, h.current, h.todo, fun _ j hj => absurd (hnone j) hj, h.single⟩
  · rintro l ⟨⟩
    exact le_refl _

theorem inv_writeIpcInit (h : Inv s) (ok : Bool) : Inv (s.writeIpcInit ok) := by
  unfold Exporter.writeIpcInit
  split
  · next k f0 f1 hmain =>
    have hends : s.parentEnds = (f0, .parentEnd k) :: (f1, .childEnd k) :: s.parentFd.toList := by
      rw [Exporter.parentEnds, hmain]
    have hnew : newest s = none := by rw [newest, hmain]
    cases ok with
    | true =>
      have hparent := h.parent
      rw [hends] at hparent
      refine ⟨hparent, h.child, nofun, h.current, h.todo, fun _ j hj => ?_, h.single⟩
      have hknown := h.known (by rw [hmain]; exact nofun) j hj
      rwa [hnew] at hknown
    | false => exact inv_failed h hends hnew (by rw [hmain]; exact nofun)
  · exact h

theorem inv_fork (h : Inv s) (ok : Bool) : Inv (s.fork ok) := by
  unfold Exporter.fork
  split
  · next k f0 f1 hmain =>
    have hends : s.parentEnds = (f0, .parentEnd k) :: (f1, .childEnd k) :: s.parentFd.toList := by
      rw [Exporter.parentEnds, hmain]
    have hnew : newest s = none := by rw [newest, hmain]
    have hlive : s.main ≠ .gone := by
      rw [hmain]
      exact nofun
    have hnone : ∀ j, s.children j = none := by
      intro j
      by_contra halive
      have hknown := h.known hlive j halive
      rw [hnew] at hknown
      cases hknown
    have hparent := h.parent
    rw [hends] at hparent
    cases ok with
    | true =>
      have honly : ∀ j, Function.update s.children k (some ⟨(f0, .parentEnd k) :: s.parentFd.toList, f1⟩) j ≠ none →
          j = k := by
        intro j hj
        by_contra hne
        rw [Function.update_of_ne hne] at hj
        exact hj (hnone j)
      rw [if_pos rfl]
      refine ⟨?_, fun j => ?_, nofun, h.current, fun j c hc => ?_, fun _ j hj => ?_, fun i j hi hj => ?_⟩
      · exact lists_fork_frame hparent (parent_ne_child k) _
      · dsimp only
        by_cases hj : j = k
        · subst hj
          rw [Function.update_self]
          refine (lists_fork hparent (.child j)).perm (List.Perm.cons _ ?_)
          exact (List.perm_append_singleton _ _).symm
        · rw [Function.update_of_ne hj]
          exact lists_fork_frame (h.child j) (by simpa using hj) _
      · dsimp only at hc
        obtain rfl := honly j (by rw [hc]; exact nofun)
        rw [Function.update_self] at hc
        obtain rfl := Option.some.inj hc
        refine List.forall_mem_cons.2 ⟨⟨j, rfl⟩, fun e he => ?_⟩
        obtain ⟨i, -, hi⟩ := h.current e (Option.mem_toList.1 he)
        exact ⟨i, hi⟩
      · rw [honly j hj]
        rfl
      · rw [honly i hi, honly j hj]
    | false => exact inv_failed h hends hnew hlive
  · exact h

theorem inv_next (h : Inv s) : Inv s.next := by
  unfold Exporter.next
  split
  · next k f0 f1 hmain =>
    have hparent := h.parent
    rw [Exporter.parentEnds, hmain] at hparent
    refine ⟨hparent.perm ?_, h.child, ?_, ?_, h.todo, fun _ j hj => ?_, h.single⟩
    · exact (List.perm_append_singleton _ _).symm
    · rintro l ⟨⟩
      have hlen := parentFd_length s
      rw [List.length_cons]
      omega
    · rintro e ⟨⟩
      exact ⟨k, rfl, rfl⟩
    · have hknown := h.known (by rw [hmain]; exact nofun) j hj
      rwa [newest, hmain] at hknown
  · next e l hmain =>
    have hparent := h.parent
    rw [Exporter.parentEnds, hmain] at hparent
    refine ⟨lists_close hparent, fun j => lists_close_frame (h.child j) (child_ne_parent j) _, ?_, h.current, h.todo,
      fun _ j hj => ?_, h.single⟩
    · rintro l' ⟨⟩
      have hlen := h.few _ hmain
      rw [List.length_cons] at hlen
      omega
    · have hknown := h.known (by rw [hmain]; exact nofun) j hj
      rwa [newest, hmain] at hknown
  · next hmain =>
    have hparent := h.parent
    rw [Exporter.parentEnds, hmain] at hparent
    refine ⟨hparent, h.child, nofun, h.current, h.todo, fun _ j hj => ?_, h.single⟩
    have hknown := h.known (by rw [hmain]; exact nofun) j hj
    rwa [newest, hmain] at hknown
  · exact h

theorem inv_shutdown (h : Inv s) : Inv s.shutdown := by
  unfold Exporter.shutdown
  split_ifs with hcond
  · have hparent := h.parent
    rw [Exporter.parentEnds, hcond.1] at hparent
    refine ⟨?_, h.child, ?_, nofun, h.todo, fun _ j hj => ?_, h.single⟩
    · rw [Exporter.parentEnds]
      dsimp only
      rw [Option.toList_none, List.append_nil]
      exact hparent
    · rintro l ⟨⟩
      exact (parentFd_length s).trans (by decide)
    · have hknown := h.known (by rw [hcond.1]; exact nofun) j hj
      rwa [newest, hcond.1] at hknown
  · exact h

theorem inv_exitMain (h : Inv s) : Inv s.exitMain :=
  ⟨lists_exit _ _ _, fun j => lists_exit_frame (h.child j) (child_ne_parent j), nofun, h.current, h.todo,
    fun hmain => absurd rfl hmain, h.single⟩

/-! ## Steps of a child -/

theorem inv_childNext (h : Inv s) (k : ℕ) : Inv (s.childNext k) := by
  unfold Exporter.childNext
  split
  · next e todo ipcFd hk =>
    have hchild := h.child k
    rw [hk] at hchild
    have halive : ∀ j, Function.update s.children k (some ⟨todo, ipcFd⟩) j ≠ none → s.children j ≠ none := by
      intro j hj
      by_cases hjk : j = k
      · rw [hjk, hk]
        exact nofun
      · rwa [Function.update_of_ne hjk] at hj
    refine ⟨lists_close_frame h.parent (parent_ne_child k) _, fun j => ?_, h.few, h.current, fun j c hc => ?_,
      fun hmain j hj => h.known hmain j (halive j hj), fun i j hi hj => h.single i j (halive i hi) (halive j hj)⟩
    · by_cases hjk : j = k
      · subst hjk
        dsimp only
        rw [Function.update_self]
        exact lists_close hchild
      · dsimp only
        rw [Function.update_of_ne hjk]
        exact lists_close_frame (h.child j) (by simpa using hjk) _
    · dsimp only at hc
      by_cases hjk : j = k
      · rw [hjk, Function.update_self] at hc
        obtain rfl := Option.some.inj hc
        exact (List.forall_mem_cons.1 (h.todo k _ hk)).2
      · rw [Function.update_of_ne hjk] at hc
        exact h.todo j c hc
  · exact h

theorem inv_childExit (h : Inv s) (k : ℕ) : Inv (s.childExit k) := by
  have halive : ∀ j, Function.update s.children k none j ≠ none → j ≠ k ∧ s.children j ≠ none := by
    intro j hj
    by_cases hjk : j = k
    · rw [hjk, Function.update_self] at hj
      exact absurd rfl hj
    · rw [Function.update_of_ne hjk] at hj
      exact ⟨hjk, hj⟩
  refine ⟨lists_exit_frame h.parent (parent_ne_child k), fun j => ?_, h.few, h.current, fun j c hc => ?_,
    fun hmain j hj => h.known hmain j (halive j hj).2, fun i j hi hj => h.single i j (halive i hi).2 (halive j hj).2⟩
  · by_cases hjk : j = k
    · subst hjk
      dsimp only [Exporter.childExit]
      rw [Function.update_self]
      exact lists_exit _ _ _
    · dsimp only [Exporter.childExit]
      rw [Function.update_of_ne hjk]
      exact lists_exit_frame (h.child j) (by simpa using hjk)
  · dsimp only [Exporter.childExit] at hc
    have hne := (halive j (by rw [hc]; exact nofun)).1
    rw [Function.update_of_ne hne] at hc
    exact h.todo j c hc

/-! ## Files -/

/-- a change of the tables that no end notices -/
theorem inv_tables (h : Inv s) {t : Tables Proc Desc}
    (hsame : ∀ q l, Lists Desc.IsEnd s.tables q l → Lists Desc.IsEnd t q l) : Inv { s with tables := t } :=
  ⟨hsame _ _ h.parent, fun k => hsame _ _ (h.child k), h.few, h.current, h.todo, h.known, h.single⟩

theorem inv_openFile (h : Inv s) (p : Proc) (fd : ℕ) : Inv (s.openFile p fd) := by
  unfold Exporter.openFile
  split_ifs with hcond
  · refine inv_tables h fun q l hl => ?_
    by_cases hq : q = p
    · subst hq
      exact lists_openAt_other hl hcond.2 file_not_isEnd
    · exact lists_openAt_frame hl hq _ _
  · exact h

theorem inv_closeFile (h : Inv s) (p : Proc) (fd : ℕ) : Inv (s.closeFile p fd) := by
  unfold Exporter.closeFile
  split_ifs with hcond
  · refine inv_tables h fun q l hl => ?_
    by_cases hq : q = p
    · subst hq
      exact lists_close_other hl hcond file_not_isEnd
    · exact lists_close_frame hl hq _
  · exact h

/-! ## Runs -/

theorem inv_step (h : Inv s) (op : Op) : Inv (step s op) := by
  cases op with
  | socketpair fds => exact inv_socketpair h fds
  | writeIpcInit ok => exact inv_writeIpcInit h ok
  | fork ok => exact inv_fork h ok
  | next => exact inv_next h
  | sigterm => exact ⟨h.parent, h.child, h.few, h.current, h.todo, h.known, h.single⟩
  | shutdown => exact inv_shutdown h
  | exitMain => exact inv_exitMain h
  | childNext k => exact inv_childNext h k
  | childExit k => exact inv_childExit h k
  | openFile p fd => exact inv_openFile h p fd
  | closeFile p fd => exact inv_closeFile h p fd

theorem inv_run (files : ℕ → Bool) (ops : List Op) : Inv (run step (start files) ops) := by
  have hstep : ∀ s op, Inv s → Inv (step s op) := fun s op h => inv_step h op
  exact Runs.run_inv hstep ops (inv_start files)

theorem parentEnds_length (h : Inv s) : s.parentEnds.length ≤ 3 := by
  have hlen := parentFd_length s
  rw [Exporter.parentEnds]
  cases hmain : s.main with
  | rest => exact hlen.trans (by decide)
  | paired k f0 f1 => exact Nat.succ_le_succ (Nat.succ_le_succ hlen)
  | written k f0 f1 => exact Nat.succ_le_succ (Nat.succ_le_succ hlen)
  | forked k f0 f1 => exact Nat.succ_le_succ (Nat.succ_le_succ hlen)
  | closing l =>
    have hl := h.few l hmain
    rw [List.length_append]
    omega
  | gone => exact Nat.zero_le _

/-- **Who holds the ends**, over any run. -/
theorem ends_held (files : ℕ → Bool) (ops : List Op) :
    let s := run step (start files) ops
    (s.main = .rest → ∀ fd d, d.IsEnd → (s.tables .parent fd = some d ↔
      s.parentFd = some (fd, d) ∧ ∃ k, s.childPid = some k ∧ d = .parentEnd k)) ∧
    (∃ l, Lists Desc.IsEnd s.tables .parent l ∧ l.length ≤ 3) ∧
    (∀ k ipcFd, s.children k = some ⟨[], ipcFd⟩ → ∀ fd d, d.IsEnd →
      (s.tables (.child k) fd = some d ↔ fd = ipcFd ∧ d = .childEnd k)) ∧
    (∀ j k, s.children j ≠ none → s.children k ≠ none → j = k) := by
  intro s
  have h : Inv s := inv_run files ops
  refine ⟨fun hrest fd d hd => ?_, ⟨_, h.parent, parentEnds_length h⟩, fun k ipcFd hk fd d hd => ?_, h.single⟩
  · have hexact := h.parent.exact fd d hd
    rw [Exporter.parentEnds, hrest] at hexact
    rw [hexact, Option.mem_toList]
    exact ⟨fun hfd => ⟨hfd, h.current _ hfd⟩, And.left⟩
  · have hexact := (h.child k).exact fd d hd
    rw [hk] at hexact
    rw [hexact, childEnds, List.nil_append, List.mem_singleton, Prod.mk.injEq]

/-- the children that are there have made their closes -/
def Shed (s : Exporter) : Prop := ∀ k c, s.children k = some c → c.todo = []

/-- the parent end of a pair, where no child has a copy -/
theorem parentEnd_unheld (h : Inv s) (hshed : Shed s) (k : ℕ) :
    Unheld s.tables (.parentEnd k) ↔ ∀ fd, (fd, Desc.parentEnd k) ∉ s.parentEnds := by
  constructor
  · intro hun fd hmem
    exact hun .parent fd ((h.parent.exact fd _ (parentEnd_isEnd k)).2 hmem)
  · intro hparent p fd hheld
    cases p with
    | parent => exact hparent fd ((h.parent.exact fd _ (parentEnd_isEnd k)).1 hheld)
    | child j =>
      have hmem := ((h.child j).exact fd _ (parentEnd_isEnd k)).1 hheld
      cases hj : s.children j with
      | none =>
        rw [hj] at hmem
        cases hmem
      | some c =>
        rw [hj, childEnds, hshed j c hj, List.nil_append, List.mem_singleton] at hmem
        cases hmem

/-- the child end of a pair, where the parent has no copy -/
theorem childEnd_unheld (h : Inv s) {k : ℕ} (hparent : ∀ fd, (fd, Desc.childEnd k) ∉ s.parentEnds) :
    Unheld s.tables (.childEnd k) ↔ s.children k = none := by
  constructor
  · intro hun
    by_contra halive
    obtain ⟨c, hc⟩ := Option.ne_none_iff_exists'.1 halive
    refine hun (.child k) c.ipcFd (((h.child k).exact _ _ (childEnd_isEnd k)).2 ?_)
    rw [hc]
    exact List.mem_append_right _ List.mem_cons_self
  · intro hnone p fd hheld
    cases p with
    | parent => exact hparent fd ((h.parent.exact fd _ (childEnd_isEnd k)).1 hheld)
    | child j =>
      have hmem := ((h.child j).exact fd _ (childEnd_isEnd k)).1 hheld
      cases hj : s.children j with
      | none =>
        rw [hj] at hmem
        cases hmem
      | some c =>
        rw [hj, childEnds, List.mem_append, List.mem_singleton] at hmem
        rcases hmem with htodo | hown
        · obtain ⟨i, hi⟩ := h.todo j c hj _ htodo
          cases hi
        · cases hown
          rw [hnone] at hj
          cases hj

/-- **The child sees the exporter's end, and the threads the child's.** -/
theorem eof_iff (files : ℕ → Bool) (ops : List Op)
    (hmain : (run step (start files) ops).main = .rest ∨ (run step (start files) ops).main = .gone)
    (hshed : Shed (run step (start files) ops)) :
    let s := run step (start files) ops
    (∀ k, s.children k ≠ none →
      (Unheld s.tables (.parentEnd k) ↔ s.parentFd = none ∨ s.main = .gone)) ∧
    (∀ k fd, s.parentFd = some (fd, .parentEnd k) → (Unheld s.tables (.childEnd k) ↔ s.children k = none)) := by
  intro s
  have h : Inv s := inv_run files ops
  constructor
  · intro k halive
    rw [parentEnd_unheld h hshed k]
    rcases hmain with hrest | hgone
    · have hends : s.parentEnds = s.parentFd.toList := by rw [Exporter.parentEnds, hrest]
      have hknown := h.known (by rw [hrest]; exact nofun) k halive
      rw [newest, hrest] at hknown
      rw [hends]
      constructor
      · intro hnot
        left
        cases hfd : s.parentFd with
        | none => rfl
        | some e =>
          obtain ⟨j, hpid, he⟩ := h.current e hfd
          obtain rfl : k = j := Option.some.inj (hknown.symm.trans hpid)
          exact absurd (Option.mem_toList.2 (he ▸ hfd)) (hnot e.1)
      · rintro (hnone | hgone) fd hmem
        · rw [hnone] at hmem
          cases hmem
        · rw [hrest] at hgone
          cases hgone
    · have hends : s.parentEnds = [] := by rw [Exporter.parentEnds, hgone]
      rw [hends]
      exact ⟨fun _ => Or.inr hgone, fun _ _ => nofun⟩
  · intro k fd hfd
    refine childEnd_unheld h fun fd' hmem => ?_
    rcases hmain with hrest | hgone
    · rw [Exporter.parentEnds, hrest, hfd] at hmem
      obtain ⟨⟩ := List.mem_singleton.1 hmem
    · rw [Exporter.parentEnds, hgone] at hmem
      cases hmem

/-- a child, its death, and the next one, which has made its closes; numbers are used again -/
def respawnOps : List Op :=
  [.socketpair (some (3, 4)), .writeIpcInit true, .fork true, .next, .openFile .parent 5, .childNext 0, .next, .next,
    .childExit 0, .socketpair (some (4, 6)), .writeIpcInit true, .fork true, .next, .next, .next, .next, .childNext 1,
    .childNext 1, .closeFile .parent 5]

theorem eof_iff_respawn :
    let s := run step (start fun _ => false) respawnOps
    s.parentFd = some (4, .parentEnd 1) ∧ ¬ Unheld s.tables (.parentEnd 1) ∧ ¬ Unheld s.tables (.childEnd 1) := by
  intro s
  have halive : s.children 1 = some ⟨[], 6⟩ := rfl
  have hshed : Shed s := by
    intro k c hc
    have honly := (inv_run (fun _ => false) respawnOps).single k 1 (by rw [hc]; exact nofun) (by rw [halive]; exact nofun)
    subst honly
    rw [halive] at hc
    exact (Option.some.inj hc) ▸ rfl
  obtain ⟨heof, hepipe⟩ := eof_iff (fun _ => false) respawnOps (Or.inl rfl) hshed
  refine ⟨rfl, fun h => ?_, fun h => ?_⟩
  · rcases (heof 1 (by rw [halive]; exact nofun)).1 h with hnone | hgone
    · cases hnone
    · cases hgone
  · have hdead := (hepipe 1 4 rfl).1 h
    rw [halive] at hdead
    cases hdead

end GpuHealth.RespawnDescriptors
