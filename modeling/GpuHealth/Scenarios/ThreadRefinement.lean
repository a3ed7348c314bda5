/-
Every interleaving of the poll threads refines the poll loops of the single GPUs.

`PollThreads` cuts an iteration into operations between which other threads and writers of baseline files may come;
`Collector` makes an iteration in one step. `interleaved_refines`: for every run of the threads, with any changes of the
files, and every thread `i` there are iterations of `Collector` (`Sequential`) such that
- they are the iterations thread `i` has begun, in order, with the same clocks, sensors and answers, all of them when the
  thread is idle;
- the drain of each answers 0, or 1 with the content its baseline file has at some point of the run;
- they publish the snapshots that thread `i` publishes, and when it is idle they end in its state.
So what is proved of every run of `Collector` holds of each thread in every interleaving, and the other threads can
reach a thread only through the answers of its drains. `quiet_isolated`: without changes of files not even so.

`Stands` is the simulation relation: a thread in the middle of an iteration has done the beginning of the success path.
-/
import GpuHealth.PollThreads

namespace GpuHealth.ThreadRefinement

open GpuHealth.Nvml GpuHealth.Snapshot GpuHealth.State GpuHealth.PollThreads GpuHealth.Runs
open GpuHealth.Collector hiding step

variable {K : Type} [Arith K] {n : ℕ}

/-! ## What is compared -/

/-- an iteration's environment, but for the answers of the drain and the reload -/
def sensors (env : PollEnv) : PollEnv := { env with inotify := 0, baselineFile := none }

/-- the iteration of thread `i` that an operation begins -/
def begun (i : Fin n) (s : System K n) : Op n → Option PollEnv
  | .poll j env => if j = i ∧ (s.threads i).place = .idle then some env else none
  | _ => none

/-- the snapshot that thread `i` assembles in an operation -/
def assembled (exp : Exporter K) (i : Fin n) (s : System K n) : Op n → Option (GpuSnapshot K)
  | .publish j =>
    if j = i ∧ (s.threads i).place = .checked then some (publishThread exp (s.threads i)).st.ctx.snapshot else none
  | _ => none

/-- the drain of an iteration found nothing, or its reload has read a content that was `seen` -/
def Reloads (seen : Option CStr → Prop) (env : PollEnv) : Prop :=
  env.inotify = 0 ∨ (env.inotify = 1 ∧ seen env.baselineFile)

/-- the contents of a file at the points of a run -/
def SeenIn (exp : Exporter K) (s : System K n) (ops : List (Op n)) (name : CStr) (content : Option CStr) : Prop :=
  ∃ pre, pre <+: ops ∧ content = (run (step exp) s pre).files name

/-- the iterations `envs` of `Collector` are what thread `i` does in the run -/
structure Sequential (exp : Exporter K) (s : System K n) (ops : List (Op n)) (i : Fin n) (envs : List PollEnv) :
    Prop where
  begun : envs.map sensors <+: (outputs (step exp) (begun i) s ops).map sensors
  reloads : ∀ env ∈ envs, Reloads (SeenIn exp s ops (s.threads i).serial) env
  published : outputs (Collector.step exp) (published exp) (s.threads i).st envs =
    outputs (step exp) (assembled exp i) s ops
  idle : ((run (step exp) s ops).threads i).place = .idle →
    envs.map sensors = (outputs (step exp) (ThreadRefinement.begun i) s ops).map sensors ∧
      ((run (step exp) s ops).threads i).st = run (Collector.step exp) (s.threads i).st envs

/-! ## The simulation -/

/-- `ctx` has entered an attempt and read its sensors, and this is what the cycle carries -/
structure Attempt (exp : Exporter K) (st : PollState K) (c : PollThreads.Cycle K) (ctx : GpuCtx K) : Prop where
  entry : pollEntry exp st c.env = some ctx
  responds : Responds c.env.nvml
  sample : c.sample = nvmlSample c.env.nvml c.env.sampleMs
  state : c.state = dcgmState exp c.env (nvmlState c.env.nvml (freshState ctx))

/-- whole iterations have led to `st`; the thread is idle, or in the middle of the iteration listed -/
inductive Stands (exp : Exporter K) (seen : Option CStr → Prop) (st : PollState K) : Thread K → List PollEnv → Prop
  | idle : Stands exp seen st ⟨st, .idle⟩ []
  | polled {c : PollThreads.Cycle K} {ctx : GpuCtx K} (h : Attempt exp st c ctx) :
      Stands exp seen st ⟨⟨pollHead ctx, false⟩, .polled c⟩ [c.env]
  | reload {c : PollThreads.Cycle K} {ctx : GpuCtx K} (h : Attempt exp st c ctx) (hfd : exp.baselineInotifyFd ≥ 0) :
      Stands exp seen st ⟨⟨pollHead ctx, false⟩, .reload c⟩ [c.env]
  | checked {c : PollThreads.Cycle K} {ctx : GpuCtx K} (h : Attempt exp st c ctx) {any : ℤ} {file : Option CStr}
      (hany : any = 0 ∨ any = 1 ∧ seen file) :
      Stands exp seen st
        ⟨⟨baselineReload exp { c.env with inotify := any, baselineFile := file } (pollHead ctx), false⟩, .checked c⟩
        [c.env]

/-- the iterations `done` lead on, publishing `out`; the thread `t'` stands behind them with `rest'` in flight -/
structure Advances (exp : Exporter K) (seen : Option CStr → Prop) (st : PollState K) (t' : Thread K)
    (rest : List PollEnv) (out : Option (GpuSnapshot K)) (done rest' : List PollEnv) : Prop where
  stands : Stands exp seen (run (Collector.step exp) st done) t' rest'
  published : outputs (Collector.step exp) (published exp) st done = out.toList
  begun : rest.map sensors = (done ++ rest').map sensors
  reloads : ∀ env ∈ done, Reloads seen env

variable {exp : Exporter K} {seen : Option CStr → Prop} {st : PollState K} {t : Thread K} {rest : List PollEnv}

/-- nothing happens to the thread -/
theorem Stands.stays (h : Stands exp seen st t rest) : Advances exp seen st t rest none [] rest where
  stands := h
  published := rfl
  begun := rfl
  reloads := fun _ henv => absurd henv List.not_mem_nil

theorem Stands.mono {seen' : Option CStr → Prop} (hmono : ∀ file, seen file → seen' file)
    (h : Stands exp seen st t rest) : Stands exp seen' st t rest := by
  cases h with
  | idle => exact Stands.idle
  | polled h => exact Stands.polled h
  | reload h hfd => exact Stands.reload h hfd
  | checked h hany => exact Stands.checked h (hany.imp_right fun ⟨hone, hseen⟩ => ⟨hone, hmono _ hseen⟩)

/-! ## Operations -/

/-- an iteration that ends without a snapshot -/
theorem advances_silent {t' : Thread K} {env : PollEnv} (hstep : t' = ⟨Collector.step exp st (sensors env), .idle⟩)
    (hsilent : published exp st (sensors env) = none) :
    Advances exp seen st t' [env] none [sensors env] [] where
  stands := by
    rw [hstep]
    exact Stands.idle
  published := by
    rw [outputs_cons, hsilent]
    rfl
  begun := rfl
  reloads := fun e he => by
    rw [List.mem_singleton.1 he]
    exact Or.inl rfl

/-- an idle thread begins an iteration -/
theorem poll_idle (env : PollEnv) :
    ∃ done rest', Advances exp seen st (pollThread exp env ⟨st, .idle⟩) [env] none done rest' := by
  have hentry : pollEntry exp st (sensors env) = pollEntry exp st env := rfl
  cases he : pollEntry exp st env with
  | none =>
    have hthread : pollThread exp env ⟨st, .idle⟩ = ⟨st, .idle⟩ := by
      simp only [pollThread, he]
    refine ⟨_, _, advances_silent ?_ ?_⟩
    · rw [hthread, Collector.step, pollIteration, hentry, he]
    · rw [published, hentry, he]
      exact ite_self _
  | some ctx =>
    have hthread : pollThread exp env ⟨st, .idle⟩ = readSensors exp env ctx := by
      simp only [pollThread, he]
    rw [hthread]
    unfold readSensors
    cases hpoll : doNvmlPoll env.nvml env.sampleMs GpuSample.zeroed (freshState ctx) with
    | error e =>
      have hfails : ¬ Responds env.nvml := fun hresp => by
        rw [doNvmlPoll_ok_iff.2 ⟨hresp, rfl⟩] at hpoll
        cases hpoll
      have hattempt : pollAttempt exp ctx (sensors env) = (pollError exp ctx e.1, none) := by
        unfold pollAttempt sensors
        dsimp only
        rw [hpoll]
      refine ⟨_, _, advances_silent ?_ (if_neg hfails)⟩
      rw [Collector.step, pollIteration, hentry, he]
      dsimp only
      rw [hattempt]
    | ok r =>
      obtain ⟨hresp, hr⟩ := doNvmlPoll_ok_iff.1 hpoll
      refine ⟨[], [env], ?_, rfl, rfl, fun _ henv => absurd henv List.not_mem_nil⟩
      exact Stands.polled ⟨he, hresp, congrArg Prod.fst hr, congrArg (dcgmState exp env) (congrArg Prod.snd hr)⟩

/-- the drain of a thread that has read its sensors -/
theorem check_polled {c : PollThreads.Cycle K} {ctx : GpuCtx K} (h : Attempt exp st c ctx) (queue : List CStr) :
    Stands exp seen st (checkThread exp queue ⟨⟨pollHead ctx, false⟩, .polled c⟩).1 [c.env] := by
  have hchecked : Stands exp seen st
      ⟨⟨baselineReload exp { c.env with inotify := 0, baselineFile := none } (pollHead ctx), false⟩, .checked c⟩
      [c.env] := Stands.checked h (Or.inl rfl)
  by_cases hfd : exp.baselineInotifyFd ≥ 0
  · by_cases hqueue : queue = []
    · simpa [checkThread, hfd, baselineInotifyCheck_eq, hqueue, baselineReload] using hchecked
    · have hreload : Stands exp seen st ⟨⟨pollHead ctx, false⟩, .reload c⟩ [c.env] := Stands.reload h hfd
      simpa [checkThread, hfd, baselineInotifyCheck_eq, hqueue] using hreload
  · simpa [checkThread, hfd, baselineReload] using hchecked

/-- the reload reads its file -/
theorem load_reload {c : PollThreads.Cycle K} {ctx : GpuCtx K} (h : Attempt exp st c ctx)
    (hfd : exp.baselineInotifyFd ≥ 0) {files : CStr → Option CStr} (hseen : seen (files ctx.serial)) :
    Stands exp seen st (loadThread files ⟨⟨pollHead ctx, false⟩, .reload c⟩) [c.env] := by
  have hchecked : Stands exp seen st
      ⟨⟨baselineReload exp { c.env with inotify := 1, baselineFile := files ctx.serial } (pollHead ctx), false⟩,
        .checked c⟩ [c.env] := Stands.checked h (Or.inr ⟨rfl, hseen⟩)
  rwa [baselineReload, if_pos ⟨hfd, rfl⟩] at hchecked

/-- the rest of the iteration publishes -/
theorem publish_checked {c : PollThreads.Cycle K} {ctx : GpuCtx K} (h : Attempt exp st c ctx) {any : ℤ}
    {file : Option CStr} (hany : any = 0 ∨ any = 1 ∧ seen file) {t : Thread K}
    (ht : t = ⟨⟨baselineReload exp { c.env with inotify := any, baselineFile := file } (pollHead ctx), false⟩,
      .checked c⟩) :
    Advances exp seen st (publishThread exp t) [c.env] (some (publishThread exp t).st.ctx.snapshot)
      [{ c.env with inotify := any, baselineFile := file }] [] := by
  set env : PollEnv := { c.env with inotify := any, baselineFile := file } with henv
  have hentry : pollEntry exp st env = some ctx := h.entry
  have hresp : Responds env.nvml := h.responds
  have htail : publishThread exp t = ⟨⟨{ publishedCtx exp ctx env with ready := 1 }, false⟩, .idle⟩ := by
    rw [ht]
    unfold publishThread
    dsimp only
    rw [h.sample, h.state]
    rfl
  have hstep : Collector.step exp st env = ⟨{ publishedCtx exp ctx env with ready := 1 }, false⟩ := by
    simp only [Collector.step, pollIteration, hentry, pollAttempt_ok hresp]
  have hpublished : published exp st env = some (publishedCtx exp ctx env).snapshot :=
    published_eq_some.2 ⟨ctx, hentry, hresp, rfl⟩
  refine ⟨?_, ?_, rfl, ?_⟩
  · rw [htail, run_cons, hstep]
    exact Stands.idle
  · rw [outputs_cons, hpublished, htail]
    rfl
  · intro e he
    rw [List.mem_singleton.1 he]
    exact hany

/-- the file of a thread that is about to reload -/
theorem Stands.serial_reload (h : Stands exp seen st t rest) (hplace : t.place = .reload) :
    t.serial = st.ctx.serial := by
  cases h with
  | reload h hfd =>
    obtain ⟨-, -, time, rfl⟩ := pollEntry_some h.entry
    rfl
  | idle => cases hplace
  | polled h => cases hplace
  | checked h hany => cases hplace

/-- the operations of the others -/
theorem step_other (exp : Exporter K) (s : System K n) {i : Fin n} {op : Op n} (h : opThread op ≠ some i) :
    (step exp s op).threads i = s.threads i ∧ begun i s op = none ∧ assembled exp i s op = none := by
  refine ⟨step_elsewhere exp s h, ?_⟩
  cases op with
  | change name content => exact ⟨rfl, rfl⟩
  | check j => exact ⟨rfl, rfl⟩
  | load j => exact ⟨rfl, rfl⟩
  | poll j env => exact ⟨if_neg fun hc => h (congrArg some hc.1), rfl⟩
  | publish j => exact ⟨rfl, if_neg fun hc => h (congrArg some hc.1)⟩

/-- **The step lemma.** -/
theorem step_advances {s : System K n} {i : Fin n} (h : Stands exp seen st (s.threads i) rest)
    (hseen : (s.threads i).place = .reload → seen (s.files (s.threads i).serial)) (op : Op n) :
    ∃ done rest', Advances exp seen st ((step exp s op).threads i) (rest ++ (begun i s op).toList)
      (assembled exp i s op) done rest' := by
  by_cases hop : opThread op = some i
  · rcases step_own exp s hop with ⟨env, rfl, hth⟩ | ⟨rfl, hth⟩ | ⟨rfl, hth⟩ | ⟨rfl, hth⟩
    · simp only [hth, begun, assembled, true_and]
      generalize s.threads i = t at h
      cases h with
      | idle => exact poll_idle env
      | polled h => exact ⟨_, _, (Stands.polled h).stays⟩
      | reload h hfd => exact ⟨_, _, (Stands.reload h hfd).stays⟩
      | checked h hany => exact ⟨_, _, (Stands.checked h hany).stays⟩
    · simp only [hth, begun, assembled, Option.toList_none, List.append_nil]
      generalize s.threads i = t at h
      cases h with
      | polled h => exact ⟨_, _, (check_polled h s.queue).stays⟩
      | idle => exact ⟨_, _, Stands.idle.stays⟩
      | reload h hfd => exact ⟨_, _, (Stands.reload h hfd).stays⟩
      | checked h hany => exact ⟨_, _, (Stands.checked h hany).stays⟩
    · have hfile : (s.threads i).place = .reload → seen (s.files st.ctx.serial) := fun hplace =>
        h.serial_reload hplace ▸ hseen hplace
      simp only [hth, begun, assembled, Option.toList_none, List.append_nil]
      generalize s.threads i = t at h hfile
      cases h with
      | reload h hfd =>
        obtain ⟨-, -, time, rfl⟩ := pollEntry_some h.entry
        exact ⟨_, _, (load_reload h hfd (hfile rfl)).stays⟩
      | idle => exact ⟨_, _, Stands.idle.stays⟩
      | polled h => exact ⟨_, _, (Stands.polled h).stays⟩
      | checked h hany => exact ⟨_, _, (Stands.checked h hany).stays⟩
    · simp only [hth, begun, assembled, Option.toList_none, List.append_nil, true_and]
      generalize s.threads i = t at h
      cases h with
      | checked h hany => exact ⟨_, _, publish_checked h hany rfl⟩
      | idle => exact ⟨_, _, Stands.idle.stays⟩
      | polled h => exact ⟨_, _, (Stands.polled h).stays⟩
      | reload h hfd => exact ⟨_, _, (Stands.reload h hfd).stays⟩
  · obtain ⟨hthread, hbegun, hassembled⟩ := step_other exp s hop
    rw [hthread, hbegun, hassembled, Option.toList_none, List.append_nil]
    exact ⟨_, _, h.stays⟩

/-! ## Runs -/

/-- an iteration leaves the names of its device alone -/
theorem step_device (exp : Exporter K) (st : PollState K) (env : PollEnv) :
    (Collector.step exp st env).ctx.serial = st.ctx.serial ∧
      (Collector.step exp st env).ctx.gpuIndex = st.ctx.gpuIndex := by
  rcases pollIteration_cases exp st env with ⟨-, hit⟩ | ⟨ctx, hentry, -, hit⟩ | ⟨ctx, ret, hentry, -, hit⟩
  · rw [Collector.step, hit]
    exact ⟨rfl, rfl⟩
  · obtain ⟨-, -, time, rfl⟩ := pollEntry_some hentry
    rw [Collector.step, hit]
    simp only [publishedCtx, pollPublish, snapshotUpdate, baselineReload]
    split_ifs <;> exact ⟨rfl, rfl⟩
  · obtain ⟨-, -, time, rfl⟩ := pollEntry_some hentry
    rw [Collector.step, hit]
    simp only [pollError]
    split_ifs <;> exact ⟨rfl, rfl⟩

theorem run_device (exp : Exporter K) (st : PollState K) (envs : List PollEnv) :
    (run (Collector.step exp) st envs).ctx.serial = st.ctx.serial ∧
      (run (Collector.step exp) st envs).ctx.gpuIndex = st.ctx.gpuIndex := by
  induction envs using List.reverseRecOn with
  | nil => exact ⟨rfl, rfl⟩
  | append_singleton envs env ih =>
    rw [run_snoc]
    exact ⟨(step_device exp _ env).1.trans ih.1, (step_device exp _ env).2.trans ih.2⟩

/-- **The run lemma**, for any account of the contents seen so far. -/
theorem run_advances (exp : Exporter K) (s : System K n) {i : Fin n} (hidle : (s.threads i).place = .idle)
    (seen : List (Op n) → Option CStr → Prop) (hmono : ∀ l op file, seen l file → seen (l ++ [op]) file)
    {ops : List (Op n)} (hseen : AtEveryStep (fun l op => ((run (step exp) s l).threads i).place = .reload →
      seen (l ++ [op]) ((run (step exp) s l).files (s.threads i).serial)) ops) :
    ∃ envs rest, Stands exp (seen ops) (run (Collector.step exp) (s.threads i).st envs)
        ((run (step exp) s ops).threads i) rest ∧
      outputs (Collector.step exp) (published exp) (s.threads i).st envs = outputs (step exp) (assembled exp i) s ops ∧
      (outputs (step exp) (begun i) s ops).map sensors = (envs ++ rest).map sensors ∧
      ∀ env ∈ envs, Reloads (seen ops) env := by
  induction ops using List.reverseRecOn with
  | nil =>
    refine ⟨[], [], ?_, rfl, rfl, fun _ henv => absurd henv List.not_mem_nil⟩
    have hthread : s.threads i = ⟨(s.threads i).st, .idle⟩ := by
      generalize s.threads i = t at hidle
      obtain ⟨st, phase⟩ := t
      cases phase with
      | idle => rfl
      | polled c => cases hidle
      | reload c => cases hidle
      | checked c => cases hidle
    rw [run_nil, run_nil, hthread]
    exact Stands.idle
  | append_singleton ops op ih =>
    obtain ⟨hseen, hop⟩ := atEveryStep_snoc.1 hseen
    obtain ⟨envs, rest, hstands, hpublished, hbegun, hreloads⟩ := ih hseen
    have hstands' := hstands.mono (hmono ops op)
    have hfile : ((run (step exp) s ops).threads i).place = .reload →
        seen (ops ++ [op]) ((run (step exp) s ops).files ((run (step exp) s ops).threads i).serial) := by
      intro hplace
      rw [hstands'.serial_reload hplace, (run_device exp _ envs).1]
      exact hop hplace
    obtain ⟨done, rest', hnext⟩ := step_advances hstands' hfile op
    refine ⟨envs ++ done, rest', ?_, ?_, ?_, ?_⟩
    · rw [run_snoc, run_append]
      exact hnext.stands
    · rw [outputs_append, outputs_snoc, hpublished, hnext.published]
    · rw [outputs_snoc, List.map_append, hbegun, List.map_append, List.append_assoc, ← List.map_append, hnext.begun,
        ← List.map_append, List.append_assoc]
    · intro env henv
      rcases List.mem_append.1 henv with hold | hnew
      · exact (hreloads env hold).imp_right fun ⟨hone, hfile⟩ => ⟨hone, hmono _ _ _ hfile⟩
      · exact hnext.reloads env hnew

theorem Stands.rest_nil (h : Stands exp seen st t rest) (hplace : t.place = .idle) : rest = [] ∧ t.st = st := by
  cases h with
  | idle => exact ⟨rfl, rfl⟩
  | polled h => cases hplace
  | reload h hfd => cases hplace
  | checked h hany => cases hplace

theorem exists_sequential (exp : Exporter K) (s : System K n) {i : Fin n} (hidle : (s.threads i).place = .idle)
    (ops : List (Op n)) : ∃ envs, Sequential exp s ops i envs := by
  have hmono : ∀ l op file, SeenIn exp s l (s.threads i).serial file →
      SeenIn exp s (l ++ [op]) (s.threads i).serial file :=
    fun l op file ⟨pre, hpre, hfile⟩ => ⟨pre, hpre.trans (List.prefix_append _ _), hfile⟩
  have hseen : AtEveryStep (fun l op => ((run (step exp) s l).threads i).place = .reload →
      SeenIn exp s (l ++ [op]) (s.threads i).serial ((run (step exp) s l).files (s.threads i).serial)) ops :=
    fun l op _ _ _ => ⟨l, List.prefix_append _ _, rfl⟩
  obtain ⟨envs, rest, hstands, hpublished, hbegun, hreloads⟩ :=
    run_advances exp s hidle (fun l => SeenIn exp s l (s.threads i).serial) hmono hseen
  refine ⟨envs, ?_, hreloads, hpublished, ?_⟩
  · rw [hbegun, List.map_append]
    exact List.prefix_append _ _
  · intro hend
    obtain ⟨rfl, hst⟩ := hstands.rest_nil hend
    rw [List.append_nil] at hbegun
    exact ⟨hbegun.symm, hst⟩

/-- **Every interleaving refines.** From the start of the threads on, whatever the other threads and the writers of the
baseline files do in between, each thread does what the poll loop of its GPU does. -/
theorem interleaved_refines (exp : Exporter K) (ctx : Fin n → GpuCtx K) (files probeFiles : CStr → Option CStr)
    (nowS : UInt64) (ops : List (Op n)) (i : Fin n) :
    ∃ envs, Sequential exp (start exp ctx files probeFiles nowS) ops i envs :=
  exists_sequential exp _ rfl ops

/-! ## Runs without changes -/

/-- no event is queued, and no thread is about to reload -/
def Quiet (s : System K n) : Prop := s.queue = [] ∧ ∀ j, (s.threads j).place ≠ .reload

omit [Arith K] in
theorem quiet_update {s : System K n} (h : Quiet s) (j : Fin n) {t' : Thread K} (ht' : t'.place ≠ .reload) :
    Quiet { s with threads := Function.update s.threads j t' } := by
  refine ⟨h.1, fun k => ?_⟩
  by_cases hk : k = j
  · subst hk
    dsimp only
    rwa [Function.update_self]
  · dsimp only
    rw [Function.update_of_ne hk]
    exact h.2 k

theorem quiet_step (exp : Exporter K) {s : System K n} (h : Quiet s) {op : Op n}
    (hop : ∀ name content, op ≠ .change name content) : Quiet (step exp s op) := by
  cases op with
  | change name content => exact absurd rfl (hop name content)
  | poll j env =>
    apply quiet_update h
    rcases pollThread_cases exp env (s.threads j) with hsame | ⟨-, -, hplace | hplace⟩
    · rw [hsame]
      exact h.2 j
    · rw [hplace]
      decide
    · rw [hplace]
      decide
  | load j =>
    apply quiet_update h
    rcases loadThread_cases s.files (s.threads j) with ⟨hsame, -⟩ | ⟨hplace, -⟩
    · rw [hsame]
      exact h.2 j
    · exact absurd hplace (h.2 j)
  | publish j =>
    apply quiet_update h
    rcases publishThread_cases exp (s.threads j) with hsame | ⟨-, -, hplace⟩
    · rw [hsame]
      exact h.2 j
    · rw [hplace]
      decide
  | check j =>
    have hqueue : (checkThread exp s.queue (s.threads j)).2 = [] ∧
        (checkThread exp s.queue (s.threads j)).1.place ≠ .reload := by
      have hj := h.2 j
      rw [h.1]
      generalize s.threads j = t at hj
      obtain ⟨st, phase⟩ := t
      cases phase with
      | idle => exact ⟨rfl, (by decide : Place.idle ≠ Place.reload)⟩
      | polled c =>
        have hchecked : checkThread exp [] ⟨st, .polled c⟩ = (⟨st, .checked c⟩, []) := by
          by_cases hfd : exp.baselineInotifyFd ≥ 0 <;> simp [checkThread, hfd, baselineInotifyCheck_eq]
        rw [hchecked]
        exact ⟨rfl, (by decide : Place.checked ≠ Place.reload)⟩
      | reload c => exact absurd rfl hj
      | checked c => exact ⟨rfl, (by decide : Place.checked ≠ Place.reload)⟩
    obtain ⟨-, hothers⟩ := quiet_update h j hqueue.2
    exact ⟨hqueue.1, hothers⟩

/-- an iteration whose drain finds nothing does not look at the file -/
theorem step_sensors (exp : Exporter K) (st : PollState K) {env : PollEnv} (h : env.inotify = 0) :
    Collector.step exp st env = Collector.step exp st (sensors env) ∧
      published exp st env = published exp st (sensors env) := by
  have henv : sensors env = { env with baselineFile := none } := by rw [sensors, ← h]
  have hreload : ∀ ctx : GpuCtx K, baselineReload exp env ctx = baselineReload exp (sensors env) ctx := by
    intro ctx
    rw [baselineReload, baselineReload, if_neg (by rw [h]; omega), if_neg (by rw [henv, h]; omega)]
  have hctx : ∀ ctx, publishedCtx exp ctx env = publishedCtx exp ctx (sensors env) := by
    intro ctx
    have htail : ∀ env : PollEnv, publishedCtx exp ctx env = pollTail exp env (baselineReload exp env (pollHead ctx))
        (nvmlSample env.nvml env.sampleMs) (dcgmState exp env (nvmlState env.nvml (freshState ctx))) := fun _ => rfl
    rw [htail, htail, hreload]
    rfl
  have hentry : pollEntry exp st (sensors env) = pollEntry exp st env := rfl
  have hresponds : Responds (sensors env).nvml ↔ Responds env.nvml := Iff.rfl
  constructor
  · unfold Collector.step pollIteration
    rw [hentry]
    cases pollEntry exp st env with
    | none => rfl
    | some ctx =>
      dsimp only
      by_cases hresp : Responds env.nvml
      · rw [pollAttempt_ok hresp, pollAttempt_ok (hresponds.2 hresp), hctx]
      · unfold pollAttempt
        have hpoll : doNvmlPoll (sensors env).nvml (sensors env).sampleMs GpuSample.zeroed (freshState ctx) =
          doNvmlPoll env.nvml env.sampleMs GpuSample.zeroed (freshState ctx) := rfl
        rw [hpoll]
        cases hfail : doNvmlPoll env.nvml env.sampleMs GpuSample.zeroed (freshState ctx) with
        | error e => rfl
        | ok r => exact absurd (doNvmlPoll_ok_iff.1 hfail).1 hresp
  · unfold published
    rw [hentry]
    simp only [hctx, hresponds]

theorem run_sensors (exp : Exporter K) (st : PollState K) {envs : List PollEnv} (h : ∀ env ∈ envs, env.inotify = 0) :
    run (Collector.step exp) st envs = run (Collector.step exp) st (envs.map sensors) ∧
      outputs (Collector.step exp) (published exp) st envs =
        outputs (Collector.step exp) (published exp) st (envs.map sensors) := by
  induction envs generalizing st with
  | nil => exact ⟨rfl, rfl⟩
  | cons env envs ih =>
    obtain ⟨hstep, hpublished⟩ := step_sensors exp st (h env List.mem_cons_self)
    obtain ⟨hrun, houtputs⟩ := ih (Collector.step exp st env) fun e he => h e (List.mem_cons_of_mem _ he)
    rw [List.map_cons, run_cons, run_cons, outputs_cons, outputs_cons, hrun, houtputs, hpublished, hstep]
    exact ⟨rfl, rfl⟩

/-- **Without changes of the baseline files the threads do not see each other**: a thread that has finished its
iterations has published, and ends, as its poll loop does when it runs alone through them. -/
theorem quiet_isolated (exp : Exporter K) (ctx : Fin n → GpuCtx K) (files probeFiles : CStr → Option CStr)
    (nowS : UInt64) (ops : List (Op n)) (hquiet : ∀ name content, .change name content ∉ ops) (i : Fin n)
    (hidle : ((run (step exp) (start exp ctx files probeFiles nowS) ops).threads i).place = .idle) :
    let s := start exp ctx files probeFiles nowS
    let envs := (outputs (step exp) (begun i) s ops).map sensors
    ((run (step exp) s ops).threads i).st = run (Collector.step exp) (s.threads i).st envs ∧
      outputs (step exp) (assembled exp i) s ops = outputs (Collector.step exp) (published exp) (s.threads i).st envs := by
  intro s
  have hquiets : ∀ l, l <+: ops → Quiet (run (step exp) s l) := by
    intro l hl
    have hstep : ∀ (t : System K n) (op : Op n), (∀ name content, op ≠ .change name content) → Quiet t →
        Quiet (step exp t op) := fun t op hop h => quiet_step exp h hop
    have hstart : Quiet s := ⟨rfl, fun j => (by decide : Place.idle ≠ Place.reload)⟩
    refine run_inv_of hstep ?_ hstart
    intro v hv name content heq
    exact hquiet name content (hl.subset (heq ▸ mem_of_visits _ hv))
  have hnone : AtEveryStep (fun l _ => ((run (step exp) s l).threads i).place = .reload → False) ops := by
    intro l op post hsplit hplace
    exact (hquiets l ⟨_, hsplit.symm⟩).2 i hplace
  obtain ⟨envs, rest, hstands, hpublished, hbegun, hreloads⟩ :=
    run_advances exp s rfl (fun _ _ => False) (fun _ _ _ h => h) hnone
  obtain ⟨rfl, hst⟩ := hstands.rest_nil hidle
  rw [List.append_nil] at hbegun
  have hzero : ∀ env ∈ envs, env.inotify = 0 := fun env henv => (hreloads env henv).resolve_right fun h => h.2
  obtain ⟨hrun, houtputs⟩ := run_sensors exp (s.threads i).st hzero
  dsimp only
  rw [hbegun, ← hrun, ← houtputs]
  exact ⟨hst, hpublished.symm⟩

abbrev firstGpu : Fin 2 := ⟨0, Nat.two_pos⟩

abbrev secondGpu : Fin 2 := ⟨1, Nat.one_lt_two⟩

/-- two threads, the second one publishing inside an iteration of the first -/
def woven : List (Op 2) :=
  [.poll firstGpu (quietEnv 0), .poll secondGpu (failingEnv 5 3), .poll secondGpu (quietEnv 15000), .check firstGpu,
    .check secondGpu, .publish secondGpu, .load firstGpu, .publish firstGpu]

theorem quiet_isolated_woven :
    ((run (step smallExporter) (start smallExporter (fun _ : Fin 2 => .zeroed) (fun _ => none) (fun _ => none) 0)
      woven).threads 1).st =
    run (Collector.step smallExporter)
      (collectorStart (mainLoadFiles smallExporter .zeroed none none 0) smallExporter)
      [sensors (failingEnv 5 3), sensors (quietEnv 15000)] := by
  have hquiet : ∀ name content, .change name content ∉ woven := by simp [woven]
  obtain ⟨hst, -⟩ := quiet_isolated smallExporter (fun _ : Fin 2 => .zeroed) (fun _ => none) (fun _ => none) 0 woven
    hquiet 1 (by decide +kernel)
  rw [hst]
  rfl

end GpuHealth.ThreadRefinement
