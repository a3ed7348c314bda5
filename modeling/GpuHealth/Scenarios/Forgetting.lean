/-
What an exporter remembers of its past, when its GPUs answer: nothing but its files, beyond one window of polls.

`past_forgotten`: two threads of one GPU with any pasts (one may have run for weeks, with outages and reloads, and the
other have been started just now) that hold the same baseline and probe result and are in service: they have just been
started, or the poll behind them was published (`inService_start`, `inService_published`). From then on they see the
same, and every poll is answered. Once there are as many polls as the window holds, both publish, and their snapshots
are the same in every field but the number of errors since the start. So a restart is forgotten after one window, and so
is an outage, however long, when it has ended.

What is remembered beyond that is left out by the condition: a GPU that is lost for good, an outage that has not ended,
and the errors in a row that decide which polls are tried and when a GPU counts as lost.
-/
import GpuHealth.Collector
import GpuHealth.WindowScore

namespace GpuHealth.Forgetting

open GpuHealth.Collector GpuHealth.Nvml GpuHealth.Ring GpuHealth.Runs GpuHealth.Scorer GpuHealth.Snapshot
open GpuHealth.WindowScore

variable {K : Type}

/-! ## What lasts -/

/-- what a thread keeps beside its window: the identity, and what its files said -/
structure Lasting (K : Type) where
  serial : CStr
  uuid : CStr
  gpuModel : CStr
  driverVersion : CStr
  gpuIndex : ℤ
  identitySource : GpuIdentitySrc
  pcieLinkGenMax : ℤ
  pcieLinkWidthMax : ℤ
  baseline : GpuBaseline K
  probe : GpuProbeResult K
deriving DecidableEq, Repr

def lasting (ctx : GpuCtx K) : Lasting K :=
  ⟨ctx.serial, ctx.uuid, ctx.gpuModel, ctx.driverVersion, ctx.gpuIndex, ctx.identitySource, ctx.pcieLinkGenMax,
    ctx.pcieLinkWidthMax, ctx.baseline, ctx.probe⟩

variable [Arith K]

/-- after a poll that is published -/
def reloaded (exp : Exporter K) (env : PollEnv) (l : Lasting K) : Lasting K :=
  if exp.baselineInotifyFd ≥ 0 ∧ env.inotify = 1 then
    let newBaseline := State.baselineLoad env.baselineFile l.serial
    { l with baseline := { newBaseline with
      driverMismatch := driverMismatch newBaseline.driverVersion l.driverVersion } }
  else l

theorem lasting_published (exp : Exporter K) (ctx : GpuCtx K) (env : PollEnv) :
    lasting (publishedCtx exp ctx env) = reloaded exp env (lasting ctx) := by
  simp only [lasting, publishedCtx, pollPublish, snapshotUpdate, baselineReload, reloadedBaseline, reloaded]
  split_ifs <;> rfl

omit [Arith K] in
theorem lasting_error (exp : Exporter K) (ctx : GpuCtx K) (ret : ℤ) :
    lasting (pollError exp ctx ret).ctx = lasting ctx := by
  simp only [pollError]
  split_ifs <;> rfl

theorem lasting_step (exp : Exporter K) (st : PollState K) (env : PollEnv) :
    lasting (step exp st env).ctx =
      if Publishes exp st env then reloaded exp env (lasting st.ctx) else lasting st.ctx := by
  rcases pollIteration_cases exp st env with ⟨hentry, hit⟩ | ⟨ctx, hentry, hok, hit⟩ | ⟨ctx, ret, hentry, hok, hit⟩
  · have hpub : ¬ Publishes exp st env := by simp [Publishes, hentry]
    rw [step, hit, if_neg hpub]
  · obtain ⟨-, -, t, rfl⟩ := pollEntry_some hentry
    have hpub : Publishes exp st env := ⟨by simp [hentry], hok⟩
    rw [step, hit, if_pos hpub]
    exact lasting_published exp _ env
  · obtain ⟨-, -, t, rfl⟩ := pollEntry_some hentry
    have hpub : ¬ Publishes exp st env := fun h => hok h.2
    rw [step, hit, if_neg hpub]
    exact lasting_error exp _ ret

/-! ## A thread in service -/

/-- the loop goes on, and its next poll is an attempt -/
structure InService (st : PollState K) : Prop where
  running : st.exited = false
  present : st.ctx.gpuPresent ≠ 0
  available : st.ctx.gpuAvailable ≠ 0

variable {exp : Exporter K} {a b st : PollState K} {envs : List PollEnv} {env : PollEnv}

theorem inService_start (ctx : GpuCtx K) (exp : Exporter K) : InService (collectorStart ctx exp) :=
  ⟨rfl, one_ne_zero, one_ne_zero⟩

/-- a published poll leaves the thread in service, whatever was before -/
theorem inService_published (h : Publishes exp st env) : InService (step exp st env) := by
  obtain ⟨ctx, hentry⟩ := Option.isSome_iff_exists.1 h.1
  obtain ⟨-, hpresent, t, rfl⟩ := pollEntry_some hentry
  have hstep : step exp st env = ⟨{ publishedCtx exp { st.ctx with lastRetryMs := t } env with ready := 1 }, false⟩ := by
    simp only [step, pollIteration, hentry, pollAttempt_ok h.2]
  have hkeep : (publishedCtx exp { st.ctx with lastRetryMs := t } env).gpuPresent = st.ctx.gpuPresent ∧
      (publishedCtx exp { st.ctx with lastRetryMs := t } env).gpuAvailable = 1 := by
    simp only [publishedCtx, pollPublish, snapshotUpdate, baselineReload]
    split_ifs <;> exact ⟨rfl, rfl⟩
  rw [hstep]
  exact ⟨rfl, fun h0 => hpresent (hkeep.1.symm.trans h0), fun h0 => one_ne_zero (hkeep.2.symm.trans h0)⟩

omit [Arith K] in
/-- and in service a poll that is answered is published -/
theorem InService.publishes (h : InService st) (hresponds : Responds env.nvml) : Publishes exp st env := by
  refine ⟨?_, hresponds⟩
  rw [pollEntry, if_neg (by rw [h.running]; exact Bool.false_ne_true), if_neg h.present, if_neg h.available]
  rfl

/-- **Answered polls of a thread in service** are all published. -/
theorem publishes_run (exp : Exporter K) (h : InService st) (hresponds : ∀ e ∈ envs, Responds e.nvml) :
    AtEveryStep (fun pre env => Publishes exp (run (step exp) st pre) env) envs ∧
      InService (run (step exp) st envs) := by
  induction envs using List.reverseRecOn with
  | nil => exact ⟨atEveryStep_nil _, h⟩
  | append_singleton envs env ih =>
    obtain ⟨hbefore, hlast⟩ := List.forall_mem_append.1 hresponds
    obtain ⟨hall, hservice⟩ := ih hbefore
    have hpublishes : Publishes exp (run (step exp) st envs) env := hservice.publishes (hlast env (by simp))
    rw [atEveryStep_snoc, run_snoc]
    exact ⟨⟨hall, hpublishes⟩, inService_published hpublishes⟩

/-! ## Two threads -/

/-- what the files said last, after published polls -/
theorem lasting_run (h : AtEveryStep (fun pre env => Publishes exp (run (step exp) st pre) env) envs) :
    lasting (run (step exp) st envs).ctx = envs.foldl (fun l env => reloaded exp env l) (lasting st.ctx) := by
  induction envs using List.reverseRecOn with
  | nil => rfl
  | append_singleton envs env ih =>
    obtain ⟨hpre, hlast⟩ := atEveryStep_snoc.1 h
    rw [run_snoc, lasting_step, if_pos hlast, ih hpre, List.foldl_append, List.foldl_cons, List.foldl_nil]

/-- the last `n` elements, where the end of a list has as many -/
theorem rtake_append {α : Type} {n : ℕ} (past : List α) {l : List α} (h : n ≤ l.length) :
    (past ++ l).rtake n = l.rtake n := by
  rw [List.rtake, List.rtake, List.length_append, List.drop_append,
    List.drop_of_length_le (by omega : past.length ≤ past.length + l.length - n), List.nil_append]
  congr 1
  omega

omit [Arith K] in
/-- the GPU is there or not -/
theorem present_error (exp : Exporter K) (ctx : GpuCtx K) (ret : ℤ) :
    (pollError exp ctx ret).ctx.gpuPresent = 0 ∨ (pollError exp ctx ret).ctx.gpuPresent = ctx.gpuPresent := by
  simp only [pollError]
  split_ifs <;> simp

theorem present_run (exp : Exporter K) (ctx : GpuCtx K) (envs : List PollEnv) :
    (run (step exp) (collectorStart ctx exp) envs).ctx.gpuPresent = 0 ∨
      (run (step exp) (collectorStart ctx exp) envs).ctx.gpuPresent = 1 := by
  have hstep : ∀ st env, st.ctx.gpuPresent = 0 ∨ st.ctx.gpuPresent = 1 →
      (step exp st env).ctx.gpuPresent = 0 ∨ (step exp st env).ctx.gpuPresent = 1 := by
    intro st env h
    rcases pollIteration_cases exp st env with ⟨-, hit⟩ | ⟨ctx, hentry, -, hit⟩ | ⟨ctx, ret, hentry, -, hit⟩
    · rw [step, hit]
      exact h
    · obtain ⟨-, -, t, rfl⟩ := pollEntry_some hentry
      have hkeep : (publishedCtx exp { st.ctx with lastRetryMs := t } env).gpuPresent = st.ctx.gpuPresent := by
        simp only [publishedCtx, pollPublish, snapshotUpdate, baselineReload]
        split_ifs <;> rfl
      rw [step, hit]
      exact hkeep.symm ▸ h
    · obtain ⟨-, -, t, rfl⟩ := pollEntry_some hentry
      rw [step, hit]
      rcases present_error exp { st.ctx with lastRetryMs := t } ret with h0 | hsame
      · exact Or.inl h0
      · rw [hsame]
        exact h
  exact run_inv hstep envs (Or.inr rfl)

/-- without the number of errors since the start -/
def apartFromErrors (s : GpuSnapshot K) : GpuSnapshot K := { s with collectorErrorsTotal := 0 }

/-- what a snapshot is made of -/
theorem snapshotUpdate_same {x y : GpuCtx K} (hlasting : lasting x = lasting y) (hstate : x.state = y.state)
    (hlatest : latestSample x.ring = latestSample y.ring) (hpresent : x.gpuPresent = y.gpuPresent)
    (havailable : x.gpuAvailable = y.gpuAvailable) (score : GpuScoreResult K) (dcgmAvailable : ℤ) (nowS nowMs : UInt64) :
    apartFromErrors (snapshotUpdate x score dcgmAvailable nowS nowMs).snapshot =
      apartFromErrors (snapshotUpdate y score dcgmAvailable nowS nowMs).snapshot := by
  simp only [lasting, Lasting.mk.injEq] at hlasting
  obtain ⟨h1, h2, h3, h4, h5, h6, h7, h8, h9, h10⟩ := hlasting
  simp only [apartFromErrors, snapshotUpdate, h1, h2, h3, h4, h5, h6, h7, h8, h9, h10, hstate, hlatest, hpresent,
    havailable]

/-- the context that is scored -/
def scored (exp : Exporter K) (ctx : GpuCtx K) (env : PollEnv) : GpuCtx K :=
  { baselineReload exp env { ctx with consecutiveErrors := 0, consecutiveHardErrors := 0, gpuAvailable := 1 } with
    ring := ringPush (baselineReload exp env ctx).ring (nvmlSample env.nvml env.sampleMs)
    state := dcgmState exp env (nvmlState env.nvml (freshState ctx)) }

theorem scored_spec (exp : Exporter K) (ctx : GpuCtx K) (env : PollEnv) :
    lasting (scored exp ctx env) = reloaded exp env (lasting ctx) ∧
      (scored exp ctx env).ring = ringPush ctx.ring (nvmlSample env.nvml env.sampleMs) ∧
      (scored exp ctx env).gpuPresent = ctx.gpuPresent ∧ (scored exp ctx env).gpuAvailable = 1 ∧
      publishedCtx exp ctx env = snapshotUpdate (scored exp ctx env) (scoreGpu env.malloc (scored exp ctx env).ring
        (scored exp ctx env).state (some (scored exp ctx env).baseline) (some (scored exp ctx env).probe) exp.cfg)
          exp.dcgmAvailable env.wallS env.snapMs := by
  simp only [publishedCtx, pollPublish, scored, baselineReload, reloadedBaseline, reloaded, lasting]
  split_ifs <;> exact ⟨rfl, rfl, rfl, rfl, rfl⟩

/-- **One poll of two threads** with the same window, identity and files. -/
theorem snapshot_same {x y : GpuCtx K} (hx : RingWf x.ring) (hy : RingWf y.ring) (hlasting : lasting x = lasting y)
    (hpresent : x.gpuPresent = y.gpuPresent) (env : PollEnv)
    (hwindow : window (ringPush x.ring (nvmlSample env.nvml env.sampleMs)) =
      window (ringPush y.ring (nvmlSample env.nvml env.sampleMs))) :
    apartFromErrors (publishedCtx exp x env).snapshot = apartFromErrors (publishedCtx exp y env).snapshot := by
  obtain ⟨hlastX, hringX, hpresX, havailX, hpubX⟩ := scored_spec exp x env
  obtain ⟨hlastY, hringY, hpresY, havailY, hpubY⟩ := scored_spec exp y env
  have hlast : lasting (scored exp x env) = lasting (scored exp y env) := by rw [hlastX, hlastY, hlasting]
  have hbaseline : (scored exp x env).baseline = (scored exp y env).baseline := congrArg Lasting.baseline hlast
  have hprobe : (scored exp x env).probe = (scored exp y env).probe := congrArg Lasting.probe hlast
  have hstate : (scored exp x env).state = (scored exp y env).state := by
    have hgen : x.pcieLinkGenMax = y.pcieLinkGenMax := congrArg Lasting.pcieLinkGenMax hlasting
    have hwidth : x.pcieLinkWidthMax = y.pcieLinkWidthMax := congrArg Lasting.pcieLinkWidthMax hlasting
    simp only [scored, freshState, hgen, hwidth]
  have hscore : ∀ state baseline probe,
      scoreGpu env.malloc (scored exp x env).ring state baseline probe exp.cfg =
        scoreGpu env.malloc (scored exp y env).ring state baseline probe exp.cfg := by
    intro state baseline probe
    rw [hringX, hringY, scoreGpu_eq (wf_push hx _), scoreGpu_eq (wf_push hy _), hwindow]
  rw [hpubX, hpubY, hscore, hstate, hbaseline, hprobe]
  refine snapshotUpdate_same hlast hstate ?_ ?_ (havailX.trans havailY.symm) _ _ _ _
  · rw [hringX, hringY, latestSample_ringPush hx, latestSample_ringPush hy]
  · rw [hpresX, hpresY, hpresent]

/-- the window behind one more sample, when the stretch and this one fill it -/
theorem window_stretch (ctx : GpuCtx K) (past envs : List PollEnv) (sample : GpuSample K)
    (hlong : (ringCapacity exp.cfg).toNat ≤
      (outputs (step exp) (pushed exp) (run (step exp) (collectorStart ctx exp) past) envs).length + 1) :
    window (ringPush (run (step exp) (collectorStart ctx exp) (past ++ envs)).ctx.ring sample) =
      (outputs (step exp) (pushed exp) (run (step exp) (collectorStart ctx exp) past) envs ++ [sample]).rtake
        (ringCapacity exp.cfg).toNat := by
  set before := outputs (step exp) (pushed exp) (collectorStart ctx exp) past
  set stretch := outputs (step exp) (pushed exp) (run (step exp) (collectorStart ctx exp) past) envs with hstretch
  have hring : ringPush (run (step exp) (collectorStart ctx exp) (past ++ envs)).ctx.ring sample =
      (before ++ (stretch ++ [sample])).foldl ringPush (collectorStart ctx exp).ctx.ring := by
    rw [run_ring, outputs_append, ← hstretch, ← List.append_assoc, List.foldl_append, List.foldl_append,
      List.foldl_append]
    rfl
  have hlen : (ringCapacity exp.cfg).toNat ≤ (stretch ++ [sample]).length := by
    rw [List.length_append, List.length_singleton]
    exact hlong
  rw [hring, window_pushAll (start_ring_wf ctx exp) rfl, ← rtake_append before hlen]
  rfl

/-- **The past is forgotten.** -/
theorem past_forgotten (exp : Exporter K) (ctx ctx' : GpuCtx K) (past past' envs : List PollEnv) (env : PollEnv)
    (hservice : InService (run (step exp) (collectorStart ctx exp) past))
    (hservice' : InService (run (step exp) (collectorStart ctx' exp) past'))
    (hsame : lasting (run (step exp) (collectorStart ctx exp) past).ctx =
      lasting (run (step exp) (collectorStart ctx' exp) past').ctx)
    (hresponds : ∀ e ∈ envs ++ [env], Responds e.nvml) (hlong : (ringCapacity exp.cfg).toNat ≤ envs.length + 1) :
    ∃ s s', published exp (run (step exp) (collectorStart ctx exp) (past ++ envs)) env = some s ∧
      published exp (run (step exp) (collectorStart ctx' exp) (past' ++ envs)) env = some s' ∧
      apartFromErrors s = apartFromErrors s' := by
  obtain ⟨hstretch, hnow⟩ := atEveryStep_snoc.1 (publishes_run exp hservice hresponds).1
  obtain ⟨hstretch', hnow'⟩ := atEveryStep_snoc.1 (publishes_run exp hservice' hresponds).1
  have hpushed := outputs_pushed_all hstretch
  have hpushed' := outputs_pushed_all hstretch'
  have hlasting := lasting_run hstretch
  rw [hsame, ← lasting_run hstretch'] at hlasting
  rw [← run_append] at hnow hnow' hlasting
  rw [← run_append] at hlasting
  obtain ⟨s, hs⟩ := published_isSome.2 hnow
  obtain ⟨s', hs'⟩ := published_isSome.2 hnow'
  refine ⟨s, s', hs, hs', ?_⟩
  obtain ⟨x, hx, -, rfl⟩ := published_eq_some.1 hs
  obtain ⟨y, hy, -, rfl⟩ := published_eq_some.1 hs'
  obtain ⟨-, hpresX, t, rfl⟩ := pollEntry_some hx
  obtain ⟨-, hpresY, t', rfl⟩ := pollEntry_some hy
  have honeX := (present_run exp ctx (past ++ envs)).resolve_left hpresX
  have honeY := (present_run exp ctx' (past' ++ envs)).resolve_left hpresY
  refine snapshot_same (x := { (run (step exp) (collectorStart ctx exp) (past ++ envs)).ctx with lastRetryMs := t })
    (y := { (run (step exp) (collectorStart ctx' exp) (past' ++ envs)).ctx with lastRetryMs := t' })
    (run_ring_wf exp ctx (past ++ envs)) (run_ring_wf exp ctx' (past' ++ envs)) hlasting (honeX.trans honeY.symm) env ?_
  have hwindow := window_stretch ctx past envs (nvmlSample env.nvml env.sampleMs) (by
    rw [hpushed, List.length_map]
    exact hlong)
  have hwindow' := window_stretch ctx' past' envs (nvmlSample env.nvml env.sampleMs) (by
    rw [hpushed', List.length_map]
    exact hlong)
  rw [hpushed] at hwindow
  rw [hpushed'] at hwindow'
  exact hwindow.trans hwindow'.symm

/-- a thread with an outage of three polls behind it, against one that has just been started -/
def outage : List PollEnv := [quietEnv 15000, failingEnv 30000 999, failingEnv 45000 999, quietEnv 60000]

def stretch : List PollEnv := [quietEnv 75000, quietEnv 90000, quietEnv 105000]

theorem past_forgotten_restart : ∃ s s',
    published smallExporter (run (step smallExporter) (collectorStart .zeroed smallExporter) (outage ++ stretch))
      (quietEnv 120000) = some s ∧
    published smallExporter (run (step smallExporter) (collectorStart .zeroed smallExporter) ([] ++ stretch))
      (quietEnv 120000) = some s' ∧ apartFromErrors s = apartFromErrors s' := by
  have hback : Publishes smallExporter (run (step smallExporter) (collectorStart .zeroed smallExporter)
      [quietEnv 15000, failingEnv 30000 999, failingEnv 45000 999]) (quietEnv 60000) := by decide +kernel
  exact past_forgotten smallExporter .zeroed .zeroed outage [] stretch (quietEnv 120000) (inService_published hback)
    (inService_start _ _) (by decide +kernel) (by decide +kernel) (by decide +kernel)

end GpuHealth.Forgetting
