/-
Freshness of the probe result over whole runs of the poll loop.

The property: the probe_available, probe_stale and perf_drop_frac of every published snapshot are those of
`probe_load` on the .probe file as it is when the snapshot is made (`ProbeFresh`). The code loads the file once, in
`main`, and no path of the loop loads it again or looks at the clock (`after_inv`).

- `expired_shown_current`: a result that is current at startup and older than probe_ttl_s at the first poll is shown
  as current.
- `probeFresh_iff`: every snapshot of a run shows the current result exactly when, at every publishing cycle, the
  current file reads like the one of the startup (`ReadsAlike`): both accepted or both not; if accepted, both on the
  same side of the TTL, each at its own time; and, when neither is expired and the perf/W path of the score is on,
  with means that give the same drop.

Premises: none. The clock of each cycle and the file it would find are arbitrary.
-/
import GpuHealth.Collector

namespace GpuHealth.ProbeFreshness

open GpuHealth.Ring GpuHealth.Scorer GpuHealth.State GpuHealth.Nvml GpuHealth.Collector GpuHealth.Runs

variable {K : Type} [Arith K]

/-! ## The property -/

/-- the environment of an iteration, and the .probe file at the time of its snapshot -/
structure ProbeEnv extends PollEnv where
  probeFile : Option CStr

/-- what `probe_load` gives at the time of the snapshot -/
def current (exp : Exporter K) (i : ProbeEnv) : GpuProbeResult K :=
  probeLoad i.probeFile (exp.cfg.int .probeTtlS) i.wallS

/-- the cycle's perf_drop_frac, were `probe` the result in use -/
def dropWith (exp : Exporter K) (st : PollState K) (env : PollEnv) (probe : GpuProbeResult K) : Dbl K :=
  let ctx := publishedCtx exp st.ctx env
  (scoreGpu env.malloc ctx.ring ctx.state (some ctx.baseline) (some probe) exp.cfg).perfDropFrac

/-- the snapshot of the iteration, if any, shows the current result -/
def ProbeFresh (exp : Exporter K) (st : PollState K) (i : ProbeEnv) : Prop :=
  ∀ s, published exp st i.toPollEnv = some s →
    s.probeAvailable = (current exp i).available ∧ s.probeStale = (current exp i).stale ∧
      s.perfDropFrac = dropWith exp st i.toPollEnv (current exp i)

/-- the files and the clock at startup -/
structure Startup where
  baselineFile : Option CStr
  probeFile : Option CStr
  nowS : UInt64

def start (exp : Exporter K) (ctx : GpuCtx K) (u : Startup) : PollState K :=
  collectorStart (mainLoadFiles exp ctx u.baselineFile u.probeFile u.nowS) exp

/-- the state after the iterations `pre` -/
def after (exp : Exporter K) (ctx : GpuCtx K) (u : Startup) (pre : List ProbeEnv) : PollState K :=
  run (step exp) (start exp ctx u) (pre.map ProbeEnv.toPollEnv)

/-! ## The condition -/

/-- the content of an accepted file -/
def reading (file : Option CStr) : Option (GpuProbeResult K) :=
  file.bind fun f => if (probeScan f : ProbeScan K).accepted then some (probeScan f).out else none

/-- the baseline can be compared with -/
def Usable (b : GpuBaseline K) : Prop := b.available ≠ 0 ∧ b.valid ≠ 0 ∧ .fin 0 < b.perfWMean

/-- the perf/W path of the cycle's score is on: the gate passes, and the baseline in use is usable -/
def PerfPathOn (exp : Exporter K) (st : PollState K) (env : PollEnv) : Prop :=
  completenessGate (ringPush st.ctx.ring (nvmlSample env.nvml env.sampleMs)) exp.cfg ≠ 0 ∧
    Usable (baselineReload exp env st.ctx).baseline

/-- two means that give the same drop below the baseline mean `b`: equal, both not positive, or both at least `b` -/
def SameDrop (b p q : Dbl K) : Prop := (.fin 0 < p ↔ .fin 0 < q) ∧ (.fin 0 < p → p = q ∨ (b ≤ p ∧ b ≤ q))

/-- the file of the cycle reads like the file of the startup -/
def ReadsAlike (exp : Exporter K) (u : Startup) (st : PollState K) (i : ProbeEnv) : Prop :=
  match (reading u.probeFile : Option (GpuProbeResult K)), (reading i.probeFile : Option (GpuProbeResult K)) with
  | none, none => True
  | some p, some q =>
    probeExpired (exp.cfg.int .probeTtlS) u.nowS p.probeTimestampS =
        probeExpired (exp.cfg.int .probeTtlS) i.wallS q.probeTimestampS ∧
      (probeExpired (exp.cfg.int .probeTtlS) u.nowS p.probeTimestampS = false → PerfPathOn exp st i.toPollEnv →
        SameDrop (baselineReload exp i.toPollEnv st.ctx).baseline.perfWMean p.perfWMean q.perfWMean)
  | _, _ => False

/-! ## The drop as a function of the probe result -/

/-- the share of the baseline mean `b` that the mean `p` is below it -/
def dropFrac (b p : K) : K := (b - min b p) / b

theorem dropFrac_eq_iff {b p q : K} (hb : 0 < b) : dropFrac b p = dropFrac b q ↔ p = q ∨ (b ≤ p ∧ b ≤ q) := by
  unfold dropFrac
  rw [div_left_inj' hb.ne', sub_right_inj]
  rcases le_total b p with hp | hp <;> rcases le_total b q with hq | hq
  · simp [hp, hq]
  · rw [min_eq_left hp, min_eq_right hq]
    exact ⟨fun h => Or.inr ⟨hp, h.le⟩, fun h => h.elim (fun h => le_antisymm (h ▸ hp) hq) fun h => le_antisymm h.2 hq⟩
  · rw [min_eq_right hp, min_eq_left hq]
    exact ⟨fun h => Or.inr ⟨h.ge, hq⟩, fun h => h.elim (fun h => le_antisymm hp (h ▸ hq)) fun h => le_antisymm hp h.1⟩
  · rw [min_eq_right hp, min_eq_right hq]
    exact ⟨Or.inl, fun h => h.elim id fun h => (le_antisymm hp h.1).trans (le_antisymm hq h.2).symm⟩

/-- perf_drop_frac behind the gate -/
def shownDrop (b : GpuBaseline K) (probe : GpuProbeResult K) : Dbl K := (perfDrop (some b) (some probe)).getD .nan

theorem shownDrop_off {b : GpuBaseline K} {probe : GpuProbeResult K}
    (h : ¬ (Usable b ∧ probe.available ≠ 0 ∧ probe.stale = 0 ∧ .fin 0 < probe.perfWMean)) :
    shownDrop b probe = .nan := by
  unfold shownDrop perfDrop
  dsimp only
  rw [if_neg (fun hc => h ⟨⟨hc.1, hc.2.1, hc.2.2.1⟩, hc.2.2.2⟩)]; rfl

theorem shownDrop_on {b : GpuBaseline K} {probe : GpuProbeResult K} {x y : K} (hb : Usable b)
    (hx : b.perfWMean = .fin x) (hpos : 0 < x)
    (hp : probe.available ≠ 0 ∧ probe.stale = 0 ∧ .fin 0 < probe.perfWMean) (hy : probe.perfWMean = .fin y) :
    shownDrop b probe = .fin (dropFrac x y) := by
  unfold shownDrop perfDrop
  dsimp only
  rw [if_pos ⟨hb.1, hb.2.1, hb.2.2, hp⟩, hx, hy, Dbl.fin_sub, Dbl.fin_div _ hpos.ne', Option.getD_some, dropFrac]
  have hneg : (x - y) / x < 0 ↔ x < y := by rw [div_lt_iff₀ hpos, zero_mul, sub_neg]
  simp only [Dbl.fin_lt_fin, hneg]
  split_ifs with h
  · rw [min_eq_left h.le, sub_self, zero_div]
  · rw [min_eq_right (not_lt.1 h)]

/-- two unexpired results show the same drop exactly when their means do -/
theorem shownDrop_eq_iff {b : GpuBaseline K} {p q : GpuProbeResult K} (hb : Usable b) (hbm : b.perfWMean.NoInf)
    (hpm : p.perfWMean.NoInf) (hqm : q.perfWMean.NoInf) (hp : p.available ≠ 0 ∧ p.stale = 0)
    (hq : q.available ≠ 0 ∧ q.stale = 0) :
    shownDrop b p = shownDrop b q ↔ SameDrop b.perfWMean p.perfWMean q.perfWMean := by
  obtain ⟨x, hx, hxpos⟩ := hbm.fin_of_pos hb.2.2
  unfold SameDrop
  by_cases hp0 : .fin 0 < p.perfWMean <;> by_cases hq0 : .fin 0 < q.perfWMean
  · obtain ⟨y, hy, -⟩ := hpm.fin_of_pos hp0
    obtain ⟨z, hz, -⟩ := hqm.fin_of_pos hq0
    rw [shownDrop_on hb hx hxpos ⟨hp.1, hp.2, hp0⟩ hy, shownDrop_on hb hx hxpos ⟨hq.1, hq.2, hq0⟩ hz]
    rw [iff_true_intro hp0, iff_true_intro hq0, hx, hy, hz]
    simp only [true_and, forall_const, Dbl.fin.injEq, Dbl.fin_le_fin]
    exact dropFrac_eq_iff hxpos
  · obtain ⟨y, hy, -⟩ := hpm.fin_of_pos hp0
    rw [shownDrop_on hb hx hxpos ⟨hp.1, hp.2, hp0⟩ hy, shownDrop_off (fun h => hq0 h.2.2.2)]
    simp [hp0, hq0]
  · obtain ⟨z, hz, -⟩ := hqm.fin_of_pos hq0
    rw [shownDrop_on hb hx hxpos ⟨hq.1, hq.2, hq0⟩ hz, shownDrop_off (fun h => hp0 h.2.2.2)]
    simp [hp0, hq0]
  · rw [shownDrop_off (fun h => hp0 h.2.2.2), shownDrop_off (fun h => hq0 h.2.2.2)]
    simp [hp0, hq0]

theorem scoreGpu_perfDropFrac (malloc : P95Malloc) (ring : GpuRing K) (state : GpuState K) (b : GpuBaseline K)
    (probe : GpuProbeResult K) (cfg : GpuConfig (Dbl K)) :
    (scoreGpu malloc ring state (some b) (some probe) cfg).perfDropFrac =
      if completenessGate ring cfg = 0 then .nan else shownDrop b probe := by
  unfold scoreGpu
  split_ifs <;> rfl

theorem dropWith_eq (exp : Exporter K) (st : PollState K) (env : PollEnv) (probe : GpuProbeResult K) :
    dropWith exp st env probe =
      if completenessGate (ringPush st.ctx.ring (nvmlSample env.nvml env.sampleMs)) exp.cfg = 0 then .nan
      else shownDrop (baselineReload exp env st.ctx).baseline probe := by
  obtain ⟨hring, -, hbase, -⟩ := publishedCtx_frame exp st.ctx env
  simp only [dropWith, scoreGpu_perfDropFrac, hring, hbase]

/-! ## Two loads -/

theorem reading_none {file : Option CStr} (h : (reading file : Option (GpuProbeResult K)) = none) (ttl : ℤ)
    (now : UInt64) :
    (probeLoad file ttl now : GpuProbeResult K).available = 0 ∧ (probeLoad file ttl now : GpuProbeResult K).stale = 0 := by
  cases file with
  | none => exact ⟨rfl, rfl⟩
  | some f =>
    simp only [reading, Option.bind_some] at h
    split_ifs at h with hacc
    rw [probeLoad_eq, if_neg hacc]
    exact ⟨rfl, (probeScan_kept f).stale⟩

theorem reading_some {file : Option CStr} {p : GpuProbeResult K} (h : reading file = some p) (ttl : ℤ) (now : UInt64) :
    p.perfWMean.NoInf ∧ probeLoad file ttl now =
      { p with available := 1, stale := if probeExpired ttl now p.probeTimestampS then 1 else 0 } := by
  cases file with
  | none => exact absurd h (by simp [reading])
  | some f =>
    simp only [reading, Option.bind_some] at h
    split_ifs at h with hacc
    obtain rfl := Option.some.inj h
    exact ⟨(probeScan_kept f).mean, by rw [probeLoad_eq, if_pos hacc]⟩

/-- **Two loads show the same** exactly when their files read alike. -/
theorem loads_alike_iff (exp : Exporter K) (u : Startup) (st : PollState K) (i : ProbeEnv)
    (hb : (baselineReload exp i.toPollEnv st.ctx).baseline.perfWMean.NoInf) :
    ((probeLoad u.probeFile (exp.cfg.int .probeTtlS) u.nowS : GpuProbeResult K).available = (current exp i).available ∧
      (probeLoad u.probeFile (exp.cfg.int .probeTtlS) u.nowS : GpuProbeResult K).stale = (current exp i).stale ∧
      dropWith exp st i.toPollEnv (probeLoad u.probeFile (exp.cfg.int .probeTtlS) u.nowS) =
        dropWith exp st i.toPollEnv (current exp i)) ↔ ReadsAlike exp u st i := by
  unfold ReadsAlike current
  simp only [dropWith_eq]
  cases hp : (reading u.probeFile : Option (GpuProbeResult K)) with
  | none =>
    obtain ⟨hpa, hps⟩ := reading_none hp (exp.cfg.int .probeTtlS) u.nowS
    cases hq : (reading i.probeFile : Option (GpuProbeResult K)) with
    | none =>
      obtain ⟨hqa, hqs⟩ := reading_none hq (exp.cfg.int .probeTtlS) i.wallS
      rw [shownDrop_off (fun h => h.2.1 hpa), shownDrop_off (fun h => h.2.1 hqa)]
      simp [hpa, hps, hqa, hqs]
    | some q =>
      obtain ⟨-, hqload⟩ := reading_some hq (exp.cfg.int .probeTtlS) i.wallS
      simp [hpa, hqload]
  | some p =>
    obtain ⟨hpm, hpload⟩ := reading_some hp (exp.cfg.int .probeTtlS) u.nowS
    cases hq : (reading i.probeFile : Option (GpuProbeResult K)) with
    | none =>
      obtain ⟨hqa, -⟩ := reading_none hq (exp.cfg.int .probeTtlS) i.wallS
      simp [hpload, hqa]
    | some q =>
      obtain ⟨hqm, hqload⟩ := reading_some hq (exp.cfg.int .probeTtlS) i.wallS
      rw [hpload, hqload]
      dsimp only
      cases hpe : probeExpired (exp.cfg.int .probeTtlS) u.nowS p.probeTimestampS <;>
        cases hqe : probeExpired (exp.cfg.int .probeTtlS) i.wallS q.probeTimestampS
      · -- both current: the drops decide
        simp only [Bool.false_eq_true, if_false, true_and, forall_const, PerfPathOn]
        by_cases hg : completenessGate (ringPush st.ctx.ring (nvmlSample i.nvml i.sampleMs)) exp.cfg = 0
        · simp [hg]
        · by_cases hu : Usable (baselineReload exp i.toPollEnv st.ctx).baseline
          · simp only [hg, hu, if_false, not_false_eq_true, ne_eq, and_self, forall_const]
            exact shownDrop_eq_iff hu hb hpm hqm ⟨one_ne_zero, rfl⟩ ⟨one_ne_zero, rfl⟩
          · rw [shownDrop_off (fun h => hu h.1), shownDrop_off (fun h => hu h.1)]
            simp [hu]
      · simp
      · simp
      · rw [shownDrop_off (fun h => by simp at h), shownDrop_off (fun h => by simp at h)]
        simp

/-! ## The loop never loads the file again -/

theorem published_probe {exp : Exporter K} {st : PollState K} {env : PollEnv} {s : GpuSnapshot K}
    (h : published exp st env = some s) : s.probeAvailable = st.ctx.probe.available ∧
      s.probeStale = st.ctx.probe.stale ∧ s.perfDropFrac = dropWith exp st env st.ctx.probe := by
  obtain ⟨ctx, hentry, -, rfl⟩ := published_eq_some.1 h
  obtain ⟨-, -, t, rfl⟩ := pollEntry_some hentry
  have hprobe := (publishedCtx_frame exp { st.ctx with lastRetryMs := t } env).2.1
  have hsnap : (publishedCtx exp { st.ctx with lastRetryMs := t } env).snapshot.perfDropFrac =
      dropWith exp { st with ctx := { st.ctx with lastRetryMs := t } } env
        (publishedCtx exp { st.ctx with lastRetryMs := t } env).probe := rfl
  refine ⟨congrArg GpuProbeResult.available hprobe, congrArg GpuProbeResult.stale hprobe, ?_⟩
  have hbase : (baselineReload exp env { st.ctx with lastRetryMs := t }).baseline =
      (baselineReload exp env st.ctx).baseline := by
    unfold baselineReload
    split_ifs <;> rfl
  calc (publishedCtx exp { st.ctx with lastRetryMs := t } env).snapshot.perfDropFrac
      = dropWith exp { st with ctx := { st.ctx with lastRetryMs := t } } env st.ctx.probe := by rw [hsnap, hprobe]
    _ = dropWith exp st env st.ctx.probe := by rw [dropWith_eq, dropWith_eq, hbase]

/-- the probe result of the startup, and a baseline as `baseline_load` can return it -/
structure Inv (exp : Exporter K) (u : Startup) (st : PollState K) : Prop where
  probe : st.ctx.probe = probeLoad u.probeFile (exp.cfg.int .probeTtlS) u.nowS
  mean : st.ctx.baseline.perfWMean.NoInf

theorem reload_noInf (exp : Exporter K) (env : PollEnv) {ctx : GpuCtx K} (h : ctx.baseline.perfWMean.NoInf) :
    (baselineReload exp env ctx).baseline.perfWMean.NoInf := by
  unfold baselineReload
  split_ifs
  · exact baselineLoad_noInf env.baselineFile ctx.serial
  · exact h

theorem step_inv (exp : Exporter K) (u : Startup) (st : PollState K) (env : PollEnv) (h : Inv exp u st) :
    Inv exp u (step exp st env) := by
  rcases pollIteration_cases exp st env with ⟨-, hit⟩ | ⟨ctx, hentry, -, hit⟩ | ⟨ctx, ret, hentry, -, hit⟩
  · rw [step, hit]
    exact h
  · obtain ⟨-, -, t, rfl⟩ := pollEntry_some hentry
    obtain ⟨-, hprobe, hbase, -⟩ := publishedCtx_frame exp { st.ctx with lastRetryMs := t } env
    rw [step, hit]
    refine ⟨hprobe.trans h.probe, ?_⟩
    show (publishedCtx exp { st.ctx with lastRetryMs := t } env).baseline.perfWMean.NoInf
    rw [hbase]
    exact reload_noInf exp env h.mean
  · obtain ⟨-, -, t, rfl⟩ := pollEntry_some hentry
    obtain ⟨-, hprobe, hbase, -⟩ := pollError_frame exp { st.ctx with lastRetryMs := t } ret
    rw [step, hit]
    exact ⟨hprobe.trans h.probe, by rw [hbase]; exact h.mean⟩

theorem start_inv (exp : Exporter K) (ctx : GpuCtx K) (u : Startup) : Inv exp u (start exp ctx u) := by
  refine ⟨rfl, ?_⟩
  show (mainLoadFiles exp ctx u.baselineFile u.probeFile u.nowS).baseline.perfWMean.NoInf
  unfold mainLoadFiles
  dsimp only
  split_ifs <;> exact baselineLoad_noInf u.baselineFile ctx.serial

theorem after_inv (exp : Exporter K) (ctx : GpuCtx K) (u : Startup) (pre : List ProbeEnv) :
    Inv exp u (after exp ctx u pre) :=
  run_inv (step_inv exp u) _ (start_inv exp ctx u)

/-- one iteration -/
theorem probeFresh_step {exp : Exporter K} {u : Startup} {st : PollState K} (h : Inv exp u st) (i : ProbeEnv) :
    ProbeFresh exp st i ↔ (Publishes exp st i.toPollEnv → ReadsAlike exp u st i) := by
  rw [← published_isSome, ← loads_alike_iff exp u st i (reload_noInf exp i.toPollEnv h.mean), ← h.probe]
  constructor
  · intro hfresh hpublishes
    obtain ⟨s, hs⟩ := hpublishes
    obtain ⟨hav, hst, hdrop⟩ := published_probe hs
    rw [← hav, ← hst, ← hdrop]
    exact hfresh s hs
  · intro halike s hs
    obtain ⟨hav, hst, hdrop⟩ := published_probe hs
    rw [hav, hst, hdrop]
    exact halike ⟨s, hs⟩

/-- **Every snapshot of a run shows the current probe result exactly when the current file always reads like the
startup's.** -/
theorem probeFresh_iff (exp : Exporter K) (ctx : GpuCtx K) (u : Startup) (l : List ProbeEnv) :
    AtEveryStep (fun pre i => ProbeFresh exp (after exp ctx u pre) i) l ↔
      AtEveryStep (fun pre i => Publishes exp (after exp ctx u pre) i.toPollEnv →
        ReadsAlike exp u (after exp ctx u pre) i) l := by
  constructor
  · intro h
    exact h.imp fun pre i hi => (probeFresh_step (after_inv exp ctx u pre) i).1 hi
  · intro h
    exact h.imp fun pre i hi => (probeFresh_step (after_inv exp ctx u pre) i).2 hi

/-! ## A result that expires -/

/-- a probe result of 2026-03-15 -/
def probeFile : CStr :=
  "serial=S\nperf_w_mean=10\nprobe_timestamp=2026-03-15T14:22:00Z\nprobe_exit_code=0\n".toList

/-- the exporter starts when the probe has just run -/
def startup : Startup := ⟨none, some probeFile, 1773584520⟩

/-- the first poll, a second after the result has expired -/
def expiredEnv : ProbeEnv :=
  { quietEnv 0 with
    wallS := 1773584520 + 129601
    probeFile := some probeFile }

/-- the expired result is shown as current -/
theorem expired_shown_current :
    (∃ s, published smallExporter (after smallExporter .zeroed startup []) expiredEnv.toPollEnv = some s ∧
      s.probeAvailable = 1 ∧ s.probeStale = 0) ∧ (current smallExporter expiredEnv).stale = 1 ∧
    ¬ AtEveryStep (fun pre i => ProbeFresh smallExporter (after smallExporter .zeroed startup pre) i) [expiredEnv] := by
  have hpub : (published smallExporter (after smallExporter .zeroed startup []) expiredEnv.toPollEnv).map
      (fun s => (s.probeAvailable, s.probeStale)) = some (1, 0) := by decide +kernel
  obtain ⟨s, hs, hfields⟩ := Option.map_eq_some_iff.1 hpub
  obtain ⟨hav, hst⟩ := Prod.mk.inj hfields
  have hcur : (current smallExporter expiredEnv).stale = 1 := by decide +kernel
  refine ⟨⟨s, hs, hav, hst⟩, hcur, ?_⟩
  intro h
  have hstale := (h [] expiredEnv [] rfl s hs).2.1
  rw [hst, hcur] at hstale
  exact absurd hstale (by decide)

end GpuHealth.ProbeFreshness
