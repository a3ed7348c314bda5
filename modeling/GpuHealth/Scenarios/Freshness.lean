/-
Freshness of the scored window over whole runs of the poll loop.

The property: whenever `score_gpu` reports telemetry_ok = 1, at least min_sample_ratio * (window_s /
poll_interval_s) samples of the ring lie within window_s seconds of the newest one (`WindowFresh`). The ring evicts by
count and the gate looks at the number of samples and at the median gap only, so the code does not keep it.

- `outage_scored`: three polls 15 s apart, an outage of an hour, one more poll. The median gap is still 15 s, the ring
  is full, and the score is reported with one fresh sample where 3.2 are due.
- `fresh_of_spaced`: in every run in which any ⌈min_sample_ratio * expected⌉ successive successful polls lie within
  window_s seconds of each other, every reported score has a fresh window; and in any run, a reported score has a fresh
  window exactly when the polls up to it meet this at its own sample.
Witness `fresh_of_spaced_steady`: four polls 15 s apart.

Premises: the config is accepted by `config_load` and `config_validate` and its doubles are finite; the timestamps of
the successful polls never decrease (`time_now_ms` is the monotonic clock). Ratios and their products are exact numbers,
in the property as in the gate, without the rounding of doubles.
-/
import GpuHealth.Collector
import GpuHealth.WindowScore

namespace GpuHealth.Freshness

open GpuHealth.Ring GpuHealth.Scorer GpuHealth.WindowScore GpuHealth.Collector GpuHealth.Config GpuHealth.Runs

variable {K : Type} [Arith K]

/-! ## The property -/

/-- min_sample_ratio times the samples a window should hold -/
def due (cfg : GpuConfig (Dbl K)) : K :=
  (cfg.dbl .minSampleRatio).toK * (((cfg.int .windowS).tdiv (cfg.int .pollIntervalS) : ℤ) : K)

/-- window_s in milliseconds -/
def windowMs (cfg : GpuConfig (Dbl K)) : ℤ := cfg.int .windowS * 1000

/-- taken at most window_s seconds before `newest` -/
def isFresh (cfg : GpuConfig (Dbl K)) (newest s : GpuSample K) : Bool :=
  (newest.timestampMs.toNat : ℤ) ≤ s.timestampMs.toNat + windowMs cfg

def WindowFresh (cfg : GpuConfig (Dbl K)) (w : List (GpuSample K)) : Prop :=
  due cfg ≤ (w.countP (isFresh cfg (lastSample w)) : K)

/-! ## The condition -/

/-- fewer than `due` polls before poll `j`, the last of them at most window_s seconds earlier -/
def SpansWindow (cfg : GpuConfig (Dbl K)) (ts : List ℕ) (j : ℕ) : Prop :=
  ∀ i ≤ j, ((j - i : ℕ) : K) < due cfg → (ts.getD j 0 : ℤ) ≤ ts.getD i 0 + windowMs cfg

/-- any ⌈due⌉ successive polls lie within window_s seconds of each other -/
def Spaced (cfg : GpuConfig (Dbl K)) (ts : List ℕ) : Prop := ∀ j < ts.length, SpansWindow cfg ts j

/-- the timestamps of the successful polls of a run -/
def timestamps (exp : Exporter K) (st : PollState K) (envs : List PollEnv) : List ℕ :=
  outputs (step exp) (fun st env => if Publishes exp st env then some env.sampleMs.toNat else none) st envs

/-! ## The last `cap` samples of a run -/

/-- the timestamp of a sample -/
def stamp (s : GpuSample K) : ℕ := s.timestampMs.toNat

omit [Arith K] in
theorem reverse_rtake (xs : List (GpuSample K)) (cap : ℕ) : (xs.rtake cap).reverse = xs.reverse.take cap := by
  rw [List.rtake_eq_reverse_take_reverse, List.reverse_reverse]

omit [Arith K] in
/-- counted from the newest, the window is the run -/
theorem stamp_reverse (xs : List (GpuSample K)) (cap d : ℕ) (hd : d < (xs.rtake cap).reverse.length) :
    stamp (xs.rtake cap).reverse[d] = (xs.map stamp).getD (xs.length - 1 - d) 0 := by
  have hlen : d < xs.length := by
    rw [reverse_rtake, List.length_take, List.length_reverse] at hd; omega
  have hi : xs.length - 1 - d < (xs.map stamp).length := by rw [List.length_map]; omega
  simp only [reverse_rtake, List.getElem_take, List.getElem_reverse]
  rw [List.getD_eq_getElem?_getD, List.getElem?_eq_getElem hi, List.getElem_map]; rfl

theorem stamp_last (xs : List (GpuSample K)) {cap : ℕ} (hne : xs.rtake cap ≠ []) :
    stamp (lastSample (xs.rtake cap)) = (xs.map stamp).getD (xs.length - 1) 0 := by
  have h0 : 0 < (xs.rtake cap).reverse.length := by
    rw [List.length_reverse]; exact List.length_pos_iff.2 hne
  have hlast : lastSample (xs.rtake cap) = (xs.rtake cap).reverse[0] := by
    rw [lastSample, List.getLastD_eq_getLast?, List.getLast?_eq_some_getLast hne, List.getElem_reverse,
      List.getLast_eq_getElem]; rfl
  rw [hlast]
  exact stamp_reverse xs cap 0 h0

/-- **A full enough window is fresh exactly when the polls up to its newest sample span it.** -/
theorem windowFresh_iff {cfg : GpuConfig (Dbl K)} {xs : List (GpuSample K)} {cap : ℕ}
    (hts : (xs.map stamp).Pairwise (· ≤ ·)) (hne : xs.rtake cap ≠ []) (hdue : due cfg ≤ ((xs.rtake cap).length : K)) :
    WindowFresh cfg (xs.rtake cap) ↔ SpansWindow cfg (xs.map stamp) (xs.length - 1) := by
  set w := xs.rtake cap with hw
  have hlast := stamp_last xs hne
  have hwts : w.Pairwise fun a b => stamp a ≤ stamp b :=
    (List.pairwise_map.1 hts).sublist (List.drop_sublist _ _)
  have hmono : w.reverse.Pairwise fun a b =>
      isFresh cfg (lastSample w) b = true → isFresh cfg (lastSample w) a = true := by
    rw [List.pairwise_reverse]
    apply hwts.imp
    intro b a hab hb
    simp only [isFresh, decide_eq_true_eq, stamp] at hab hb ⊢
    omega
  have hcount := ListStats.le_countP_iff (isFresh cfg (lastSample w)) hmono (r := due cfg)
    (by rwa [List.length_reverse])
  rw [List.countP_reverse] at hcount
  rw [WindowFresh, hcount]
  constructor
  · intro h i hij hdiff
    have hd : xs.length - 1 - i < w.reverse.length := by
      rw [List.length_reverse]; exact_mod_cast hdiff.trans_le hdue
    have hfresh := h _ hd hdiff
    have hstamp := stamp_reverse xs cap _ hd
    rw [show xs.length - 1 - (xs.length - 1 - i) = i by omega] at hstamp
    simp only [isFresh, decide_eq_true_eq] at hfresh
    simp only [stamp] at hstamp hlast
    rw [← hlast, ← hstamp]
    exact hfresh
  · intro h d hd hdr
    have hdlen : d ≤ xs.length - 1 := by
      have := hd
      rw [hw, reverse_rtake, List.length_take, List.length_reverse] at this; omega
    have hspan := h (xs.length - 1 - d) (by omega)
      (by rwa [show xs.length - 1 - (xs.length - 1 - d) = d by omega])
    have hstamp := stamp_reverse xs cap _ hd
    simp only [stamp] at hstamp hlast
    simp only [isFresh, decide_eq_true_eq]
    rw [← hlast, ← hstamp] at hspan
    exact hspan

/-! ## Runs -/

theorem timestamps_eq (exp : Exporter K) (st : PollState K) (envs : List PollEnv) :
    timestamps exp st envs = (outputs (step exp) (pushed exp) st envs).map stamp := by
  simp only [timestamps, outputs, List.map_filterMap]
  congr 1
  funext v
  simp only [pushed]
  split_ifs <;> rfl

/-- a reported score passed the gate on a window with `due` samples -/
theorem due_le_of_reported {exp : Exporter K} (hfin : Finite exp.cfg) {st : PollState K} {env : PollEnv}
    {s : GpuSnapshot K} (hwf : RingWf (step exp st env).ctx.ring) (hpub : published exp st env = some s)
    (hok : s.telemetryOk = 1) :
    due exp.cfg ≤ ((window (step exp st env).ctx.ring).length : K) ∧ window (step exp st env).ctx.ring ≠ [] := by
  have hgate : completenessGate (step exp st env).ctx.ring exp.cfg = 1 := (step_published hpub).2.symm.trans hok
  rw [completenessGate_eq hwf] at hgate
  have hpass : windowGate (window (step exp st env).ctx.ring) exp.cfg ≠ 0 := by rw [hgate]; exact one_ne_zero
  have htwo := two_le_of_gate hpass
  have hratio := ratio_le_of_gate hpass
  rw [(hfin .minSampleRatio).eq, Dbl.fin_mul, Dbl.fin_lt_fin, not_lt] at hratio
  refine ⟨hratio, ?_⟩
  intro hnil
  simp [hnil] at htwo

/-- a publishing iteration adds its timestamp -/
theorem timestamps_published {exp : Exporter K} {st : PollState K} {pre : List PollEnv} {env : PollEnv}
    {s : GpuSnapshot K} (hpub : published exp (run (step exp) st pre) env = some s) :
    timestamps exp st (pre ++ [env]) = timestamps exp st pre ++ [env.sampleMs.toNat] := by
  obtain ⟨ctx, hentry, hresp, -⟩ := published_eq_some.1 hpub
  have hpublishes : Publishes exp (run (step exp) st pre) env := ⟨by simp [hentry], hresp⟩
  simp [timestamps, outputs_snoc, hpublishes]

/-- the polls before `j` are the same in a prefix that reaches it -/
theorem spansWindow_prefix {cfg : GpuConfig (Dbl K)} {ts ts' : List ℕ} (h : ts' <+: ts) {j : ℕ} (hj : j < ts'.length)
    (hspan : SpansWindow cfg ts j) : SpansWindow cfg ts' j := by
  obtain ⟨rest, rfl⟩ := h
  intro i hij hdiff
  have hle := hspan i hij hdiff
  simp only [List.getD_eq_getElem?_getD] at hle ⊢
  rwa [List.getElem?_append_left hj, List.getElem?_append_left (by omega)] at hle

/-- one publishing iteration of a run, against the polls up to it -/
theorem reported_fresh_iff {exp : Exporter K} (hfin : Finite exp.cfg) (ctx : GpuCtx K) {pre : List PollEnv}
    {env : PollEnv} {s : GpuSnapshot K}
    (hts : (timestamps exp (collectorStart ctx exp) (pre ++ [env])).Pairwise (· ≤ ·))
    (hpub : published exp (run (step exp) (collectorStart ctx exp) pre) env = some s) (hok : s.telemetryOk = 1) :
    WindowFresh exp.cfg (window (run (step exp) (collectorStart ctx exp) (pre ++ [env])).ctx.ring) ↔
      SpansWindow exp.cfg (timestamps exp (collectorStart ctx exp) (pre ++ [env]))
        ((timestamps exp (collectorStart ctx exp) (pre ++ [env])).length - 1) := by
  have hwf := run_ring_wf exp ctx (pre ++ [env])
  rw [run_snoc] at hwf
  obtain ⟨hdue, hne⟩ := due_le_of_reported hfin hwf hpub hok
  rw [← run_snoc (step exp), run_window] at hdue hne
  rw [timestamps_eq] at hts ⊢
  rw [run_window, List.length_map]
  exact windowFresh_iff hts hne hdue

/-- **Freshness.** With spaced polls every reported score has a fresh window; in any run a reported score has a fresh
window exactly when the polls up to it span it. -/
theorem fresh_of_spaced (fopen getenv : CStr → Option CStr) (path : Option CStr) (exp : Exporter K)
    (hcfg : Accepted fopen getenv path exp.cfg) (ctx : GpuCtx K) (envs : List PollEnv)
    (hts : (timestamps exp (collectorStart ctx exp) envs).Pairwise (· ≤ ·)) :
    let start := collectorStart ctx exp
    (Spaced exp.cfg (timestamps exp start envs) → ∀ pre env post s, envs = pre ++ env :: post →
      published exp (run (step exp) start pre) env = some s → s.telemetryOk = 1 →
      WindowFresh exp.cfg (window (run (step exp) start (pre ++ [env])).ctx.ring)) ∧
    ∀ pre env post s, envs = pre ++ env :: post →
      published exp (run (step exp) start pre) env = some s → s.telemetryOk = 1 →
      (WindowFresh exp.cfg (window (run (step exp) start (pre ++ [env])).ctx.ring) ↔
        SpansWindow exp.cfg (timestamps exp start (pre ++ [env])) ((timestamps exp start (pre ++ [env])).length - 1)) := by
  intro start
  -- the timestamps of a prefix of the run are a prefix of its timestamps
  have hpre : ∀ pre env post, envs = pre ++ env :: post →
      timestamps exp start (pre ++ [env]) <+: timestamps exp start envs := by
    rintro pre env post rfl
    rw [show pre ++ env :: post = (pre ++ [env]) ++ post by simp, timestamps, timestamps, outputs_append _ _ _ _ post]
    exact List.prefix_append _ _
  have hiff : ∀ pre env post s, envs = pre ++ env :: post →
      published exp (run (step exp) start pre) env = some s → s.telemetryOk = 1 →
      (WindowFresh exp.cfg (window (run (step exp) start (pre ++ [env])).ctx.ring) ↔
        SpansWindow exp.cfg (timestamps exp start (pre ++ [env])) ((timestamps exp start (pre ++ [env])).length - 1)) := by
    intro pre env post s henvs hpub hok
    exact reported_fresh_iff hcfg.finite ctx (hts.sublist (hpre pre env post henvs).sublist) hpub hok
  refine ⟨?_, hiff⟩
  intro hspaced pre env post s henvs hpub hok
  have hpre' := hpre pre env post henvs
  have hlast : (timestamps exp start (pre ++ [env])).length - 1 < (timestamps exp start (pre ++ [env])).length := by
    rw [timestamps_published hpub, List.length_append, List.length_singleton]; omega
  rw [hiff pre env post s henvs hpub hok]
  exact spansWindow_prefix hpre' hlast (hspaced _ (hlast.trans_le hpre'.length_le))

instance (cfg : GpuConfig (Dbl K)) (ts : List ℕ) (j : ℕ) : Decidable (SpansWindow cfg ts j) :=
  inferInstanceAs (Decidable (∀ i ≤ j, ((j - i : ℕ) : K) < due cfg → (ts.getD j 0 : ℤ) ≤ ts.getD i 0 + windowMs cfg))

instance (cfg : GpuConfig (Dbl K)) (ts : List ℕ) : Decidable (Spaced cfg ts) :=
  inferInstanceAs (Decidable (∀ j < ts.length, SpansWindow cfg ts j))

instance (cfg : GpuConfig (Dbl K)) (w : List (GpuSample K)) : Decidable (WindowFresh cfg w) :=
  inferInstanceAs (Decidable (_ ≤ _))

/-- four polls 15 s apart fill the window -/
theorem fresh_of_spaced_steady :
    WindowFresh smallExporter.cfg (window (run (step smallExporter) (collectorStart .zeroed smallExporter)
      ([quietEnv 0, quietEnv 15000, quietEnv 30000] ++ [quietEnv 45000])).ctx.ring) := by
  have hok : (published smallExporter (run (step smallExporter) (collectorStart .zeroed smallExporter)
      [quietEnv 0, quietEnv 15000, quietEnv 30000]) (quietEnv 45000)).map GpuSnapshot.telemetryOk = some 1 := by
    decide +kernel
  obtain ⟨s, hs, hs1⟩ := Option.map_eq_some_iff.1 hok
  exact (fresh_of_spaced _ _ _ smallExporter smallConfig_accepted .zeroed
    [quietEnv 0, quietEnv 15000, quietEnv 30000, quietEnv 45000] (by decide +kernel)).1 (by decide +kernel)
    _ _ [] s rfl hs hs1

/-! ## An outage -/

/-- three polls 15 s apart, then one after an hour without polls -/
def outage : List PollEnv := [quietEnv 0, quietEnv 15000, quietEnv 30000]

/-- the score after the outage is reported, on one fresh sample of the 3.2 due -/
theorem outage_scored :
    Accepted (fun _ => some smallFile) (fun _ => none) (some []) smallExporter.cfg ∧
    (timestamps smallExporter (collectorStart .zeroed smallExporter) (outage ++ [quietEnv 3630000])).Pairwise (· ≤ ·) ∧
    (published smallExporter (run (step smallExporter) (collectorStart .zeroed smallExporter) outage)
      (quietEnv 3630000)).map GpuSnapshot.telemetryOk = some 1 ∧
    ¬ WindowFresh smallExporter.cfg
      (window (run (step smallExporter) (collectorStart .zeroed smallExporter) (outage ++ [quietEnv 3630000])).ctx.ring) :=
  ⟨smallConfig_accepted, by decide +kernel, by decide +kernel, by decide +kernel⟩

end GpuHealth.Freshness
