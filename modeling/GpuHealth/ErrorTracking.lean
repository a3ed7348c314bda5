/-
The error tracking of the poll loop as a machine of its own.

Abstractly a GPU is a `Tracking` (two flags, two streak counters and a total) that steps on the outcome of every poll
attempt: success, a soft error, or a hard one (`NVML_IS_HARD_ERROR`). `run_tracking` is the refinement: the fields of
the context after any run of the poll loop are the tracking after the outcomes of the run's attempts, and an iteration
that makes no attempt changes none of them.

`sinceSuccess` and `hardStreak` read the same history backwards: the attempts since the last success, and the hard
errors at its end. `Accounted` says what the counters of a GPU that is not lost count, and `run_accounted`
that they do, after any run.
-/
import Mathlib.Data.List.DropRight
import GpuHealth.Collector

namespace GpuHealth.ErrorTracking

open GpuHealth.Collector GpuHealth.Nvml GpuHealth.Runs

/-- what a poll attempt comes to -/
inductive Outcome where
  | success
  | soft
  | hard
deriving DecidableEq, Repr

def Outcome.failed (o : Outcome) : Bool := o ≠ .success

def Outcome.isHard (o : Outcome) : Bool := o = .hard

/-- the fields of the context that track errors -/
structure Tracking where
  present : ℤ
  available : ℤ
  errors : ℤ
  hardErrors : ℤ
  total : UInt64
deriving DecidableEq, Repr

def Tracking.start : Tracking := ⟨1, 1, 0, 0, 0⟩

/-- the two thresholds of the config -/
structure Thresholds where
  soft : ℤ
  hard : ℤ

/-- one more error, short of the loss of the GPU -/
def Tracking.countError (th : Thresholds) (t : Tracking) : Tracking :=
  { t with
    errors := t.errors + 1
    total := t.total + 1
    available := if t.errors + 1 ≥ th.soft then 0 else t.available }

def Tracking.after (th : Thresholds) (t : Tracking) : Outcome → Tracking
  | .success => { t with errors := 0, hardErrors := 0, available := 1 }
  | .soft => t.countError th
  | .hard =>
    if t.hardErrors + 1 ≥ th.hard then
      { t with errors := t.errors + 1, total := t.total + 1, hardErrors := t.hardErrors + 1, present := 0 }
    else { t.countError th with hardErrors := t.hardErrors + 1 }

/-! ## The history read backwards -/

/-- the attempts since the last success -/
def sinceSuccess (l : List Outcome) : List Outcome := l.rtakeWhile Outcome.failed

/-- the hard errors since the last success -/
def hardSinceSuccess (l : List Outcome) : ℕ := (sinceSuccess l).countP Outcome.isHard

/-- the hard errors in a row at the end -/
def hardStreak (l : List Outcome) : ℕ := (l.rtakeWhile Outcome.isHard).length

@[simp] theorem sinceSuccess_success (l : List Outcome) : sinceSuccess (l ++ [.success]) = [] :=
  List.rtakeWhile_concat_neg _ _ _ (by decide)

theorem sinceSuccess_failed {l : List Outcome} {o : Outcome} (h : o.failed = true) :
    sinceSuccess (l ++ [o]) = sinceSuccess l ++ [o] := List.rtakeWhile_concat_pos _ _ _ h

@[simp] theorem hardSinceSuccess_success (l : List Outcome) : hardSinceSuccess (l ++ [.success]) = 0 := by
  rw [hardSinceSuccess, sinceSuccess_success, List.countP_nil]

@[simp] theorem hardSinceSuccess_soft (l : List Outcome) : hardSinceSuccess (l ++ [.soft]) = hardSinceSuccess l := by
  rw [hardSinceSuccess, sinceSuccess_failed (by decide), List.countP_append]
  rfl

@[simp] theorem hardSinceSuccess_hard (l : List Outcome) : hardSinceSuccess (l ++ [.hard]) = hardSinceSuccess l + 1 := by
  rw [hardSinceSuccess, sinceSuccess_failed (by decide), List.countP_append]
  rfl

/-- a streak of hard errors reaches back to the last success at most -/
theorem hardStreak_le (l : List Outcome) : hardStreak l ≤ hardSinceSuccess l := by
  induction l using List.reverseRecOn with
  | nil => exact le_rfl
  | append_singleton l o ih =>
    unfold hardStreak at ih ⊢
    cases o with
    | success => rw [List.rtakeWhile_concat_neg _ _ _ (by decide)]; exact Nat.zero_le _
    | soft => rw [List.rtakeWhile_concat_neg _ _ _ (by decide)]; exact Nat.zero_le _
    | hard =>
      rw [List.rtakeWhile_concat_pos _ _ _ (by decide), hardSinceSuccess_hard, List.length_append]
      exact Nat.succ_le_succ ih

/-! ## The counters count -/

/-- what the tracking of a GPU that is not lost says about the outcomes so far -/
structure Accounted (th : Thresholds) (l : List Outcome) (t : Tracking) : Prop where
  errors : t.errors = (sinceSuccess l).length
  hardErrors : t.hardErrors = hardSinceSuccess l
  total : t.total = UInt64.ofNat (l.countP Outcome.failed)
  below : t.hardErrors < th.hard
  flag : 1 ≤ th.soft → t.available = if t.errors ≥ th.soft then 0 else 1
  present : t.present = 1

theorem accounted_start {th : Thresholds} (hhard : 1 ≤ th.hard) : Accounted th [] .start where
  errors := rfl
  hardErrors := rfl
  total := rfl
  below := hhard
  flag := fun hsoft => (if_neg (by simp only [Tracking.start]; omega)).symm
  present := rfl

/-- one more outcome: the counters count it, or the GPU is lost -/
theorem Accounted.after {th : Thresholds} {l : List Outcome} {t : Tracking} (h : Accounted th l t) (o : Outcome) :
    Accounted th (l ++ [o]) (t.after th o) ∨
      o = .hard ∧ th.hard ≤ hardSinceSuccess (l ++ [o]) ∧ (t.after th o).present = 0 := by
  have htotal : ∀ o : Outcome, o.failed = true →
      t.total + 1 = UInt64.ofNat ((l ++ [o]).countP Outcome.failed) := by
    intro o ho
    rw [h.total, List.countP_append, List.countP_singleton, if_pos ho, UInt64.ofNat_add]
    rfl
  have herrors : ∀ o : Outcome, o.failed = true → t.errors + 1 = (sinceSuccess (l ++ [o])).length := by
    intro o ho
    rw [sinceSuccess_failed ho, List.length_append, h.errors]
    rfl
  have hflag : 1 ≤ th.soft →
      (if t.errors + 1 ≥ th.soft then 0 else t.available) = if t.errors + 1 ≥ th.soft then 0 else 1 := by
    intro hsoft
    rw [h.flag hsoft]
    split_ifs <;> first | rfl | omega
  have hhard : t.hardErrors + 1 = hardSinceSuccess (l ++ [.hard]) := by
    rw [hardSinceSuccess_hard, h.hardErrors]
    rfl
  cases o with
  | success =>
    refine Or.inl ⟨?_, ?_, ?_, ?_, ?_, h.present⟩
    · rw [sinceSuccess_success]; rfl
    · rw [hardSinceSuccess_success]; rfl
    · rw [List.countP_append]; exact h.total
    · calc (0 : ℤ) ≤ t.hardErrors := by rw [h.hardErrors]; positivity
        _ < th.hard := h.below
    · intro hsoft
      exact (if_neg (by simp only [Tracking.after]; omega)).symm
  | soft =>
    refine Or.inl ⟨herrors .soft (by decide), ?_, htotal .soft (by decide), h.below, hflag, h.present⟩
    rw [hardSinceSuccess_soft]
    exact h.hardErrors
  | hard =>
    by_cases hlost : t.hardErrors + 1 ≥ th.hard
    · refine Or.inr ⟨rfl, hhard ▸ hlost, ?_⟩
      rw [Tracking.after, if_pos hlost]
    · left
      rw [Tracking.after, if_neg hlost]
      exact ⟨herrors .hard (by decide), hhard, htotal .hard (by decide), not_le.1 hlost, hflag, h.present⟩

/-! ## The poll loop refines the tracking -/

variable {K : Type} [Arith K]

def tracking (ctx : GpuCtx K) : Tracking :=
  ⟨ctx.gpuPresent, ctx.gpuAvailable, ctx.consecutiveErrors, ctx.consecutiveHardErrors, ctx.collectorErrorsTotal⟩

def thresholds (cfg : GpuConfig (Dbl K)) : Thresholds :=
  ⟨cfg.int .nvmlErrorThreshold, cfg.int .nvmlHardErrorThreshold⟩

/-- what `do_nvml_poll` returns to an attempt that starts from `ctx` -/
def outcome (ctx : GpuCtx K) (env : PollEnv) : Outcome :=
  match doNvmlPoll env.nvml env.sampleMs GpuSample.zeroed (freshState ctx) with
  | .error (ret, _) => if isHardError ret then .hard else .soft
  | .ok _ => .success

/-- the outcome of the iteration's attempt; none when it makes none -/
def polled (exp : Exporter K) (st : PollState K) (env : PollEnv) : Option Outcome :=
  (pollEntry exp st env).map fun ctx => outcome ctx env

/-- the outcomes of a run's attempts, in order -/
def polls (exp : Exporter K) (st : PollState K) (envs : List PollEnv) : List Outcome :=
  outputs (step exp) (polled exp) st envs

theorem polls_snoc (exp : Exporter K) (st : PollState K) (envs : List PollEnv) (env : PollEnv) :
    polls exp st (envs ++ [env]) = polls exp st envs ++ (polled exp (run (step exp) st envs) env).toList :=
  outputs_snoc _ _ _ _ _

omit [Arith K] in
theorem pollError_tracking (exp : Exporter K) (ctx : GpuCtx K) (ret : ℤ) :
    tracking (pollError exp ctx ret).ctx =
      (tracking ctx).after (thresholds exp.cfg) (if isHardError ret then .hard else .soft) := by
  by_cases hhard : isHardError ret = true
  · by_cases hlost : ctx.consecutiveHardErrors + 1 ≥ exp.cfg.int .nvmlHardErrorThreshold
    · simp [pollError, tracking, thresholds, Tracking.after, hhard, hlost]
    · by_cases hdown : ctx.consecutiveErrors + 1 ≥ exp.cfg.int .nvmlErrorThreshold <;>
        simp [pollError, tracking, thresholds, Tracking.after, Tracking.countError, hhard, hlost, hdown]
  · by_cases hdown : ctx.consecutiveErrors + 1 ≥ exp.cfg.int .nvmlErrorThreshold <;>
      simp [pollError, tracking, thresholds, Tracking.after, Tracking.countError, hhard, hdown]

theorem pollSuccess_tracking (exp : Exporter K) (env : PollEnv) (ctx : GpuCtx K) (sample : GpuSample K)
    (state : GpuState K) :
    tracking (pollSuccess exp env ctx sample state).1.ctx =
      (tracking ctx).after (thresholds exp.cfg) .success := by
  simp only [pollSuccess, pollPublish, Snapshot.snapshotUpdate, baselineReload, tracking, Tracking.after]
  split_ifs <;> rfl

theorem pollAttempt_tracking (exp : Exporter K) (ctx : GpuCtx K) (env : PollEnv) :
    tracking (pollAttempt exp ctx env).1.ctx = (tracking ctx).after (thresholds exp.cfg) (outcome ctx env) := by
  unfold pollAttempt outcome
  cases doNvmlPoll env.nvml env.sampleMs GpuSample.zeroed (freshState ctx) with
  | error e => exact pollError_tracking exp ctx e.1
  | ok r => exact pollSuccess_tracking exp env ctx r.1 r.2

/-- **One iteration is one step of the tracking**, on the outcome of its attempt; without an attempt it is none. -/
theorem step_tracking (exp : Exporter K) (st : PollState K) (env : PollEnv) :
    tracking (step exp st env).ctx =
      (polled exp st env).toList.foldl (Tracking.after (thresholds exp.cfg)) (tracking st.ctx) := by
  unfold step pollIteration polled
  cases hentry : pollEntry exp st env with
  | none => rfl
  | some ctx =>
    obtain ⟨-, -, t, rfl⟩ := pollEntry_some hentry
    exact pollAttempt_tracking exp _ env

/-- **The tracking refines**: after a run it has stepped on the outcomes of the run's attempts. -/
theorem run_tracking (exp : Exporter K) (st : PollState K) (envs : List PollEnv) :
    tracking (run (step exp) st envs).ctx =
      (polls exp st envs).foldl (Tracking.after (thresholds exp.cfg)) (tracking st.ctx) := by
  induction envs using List.reverseRecOn with
  | nil => rfl
  | append_singleton envs env ih => rw [run_snoc, polls_snoc, List.foldl_append, ← ih, step_tracking]

/-- a GPU that is lost is not polled -/
theorem polled_none {exp : Exporter K} {st : PollState K} (env : PollEnv) (h : st.ctx.gpuPresent = 0) :
    polled exp st env = none := by
  rw [polled, Option.map_eq_none_iff]
  cases hentry : pollEntry exp st env with
  | none => rfl
  | some ctx => exact absurd h (pollEntry_some hentry).2.1

/-- while the GPU is not lost, the counters of its context count -/
theorem run_accounted {exp : Exporter K} (hhard : 1 ≤ exp.cfg.int .nvmlHardErrorThreshold) (ctx : GpuCtx K)
    (envs : List PollEnv)
    (hpresent : (run (step exp) (collectorStart ctx exp) envs).ctx.gpuPresent ≠ 0) :
    Accounted (thresholds exp.cfg) (polls exp (collectorStart ctx exp) envs)
      (tracking (run (step exp) (collectorStart ctx exp) envs).ctx) := by
  induction envs using List.reverseRecOn with
  | nil => exact accounted_start hhard
  | append_singleton envs env ih =>
    rw [run_snoc] at hpresent ⊢
    rw [step_tracking, polls_snoc]
    have hnow := step_tracking exp (run (step exp) (collectorStart ctx exp) envs) env
    generalize run (step exp) (collectorStart ctx exp) envs = st at ih hpresent hnow ⊢
    have hbefore : st.ctx.gpuPresent ≠ 0 := by
      intro h0
      rw [polled_none env h0] at hnow
      exact hpresent ((congrArg Tracking.present hnow).trans h0)
    cases hpoll : polled exp st env with
    | none => simpa using ih hbefore
    | some o =>
      rw [hpoll] at hnow
      rcases (ih hbefore).after o with h | ⟨-, -, hlost⟩
      · exact h
      · exact absurd ((congrArg Tracking.present hnow).trans hlost) hpresent

end GpuHealth.ErrorTracking
