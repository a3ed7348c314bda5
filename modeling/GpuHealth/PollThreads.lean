/-
The poll threads of `n` GPUs over one baseline directory and one inotify descriptor (`poll_thread` in `src/collector.c`,
`baseline_inotify_check` in `src/state.c`).

An iteration that reads its sensors is cut where another thread or a writer can come between: `poll` (entry, NVML,
DCGM), `check` (the drain of the descriptor), `load` (the reload, if the drain found an event) and `publish` (push,
score, snapshot, send). A `Phase` says where in its iteration a thread is. A `change` of a baseline file replaces its
content and queues one event with its name (IN_CLOSE_WRITE, IN_MOVED_TO). An operation a thread is not ready for does
nothing, so a run is any list of operations: any interleaving, cut off anywhere.

The drain is a loop of reads into 4096 bytes, each of which takes the whole events that fit, until there is no event. It
does not look at their names. `baselineInotifyCheck_eq`: it removes every queued event. A drain is one operation, and a
read error of the descriptor is left out.

`uninterrupted`: a thread that is left alone through its four operations makes exactly the step of `Collector`, with
the drain's answer and the file's content as its inputs.
-/
import GpuHealth.Collector

namespace GpuHealth.PollThreads

open GpuHealth.Ring GpuHealth.Scorer GpuHealth.Nvml GpuHealth.Dcgm GpuHealth.Snapshot GpuHealth.State GpuHealth.Collector

variable {K : Type} [Arith K] {n : ℕ}

/-! ## State -/

/-- what an iteration carries from its sensors to its snapshot -/
structure Cycle (K : Type) where
  env : PollEnv
  sample : GpuSample K
  state : GpuState K

inductive Phase (K : Type) where
  | idle
  /-- before `baseline_inotify_check` -/
  | polled (c : Cycle K)
  /-- the check returned 1: before `baseline_load` -/
  | reload (c : Cycle K)
  /-- before `ring_push` -/
  | checked (c : Cycle K)

/-- the phase without what it carries -/
inductive Place where
  | idle
  | polled
  | reload
  | checked
deriving DecidableEq, Repr

def Phase.place : Phase K → Place
  | .idle => .idle
  | .polled _ => .polled
  | .reload _ => .reload
  | .checked _ => .checked

structure Thread (K : Type) where
  st : PollState K
  phase : Phase K

def Thread.place (t : Thread K) : Place := t.phase.place
def Thread.serial (t : Thread K) : CStr := t.st.ctx.serial
def Thread.baseline (t : Thread K) : GpuBaseline K := t.st.ctx.baseline

structure System (K : Type) (n : ℕ) where
  /-- baseline files, by serial -/
  files : CStr → Option CStr
  /-- queued events: the names of changed files -/
  queue : List CStr
  threads : Fin n → Thread K

/-! ## Operations -/

/-- the success path before the drain -/
def pollHead (ctx : GpuCtx K) : GpuCtx K :=
  { ctx with consecutiveErrors := 0, consecutiveHardErrors := 0, gpuAvailable := 1 }

/-- the success path from `ring_push` on -/
def pollTail (exp : Exporter K) (env : PollEnv) (ctx : GpuCtx K) (sample : GpuSample K) (state : GpuState K) :
    GpuCtx K :=
  let ctx := { ctx with ring := ringPush ctx.ring sample }
  let ctx := { ctx with state := state }
  let score := scoreGpu env.malloc ctx.ring ctx.state (some ctx.baseline) (some ctx.probe) exp.cfg
  snapshotUpdate ctx score exp.dcgmAvailable env.wallS env.snapMs

/-- an attempt from `ctx`, up to the drain -/
def readSensors (exp : Exporter K) (env : PollEnv) (ctx : GpuCtx K) : Thread K :=
  match doNvmlPoll env.nvml env.sampleMs GpuSample.zeroed (freshState ctx) with
  | .error (ret, _) => ⟨pollError exp ctx ret, .idle⟩
  | .ok (sample, state) => ⟨⟨pollHead ctx, false⟩, .polled ⟨env, sample, dcgmState exp env state⟩⟩

def pollThread (exp : Exporter K) (env : PollEnv) (t : Thread K) : Thread K :=
  match t.phase with
  | .idle =>
    match pollEntry exp t.st env with
    | none => t
    | some ctx => readSensors exp env ctx
  | _ => t

/-- `NAME_MAX`: no file has a longer name -/
def nameMax : ℕ := 255

/-- `struct inotify_event` and the name `<serial>.baseline`, which is padded to a multiple of the struct's size -/
def eventSize (serial : CStr) : ℕ :=
  let name := min (serial.length + ".baseline".length) nameMax
  16 + (name + 1 + 15) / 16 * 16

/-- `read` of the descriptor into `room` bytes: the events it leaves in the queue -/
def readEvents (room : ℕ) : List CStr → List CStr
  | [] => []
  | serial :: queue => if eventSize serial ≤ room then readEvents (room - eventSize serial) queue else serial :: queue

/-- the loop of the drain, as far as so many reads take it: `any`, and the events left -/
def drainLoop : ℕ → ℤ → List CStr → ℤ × List CStr
  | 0, any, queue => (any, queue)
  -- EAGAIN
  | _ + 1, any, [] => (any, [])
  | fuel + 1, _, serial :: queue => drainLoop fuel 1 (readEvents 4096 (serial :: queue))

/-- the result, and the events left -/
def baselineInotifyCheck (queue : List CStr) : ℤ × List CStr := drainLoop (queue.length + 1) 0 queue

def checkThread (exp : Exporter K) (queue : List CStr) (t : Thread K) : Thread K × List CStr :=
  match t.phase with
  | .polled c =>
    if exp.baselineInotifyFd ≥ 0 then
      let (any, queue) := baselineInotifyCheck queue
      ({ t with phase := if any = 1 then .reload c else .checked c }, queue)
    else ({ t with phase := .checked c }, queue)
  | _ => (t, queue)

def loadThread (files : CStr → Option CStr) (t : Thread K) : Thread K :=
  match t.phase with
  | .reload c =>
    let ctx := t.st.ctx
    ⟨{ t.st with ctx := { ctx with baseline := reloadedBaseline ctx (files ctx.serial) } }, .checked c⟩
  | _ => t

def publishThread (exp : Exporter K) (t : Thread K) : Thread K :=
  match t.phase with
  | .checked c => ⟨⟨{ pollTail exp c.env t.st.ctx c.sample c.state with ready := 1 }, false⟩, .idle⟩
  | _ => t

inductive Op (n : ℕ) where
  | change (serial : CStr) (content : CStr)
  | poll (j : Fin n) (env : PollEnv)
  | check (j : Fin n)
  | load (j : Fin n)
  | publish (j : Fin n)

/-- the thread whose operation it is -/
def opThread : Op n → Option (Fin n)
  | .change _ _ => none
  | .poll j _ => some j
  | .check j => some j
  | .load j => some j
  | .publish j => some j

def step (exp : Exporter K) (s : System K n) : Op n → System K n
  | .change serial content =>
    { s with files := Function.update s.files serial (some content), queue := s.queue ++ [serial] }
  | .poll j env => { s with threads := Function.update s.threads j (pollThread exp env (s.threads j)) }
  | .check j =>
    { s with
      threads := Function.update s.threads j (checkThread exp s.queue (s.threads j)).1
      queue := (checkThread exp s.queue (s.threads j)).2 }
  | .load j => { s with threads := Function.update s.threads j (loadThread s.files (s.threads j)) }
  | .publish j => { s with threads := Function.update s.threads j (publishThread exp (s.threads j)) }

/-- `main` has loaded the files, and the threads start -/
def start (exp : Exporter K) (ctx : Fin n → GpuCtx K) (files probeFiles : CStr → Option CStr) (nowS : UInt64) :
    System K n where
  files := files
  queue := []
  threads i :=
    ⟨collectorStart (mainLoadFiles exp (ctx i) (files (ctx i).serial) (probeFiles (ctx i).serial) nowS) exp, .idle⟩

/-! ## The drain -/

theorem eventSize_le (serial : CStr) : eventSize serial ≤ 272 := by
  have hname : min (serial.length + ".baseline".length) nameMax ≤ 255 := min_le_right _ _
  dsimp only [eventSize]
  omega

theorem readEvents_length (room : ℕ) (queue : List CStr) : (readEvents room queue).length ≤ queue.length := by
  induction queue generalizing room with
  | nil => exact le_rfl
  | cons serial queue ih =>
    rw [readEvents]
    split_ifs with hfits
    · exact (ih _).trans (Nat.le_succ _)
    · exact le_rfl

/-- the buffer has room for the first event -/
theorem readEvents_cons (serial : CStr) (queue : List CStr) :
    (readEvents 4096 (serial :: queue)).length ≤ queue.length := by
  rw [readEvents, if_pos ((eventSize_le serial).trans (by norm_num))]
  exact readEvents_length _ queue

theorem drainLoop_eq {fuel : ℕ} (any : ℤ) {queue : List CStr} (h : queue.length < fuel) :
    drainLoop fuel any queue = (if queue = [] then any else 1, []) := by
  induction fuel generalizing any queue with
  | zero => exact absurd h (Nat.not_lt_zero _)
  | succ fuel ih =>
    cases queue with
    | nil => rfl
    | cons serial queue =>
      have hless := readEvents_cons serial queue
      rw [List.length_cons] at h
      rw [drainLoop, ih 1 (by omega), ite_self, if_neg (List.cons_ne_nil _ _)]

/-- **A drain removes every queued event**, and says whether there was one. -/
theorem baselineInotifyCheck_eq (queue : List CStr) :
    baselineInotifyCheck queue = (if queue = [] then 0 else 1, []) :=
  drainLoop_eq 0 (Nat.lt_succ_self _)

/-! ## What an operation does -/

/-- **What an operation makes of its own thread.** -/
theorem step_own (exp : Exporter K) (s : System K n) {i : Fin n} {op : Op n} (h : opThread op = some i) :
    (∃ env, op = .poll i env ∧ (step exp s op).threads i = pollThread exp env (s.threads i)) ∨
    (op = .check i ∧ (step exp s op).threads i = (checkThread exp s.queue (s.threads i)).1) ∨
    (op = .load i ∧ (step exp s op).threads i = loadThread s.files (s.threads i)) ∨
    (op = .publish i ∧ (step exp s op).threads i = publishThread exp (s.threads i)) := by
  cases op with
  | change name content => cases h
  | poll j env =>
    obtain rfl := Option.some.inj h
    exact Or.inl ⟨env, rfl, Function.update_self ..⟩
  | check j =>
    obtain rfl := Option.some.inj h
    exact Or.inr (Or.inl ⟨rfl, Function.update_self ..⟩)
  | load j =>
    obtain rfl := Option.some.inj h
    exact Or.inr (Or.inr (Or.inl ⟨rfl, Function.update_self ..⟩))
  | publish j =>
    obtain rfl := Option.some.inj h
    exact Or.inr (Or.inr (Or.inr ⟨rfl, Function.update_self ..⟩))

/-- the operations of the others leave it alone -/
theorem step_elsewhere (exp : Exporter K) (s : System K n) {i : Fin n} {op : Op n} (h : opThread op ≠ some i) :
    (step exp s op).threads i = s.threads i := by
  have hne : ∀ {j : Fin n}, opThread op = some j → i ≠ j := by
    rintro j hj rfl
    exact h hj
  cases op with
  | change name content => rfl
  | poll j env => exact Function.update_of_ne (hne rfl) _ _
  | check j => exact Function.update_of_ne (hne rfl) _ _
  | load j => exact Function.update_of_ne (hne rfl) _ _
  | publish j => exact Function.update_of_ne (hne rfl) _ _

/-- the same baseline and serial -/
def SameBaseline (t' t : Thread K) : Prop := t'.baseline = t.baseline ∧ t'.serial = t.serial

theorem readSensors_cases (exp : Exporter K) (env : PollEnv) (ctx : GpuCtx K) :
    ((readSensors exp env ctx).baseline = ctx.baseline ∧ (readSensors exp env ctx).serial = ctx.serial) ∧
      ((readSensors exp env ctx).place = .idle ∨ (readSensors exp env ctx).place = .polled) := by
  unfold readSensors
  cases doNvmlPoll env.nvml env.sampleMs GpuSample.zeroed (freshState ctx) with
  | error e =>
    obtain ⟨-, -, hbase, -, -, hserial⟩ := pollError_frame exp ctx e.1
    exact ⟨⟨hbase, hserial⟩, Or.inl rfl⟩
  | ok r => exact ⟨⟨rfl, rfl⟩, Or.inr rfl⟩

theorem pollThread_cases (exp : Exporter K) (env : PollEnv) (t : Thread K) :
    pollThread exp env t = t ∨ (t.place = .idle ∧ SameBaseline (pollThread exp env t) t ∧
      ((pollThread exp env t).place = .idle ∨ (pollThread exp env t).place = .polled)) := by
  obtain ⟨st, phase⟩ := t
  cases phase with
  | idle =>
    simp only [pollThread]
    cases hentry : pollEntry exp st env with
    | none => exact Or.inl rfl
    | some ctx =>
      obtain ⟨-, -, time, rfl⟩ := pollEntry_some hentry
      exact Or.inr ⟨rfl, readSensors_cases exp env _⟩
  | polled c => exact Or.inl rfl
  | reload c => exact Or.inl rfl
  | checked c => exact Or.inl rfl

omit [Arith K] in
theorem checkThread_cases {exp : Exporter K} (hfd : exp.baselineInotifyFd ≥ 0) (queue : List CStr) (t : Thread K) :
    checkThread exp queue t = (t, queue) ∧ t.place ≠ .polled ∨
      (t.place = .polled ∧ SameBaseline (checkThread exp queue t).1 t ∧
        (checkThread exp queue t).1.place = (if queue = [] then .checked else .reload) ∧
        (checkThread exp queue t).2 = []) := by
  obtain ⟨st, phase⟩ := t
  cases phase with
  | idle => exact Or.inl ⟨rfl, by simp [Thread.place, Phase.place]⟩
  | polled c =>
    have heq : checkThread exp queue ⟨st, .polled c⟩ = (⟨st, if queue = [] then .checked c else .reload c⟩, []) := by
      by_cases hq : queue = [] <;> simp [checkThread, hfd, baselineInotifyCheck_eq, hq]
    rw [heq]
    refine Or.inr ⟨rfl, ⟨rfl, rfl⟩, ?_, rfl⟩
    by_cases hq : queue = [] <;> simp [hq, Thread.place, Phase.place]
  | reload c => exact Or.inl ⟨rfl, by simp [Thread.place, Phase.place]⟩
  | checked c => exact Or.inl ⟨rfl, by simp [Thread.place, Phase.place]⟩

theorem loadThread_cases (files : CStr → Option CStr) (t : Thread K) :
    loadThread files t = t ∧ t.place ≠ .reload ∨
      (t.place = .reload ∧ (loadThread files t).serial = t.serial ∧ (loadThread files t).place = .checked ∧
        (loadThread files t).baseline = reloadedBaseline t.st.ctx (files t.serial)) := by
  obtain ⟨st, phase⟩ := t
  cases phase with
  | idle => exact Or.inl ⟨rfl, by simp [Thread.place, Phase.place]⟩
  | polled c => exact Or.inl ⟨rfl, by simp [Thread.place, Phase.place]⟩
  | reload c => exact Or.inr ⟨rfl, rfl, rfl, rfl⟩
  | checked c => exact Or.inl ⟨rfl, by simp [Thread.place, Phase.place]⟩

theorem publishThread_cases (exp : Exporter K) (t : Thread K) :
    publishThread exp t = t ∨ (t.place = .checked ∧ SameBaseline (publishThread exp t) t ∧
      (publishThread exp t).place = .idle) := by
  obtain ⟨st, phase⟩ := t
  cases phase with
  | idle => exact Or.inl rfl
  | polled c => exact Or.inl rfl
  | reload c => exact Or.inl rfl
  | checked c => exact Or.inr ⟨rfl, ⟨rfl, rfl⟩, rfl⟩

/-- **Everything an operation can do to thread `i`.** -/
theorem step_thread {exp : Exporter K} (hfd : exp.baselineInotifyFd ≥ 0) (s : System K n) (op : Op n) (i : Fin n) :
    (step exp s op).threads i = s.threads i ∨
    ((s.threads i).place = .idle ∧ SameBaseline ((step exp s op).threads i) (s.threads i)) ∨
    (op = .check i ∧ (s.threads i).place = .polled ∧ SameBaseline ((step exp s op).threads i) (s.threads i) ∧
      ((step exp s op).threads i).place = if s.queue = [] then .checked else .reload) ∨
    (op = .load i ∧ (s.threads i).place = .reload ∧ ((step exp s op).threads i).serial = (s.threads i).serial ∧
      ((step exp s op).threads i).baseline =
        reloadedBaseline (s.threads i).st.ctx (s.files (s.threads i).serial)) ∨
    ((s.threads i).place = .checked ∧ SameBaseline ((step exp s op).threads i) (s.threads i)) := by
  by_cases hop : opThread op = some i
  · rcases step_own exp s hop with ⟨env, rfl, hth⟩ | ⟨rfl, hth⟩ | ⟨rfl, hth⟩ | ⟨rfl, hth⟩
    · rw [hth]
      rcases pollThread_cases exp env (s.threads i) with h | ⟨hp, hb, -⟩
      · exact Or.inl h
      · exact Or.inr (Or.inl ⟨hp, hb⟩)
    · rw [hth]
      rcases checkThread_cases hfd s.queue (s.threads i) with ⟨h, -⟩ | ⟨hp, hb, hplace, -⟩
      · exact Or.inl (congrArg Prod.fst h)
      · exact Or.inr (Or.inr (Or.inl ⟨rfl, hp, hb, hplace⟩))
    · rw [hth]
      rcases loadThread_cases s.files (s.threads i) with ⟨h, -⟩ | ⟨hp, hs, -, hb⟩
      · exact Or.inl h
      · exact Or.inr (Or.inr (Or.inr (Or.inl ⟨rfl, hp, hs, hb⟩)))
    · rw [hth]
      rcases publishThread_cases exp (s.threads i) with h | ⟨hp, hb, -⟩
      · exact Or.inl h
      · exact Or.inr (Or.inr (Or.inr (Or.inr ⟨hp, hb⟩)))
  · exact Or.inl (step_elsewhere exp s hop)

theorem step_files (exp : Exporter K) (s : System K n) (op : Op n) {name : CStr}
    (h : ∀ content, op ≠ .change name content) : (step exp s op).files name = s.files name := by
  cases op with
  | change other content =>
    apply Function.update_of_ne
    intro heq
    exact h content (heq ▸ rfl)
  | poll j env => rfl
  | check j => rfl
  | load j => rfl
  | publish j => rfl

/-- only a drain removes events -/
theorem step_queue {exp : Exporter K} (hfd : exp.baselineInotifyFd ≥ 0) (s : System K n) (op : Op n) {name : CStr}
    (h : name ∈ s.queue) :
    name ∈ (step exp s op).queue ∨ ∃ j, op = .check j ∧ (s.threads j).place = .polled := by
  cases op with
  | change other content => exact Or.inl (List.mem_append_left _ h)
  | poll j env => exact Or.inl h
  | check j =>
    rcases checkThread_cases hfd s.queue (s.threads j) with ⟨heq, -⟩ | ⟨hp, -⟩
    · apply Or.inl
      rw [step, heq]
      exact h
    · exact Or.inr ⟨j, rfl, hp⟩
  | load j => exact Or.inl h
  | publish j => exact Or.inl h

/-! ## One iteration without interference -/

/-- the operations behind the sensors are the success path -/
theorem polled_publishes (exp : Exporter K) (env : PollEnv) (files : CStr → Option CStr) (queue : List CStr)
    (ctx : GpuCtx K) (sample : GpuSample K) (state : GpuState K) :
    publishThread exp (loadThread files (checkThread exp queue
        ⟨⟨pollHead ctx, false⟩, .polled ⟨env, sample, dcgmState exp env state⟩⟩).1) =
      ⟨⟨{ pollPublish exp { env with inotify := (baselineInotifyCheck queue).1, baselineFile := files ctx.serial } ctx
            sample state with ready := 1 }, false⟩, .idle⟩ := by
  by_cases hfd : exp.baselineInotifyFd ≥ 0
  · by_cases hq : queue = []
    · simp only [checkThread, hfd, if_true, baselineInotifyCheck_eq, hq, loadThread, publishThread, pollPublish,
        baselineReload, zero_ne_one, and_false, if_false]
      rfl
    · simp only [checkThread, hfd, if_true, baselineInotifyCheck_eq, hq, if_false, loadThread, publishThread, pollPublish,
        baselineReload, and_self]
      rfl
  · simp only [checkThread, hfd, if_false, loadThread, publishThread, pollPublish, baselineReload, false_and]
    rfl

theorem idle_stays (exp : Exporter K) (files : CStr → Option CStr) (queue : List CStr) (st : PollState K) :
    publishThread exp (loadThread files (checkThread exp queue ⟨st, .idle⟩).1) = ⟨st, .idle⟩ := rfl

/-- an attempt, from its sensors on -/
theorem readSensors_publishes (exp : Exporter K) (env : PollEnv) (files : CStr → Option CStr) (queue : List CStr)
    (ctx : GpuCtx K) :
    publishThread exp (loadThread files (checkThread exp queue (readSensors exp env ctx)).1) =
      ⟨(pollAttempt exp ctx
        { env with inotify := (baselineInotifyCheck queue).1, baselineFile := files ctx.serial }).1, .idle⟩ := by
  simp only [readSensors, pollAttempt]
  cases doNvmlPoll env.nvml env.sampleMs GpuSample.zeroed (freshState ctx) with
  | error e => exact idle_stays exp files queue _
  | ok r => exact polled_publishes exp env files queue ctx r.1 r.2

/-- **A thread left alone makes the step of `Collector`.** -/
theorem uninterrupted (exp : Exporter K) (s : System K n) (i : Fin n) (env : PollEnv)
    (h : (s.threads i).phase = .idle) :
    (Runs.run (step exp) s [.poll i env, .check i, .load i, .publish i]).threads i =
      ⟨Collector.step exp (s.threads i).st
        { env with
          inotify := (baselineInotifyCheck s.queue).1
          baselineFile := s.files (s.threads i).st.ctx.serial }, .idle⟩ := by
  simp only [Runs.run_cons, Runs.run_nil, step, Function.update_self]
  unfold Collector.step pollIteration pollThread
  rw [h]
  have hentry : pollEntry exp (s.threads i).st { env with
      inotify := (baselineInotifyCheck s.queue).1
      baselineFile := s.files (s.threads i).st.ctx.serial } = pollEntry exp (s.threads i).st env := rfl
  rw [hentry]
  cases he : pollEntry exp (s.threads i).st env with
  | none =>
    have hidle : s.threads i = ⟨(s.threads i).st, .idle⟩ := by rw [← h]
    rw [hidle]
    exact idle_stays exp s.files s.queue (s.threads i).st
  | some ctx =>
    obtain ⟨-, -, time, rfl⟩ := pollEntry_some he
    exact readSensors_publishes exp env s.files s.queue _

end GpuHealth.PollThreads
