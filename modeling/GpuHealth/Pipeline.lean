/-
The whole exporter: poll threads, IPC stream and HTTP child, with the child's exits and respawns (`spawn_http_child` and
the monitor loop of `main` in `src/main.c`, over `src/collector.c`, `src/snapshot.c` and `src/http.c`).

A step of the pipeline is
- an operation of `PollThreads`: a thread that is in `snapshot_send` makes none;
- `publish`: the thread assembles its snapshot and enters `snapshot_send` with the bytes of its message. `decode` reads a
  `gpu_ipc_msg_t` in its object representation, so the padding may be anything;
- a `write` or a `read` of `Ipc`. Without a child there is nobody to write to: `parent_fd` is -1, or the peer of the
  socket is closed. The receiver stores a message as soon as it is whole;
- `fail`: a `write` returns an error, and `snapshot_send` returns -1;
- `exit` of the child, and `spawn` of a new one on a new socketpair. `parent_fd` is swapped, and a call that is on the
  old descriptor fails (the EBADF window of the source). A number of GPUs that the child refuses leaves no child.

A step that is not possible does nothing. The threads start before the first child, so what they publish until then is
lost. What the init message carries is `num_gpus`.
-/
import GpuHealth.PollThreads
import GpuHealth.HttpChild
import GpuHealth.Ipc

namespace GpuHealth.Pipeline

open GpuHealth.Collector GpuHealth.HttpChild GpuHealth.Ipc GpuHealth.PollThreads GpuHealth.Runs

variable {K : Type} [Arith K] {n : ℕ}

/-! ## State -/

structure PipeState (K : Type) (n : ℕ) where
  sys : System K n
  /-- the socketpair of the current child, and the calls the threads are in -/
  ipc : IpcState (Fin n)
  child : Option (ChildState K)

/-- the threads start without a child -/
def pipelineStart (sys : System K n) : PipeState K n := ⟨sys, ipcStart (Fin n), none⟩

inductive PipeOp (n : ℕ) where
  | thread (op : PollThreads.Op n)
  | publish (j : Fin n) (frame : IpcMsg)
  | write (j : Fin n) (ret : ℕ)
  | fail (j : Fin n)
  | read (ret : ℕ)
  | exit
  | spawn

/-! ## Operations -/

/-- the thread is not in `snapshot_send`, and does not enter it -/
def canAct (p : PipeState K n) : PollThreads.Op n → Bool
  | .change _ _ => true
  | .poll j _ => (p.ipc.sending j).isNone
  | .check j => (p.ipc.sending j).isNone
  | .load j => (p.ipc.sending j).isNone
  | .publish _ => false

/-- the message `snapshot_send` copies when the thread publishes -/
def message (exp : Exporter K) (s : System K n) (j : Fin n) : GpuIpcMsg K :=
  let ctx := (publishThread exp (s.threads j)).st.ctx
  ⟨ctx.gpuIndex, ctx.snapshot⟩

/-- the thread publishes, and `frame` represents its message -/
def Publishes (exp : Exporter K) (decode : IpcMsg → GpuIpcMsg K) (p : PipeState K n) (j : Fin n) (frame : IpcMsg) : Prop :=
  (p.ipc.sending j).isNone ∧ (p.sys.threads j).place = .checked ∧ decode frame = message exp p.sys j

instance (exp : Exporter K) (decode : IpcMsg → GpuIpcMsg K) (p : PipeState K n) (j : Fin n) (frame : IpcMsg) :
    Decidable (Publishes exp decode p j frame) :=
  inferInstanceAs (Decidable (_ ∧ _ ∧ _))

/-- the operation of `PollThreads` in a step -/
def acted (exp : Exporter K) (decode : IpcMsg → GpuIpcMsg K) (p : PipeState K n) : PipeOp n → Option (PollThreads.Op n)
  | .thread op => if canAct p op then some op else none
  | .publish j frame => if Publishes exp decode p j frame then some (.publish j) else none
  | _ => none

/-- the receiver's loop over the messages that a read completes -/
def receiveNew (decode : IpcMsg → GpuIpcMsg K) (before after : IpcState (Fin n)) (g : ChildState K) : ChildState K :=
  run receive g ((after.received.drop before.received.length).map decode)

def pipeStep (exp : Exporter K) (decode : IpcMsg → GpuIpcMsg K) (p : PipeState K n) : PipeOp n → PipeState K n
  | .thread op => if canAct p op then { p with sys := PollThreads.step exp p.sys op } else p
  | .publish j frame =>
    if Publishes exp decode p j frame then
      { p with sys := PollThreads.step exp p.sys (.publish j), ipc := snapshotSend p.ipc j frame }
    else p
  | .write j ret => if p.child.isSome then { p with ipc := sendWrite p.ipc j ret } else p
  | .fail j => { p with ipc := { p.ipc with sending := Function.update p.ipc.sending j none } }
  | .read ret =>
    match p.child with
    | some g => { p with ipc := recvRead p.ipc ret, child := some (receiveNew decode p.ipc (recvRead p.ipc ret) g) }
    | none => p
  | .exit => { p with child := none }
  | .spawn =>
    match p.child with
    | some _ => p
    | none => { p with ipc := ipcStart (Fin n), child := childStart n (exp.cfg.int .pollIntervalS) }

/-! ## The threads in the pipeline -/

/-- the threads make the steps of `PollThreads` -/
theorem step_sys (exp : Exporter K) (decode : IpcMsg → GpuIpcMsg K) (p : PipeState K n) (op : PipeOp n) :
    (pipeStep exp decode p op).sys = run (PollThreads.step exp) p.sys (acted exp decode p op).toList := by
  cases op with
  | thread op =>
    rw [pipeStep, acted]
    split_ifs <;> rfl
  | publish j frame =>
    rw [pipeStep, acted]
    split_ifs <;> rfl
  | write j ret =>
    rw [pipeStep]
    split_ifs <;> rfl
  | fail j => rfl
  | read ret =>
    rw [pipeStep]
    cases p.child <;> rfl
  | exit => rfl
  | spawn =>
    rw [pipeStep]
    cases p.child <;> rfl

theorem run_sys (exp : Exporter K) (decode : IpcMsg → GpuIpcMsg K) (p : PipeState K n) (ops : List (PipeOp n)) :
    (run (pipeStep exp decode) p ops).sys =
      run (PollThreads.step exp) p.sys (outputs (pipeStep exp decode) (acted exp decode) p ops) :=
  run_component (step_sys exp decode) p ops

end GpuHealth.Pipeline
