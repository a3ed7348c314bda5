/-
The processes of the exporter and the ends of the socketpairs they hold (`spawn_http_child`, the monitor loop and
`shutdown_all`, `src/main.c`).

A step is one system call of `main` in `spawn_http_child` or `shutdown_all`, one of a child that has just been forked, the
exit of a process at any moment, or a file that any thread of a process opens or closes. The kernel gives any free
number. A step that is not possible does nothing.

Child `k` is the one for which the pair `k` was made; `child_pid` is taken as this number. A number in a variable stands
with what it was opened for; the calls look at the number only. A new child is spawned when `waitpid` has reported the
one before; a spawn that fails ends the loop.
-/
import GpuHealth.Core.Descriptors
import GpuHealth.Core.Runs

namespace GpuHealth.Respawn

open GpuHealth.Descriptors GpuHealth.Runs

inductive Proc where
  | parent
  | child (k : ℕ)
deriving DecidableEq, Repr

theorem child_ne_parent (k : ℕ) : Proc.child k ≠ .parent := nofun

theorem parent_ne_child (k : ℕ) : Proc.parent ≠ .child k := nofun

/-- what a descriptor stands for: an end of a pair, or anything else -/
inductive Desc where
  | parentEnd (k : ℕ)
  | childEnd (k : ℕ)
  | file
deriving DecidableEq, Repr

def Desc.IsEnd (d : Desc) : Prop := d ≠ .file

theorem parentEnd_isEnd (k : ℕ) : (Desc.parentEnd k).IsEnd := nofun

theorem childEnd_isEnd (k : ℕ) : (Desc.childEnd k).IsEnd := nofun

theorem file_not_isEnd : ¬ Desc.file.IsEnd := fun h => h rfl

/-- where `main` is -/
inductive MainAt where
  /-- outside `spawn_http_child`, and in front of its `socketpair` -/
  | rest
  /-- `fds` is there; `write_ipc_init` is next -/
  | paired (k f0 f1 : ℕ)
  /-- `fork` is next -/
  | written (k f0 f1 : ℕ)
  /-- behind `fork` in the parent -/
  | forked (k f0 f1 : ℕ)
  /-- these are closed next -/
  | closing (l : List (ℕ × Desc))
  | gone
deriving DecidableEq, Repr

structure Child where
  /-- closed first: `fds[0]`, and `parent_fd` if there is one -/
  todo : List (ℕ × Desc)
  ipcFd : ℕ
deriving DecidableEq, Repr

structure Exporter where
  tables : Tables Proc Desc
  main : MainAt
  /-- none for -1 -/
  parentFd : Option (ℕ × Desc)
  childPid : Option ℕ
  gRunning : Bool
  pairs : ℕ
  children : ℕ → Option Child

/-- `files` is what the exporter has open before -/
def start (files : ℕ → Bool) : Exporter where
  tables := Function.update (fun _ _ => none) .parent fun fd => if files fd then some .file else none
  main := .rest
  parentFd := none
  childPid := none
  gRunning := true
  pairs := 0
  children := fun _ => none

def Exporter.alive (s : Exporter) : Proc → Bool
  | .parent => s.main ≠ .gone
  | .child k => (s.children k).isSome

/-- the child has been reported, or there was none -/
def Exporter.reaped (s : Exporter) : Bool := s.childPid.all fun k => (s.children k).isNone

/-! ## The calls -/

def Exporter.socketpair (s : Exporter) (fds : Option (ℕ × ℕ)) : Exporter :=
  if s.main = .rest ∧ s.gRunning = true ∧ s.reaped = true then
    match fds with
    | none => { s with gRunning := false }
    | some (f0, f1) =>
      if s.tables .parent f0 = none ∧ s.tables .parent f1 = none ∧ f0 ≠ f1 then
        { s with
          tables := openAt (openAt s.tables .parent f1 (.childEnd s.pairs)) .parent f0 (.parentEnd s.pairs)
          main := .paired s.pairs f0 f1
          pairs := s.pairs + 1 }
      else s
  else s

def Exporter.writeIpcInit (s : Exporter) (ok : Bool) : Exporter :=
  match s.main with
  | .paired k f0 f1 =>
    if ok then { s with main := .written k f0 f1 }
    else { s with main := .closing [(f0, .parentEnd k), (f1, .childEnd k)], gRunning := false }
  | _ => s

def Exporter.fork (s : Exporter) (ok : Bool) : Exporter :=
  match s.main with
  | .written k f0 f1 =>
    if ok then
      { s with
        tables := Descriptors.fork s.tables .parent (.child k)
        main := .forked k f0 f1
        children := Function.update s.children k (some ⟨(f0, .parentEnd k) :: s.parentFd.toList, f1⟩) }
    else { s with main := .closing [(f0, .parentEnd k), (f1, .childEnd k)], gRunning := false }
  | _ => s

/-- the assignments behind `fork`, or a `close` -/
def Exporter.next (s : Exporter) : Exporter :=
  match s.main with
  | .forked k f0 f1 =>
    { s with
      main := .closing ((f1, .childEnd k) :: s.parentFd.toList)
      parentFd := some (f0, .parentEnd k)
      childPid := some k }
  | .closing (e :: l) => { s with tables := close s.tables .parent e.1, main := .closing l }
  | .closing [] => { s with main := .rest }
  | _ => s

/-- `parent_fd` in `shutdown_all` -/
def Exporter.shutdown (s : Exporter) : Exporter :=
  if s.main = .rest ∧ s.gRunning = false then { s with main := .closing s.parentFd.toList, parentFd := none } else s

def Exporter.exitMain (s : Exporter) : Exporter := { s with tables := exit s.tables .parent, main := .gone }

def Exporter.childNext (s : Exporter) (k : ℕ) : Exporter :=
  match s.children k with
  | some ⟨e :: todo, ipcFd⟩ =>
    { s with
      tables := close s.tables (.child k) e.1
      children := Function.update s.children k (some ⟨todo, ipcFd⟩) }
  | _ => s

def Exporter.childExit (s : Exporter) (k : ℕ) : Exporter :=
  { s with tables := exit s.tables (.child k), children := Function.update s.children k none }

def Exporter.openFile (s : Exporter) (p : Proc) (fd : ℕ) : Exporter :=
  if s.alive p = true ∧ s.tables p fd = none then { s with tables := openAt s.tables p fd .file } else s

def Exporter.closeFile (s : Exporter) (p : Proc) (fd : ℕ) : Exporter :=
  if s.tables p fd = some .file then { s with tables := close s.tables p fd } else s

inductive Op where
  | socketpair (fds : Option (ℕ × ℕ))
  | writeIpcInit (ok : Bool)
  | fork (ok : Bool)
  | next
  | sigterm
  | shutdown
  | exitMain
  | childNext (k : ℕ)
  | childExit (k : ℕ)
  | openFile (p : Proc) (fd : ℕ)
  | closeFile (p : Proc) (fd : ℕ)
deriving DecidableEq, Repr

def step (s : Exporter) : Op → Exporter
  | .socketpair fds => s.socketpair fds
  | .writeIpcInit ok => s.writeIpcInit ok
  | .fork ok => s.fork ok
  | .next => s.next
  | .sigterm => { s with gRunning := false }
  | .shutdown => s.shutdown
  | .exitMain => s.exitMain
  | .childNext k => s.childNext k
  | .childExit k => s.childExit k
  | .openFile p fd => s.openFile p fd
  | .closeFile p fd => s.closeFile p fd

/-! ## What every process holds -/

/-- the ends the parent holds -/
def Exporter.parentEnds (s : Exporter) : List (ℕ × Desc) :=
  match s.main with
  | .rest => s.parentFd.toList
  | .paired k f0 f1 | .written k f0 f1 | .forked k f0 f1 =>
    (f0, .parentEnd k) :: (f1, .childEnd k) :: s.parentFd.toList
  | .closing l => l ++ s.parentFd.toList
  | .gone => []

/-- the ends child `k` holds, if it is there -/
def childEnds (k : ℕ) : Option Child → List (ℕ × Desc)
  | some c => c.todo ++ [(c.ipcFd, .childEnd k)]
  | none => []

end GpuHealth.Respawn
