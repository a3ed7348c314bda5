/-
The seccomp filter of the HTTP child (`install_child_seccomp` of `src/procpriv.c`).

`filter` is the array that the macros build; the numbers are those of the kernel's headers for x86_64. What differs
between builds is a `Headers`: whether `__NR_clone3`, `__NR_rseq` and `SECCOMP_RET_KILL_PROCESS` are defined.
-/
import GpuHealth.Core.Bpf

namespace GpuHealth.Seccomp

open GpuHealth.Bpf

/-! ## System calls -/

inductive Syscall where
  | nrRead | nrWrite | nrWritev | nrClose
  | nrSocket | nrBind | nrListen | nrAccept | nrAccept4 | nrSelect | nrPselect6
  | nrSetsockopt | nrGetsockopt | nrSendto | nrRecvfrom
  | nrExit | nrExitGroup
  | nrFutex | nrClone | nrSetRobustList | nrGettid | nrGetpid
  | nrMmap | nrMunmap | nrMprotect | nrMadvise | nrBrk
  | nrRtSigaction | nrRtSigprocmask | nrRtSigreturn
  | nrClockGettime | nrGettimeofday
  | nrGetrandom
  | nrClone3
  | nrRseq
  | nrExecve | nrExecveat | nrOpen | nrOpenat | nrFork | nrVfork | nrPtrace
  | nrKill | nrTgkill | nrTkill | nrUnlink | nrChmod | nrChown
deriving DecidableEq, Repr

/-- the numbers of x86_64 -/
def Syscall.number : Syscall → UInt32
  | nrRead => 0
  | nrWrite => 1
  | nrOpen => 2
  | nrClose => 3
  | nrMmap => 9
  | nrMprotect => 10
  | nrMunmap => 11
  | nrBrk => 12
  | nrRtSigaction => 13
  | nrRtSigprocmask => 14
  | nrRtSigreturn => 15
  | nrWritev => 20
  | nrSelect => 23
  | nrMadvise => 28
  | nrGetpid => 39
  | nrSocket => 41
  | nrAccept => 43
  | nrSendto => 44
  | nrRecvfrom => 45
  | nrBind => 49
  | nrListen => 50
  | nrSetsockopt => 54
  | nrGetsockopt => 55
  | nrClone => 56
  | nrFork => 57
  | nrVfork => 58
  | nrExecve => 59
  | nrExit => 60
  | nrKill => 62
  | nrUnlink => 87
  | nrChmod => 90
  | nrChown => 92
  | nrGettimeofday => 96
  | nrPtrace => 101
  | nrGettid => 186
  | nrTkill => 200
  | nrFutex => 202
  | nrClockGettime => 228
  | nrExitGroup => 231
  | nrTgkill => 234
  | nrOpenat => 257
  | nrPselect6 => 270
  | nrSetRobustList => 273
  | nrAccept4 => 288
  | nrGetrandom => 318
  | nrExecveat => 322
  | nrRseq => 334
  | nrClone3 => 435

/-- `AUDIT_ARCH_X86_64` -/
def auditArchX8664 : UInt32 := 0xC000003E

/-- `__X32_SYSCALL_BIT` -/
def x32SyscallBit : UInt32 := 0x40000000

/-! ## The data of a call -/

/-- `struct seccomp_data` -/
structure SeccompData where
  nr : UInt32
  arch : UInt32
  instructionPointer : UInt64
  args : Fin 6 → UInt64

/-- its 32-bit words, the low half of a 64-bit member first -/
def SeccompData.words (d : SeccompData) : List UInt32 :=
  d.nr :: d.arch :: (d.instructionPointer :: List.ofFn d.args).flatMap fun w : UInt64 => [w.toUInt32, (w >>> 32).toUInt32]

/-- the word at a byte offset -/
def SeccompData.load (d : SeccompData) (offset : UInt32) : Option UInt32 :=
  if offset.toNat % 4 = 0 then d.words[offset.toNat / 4]? else none

/-- `offsetof(struct seccomp_data, nr)` -/
def offsetNr : UInt32 := 0

/-- `offsetof(struct seccomp_data, arch)` -/
def offsetArch : UInt32 := 4

/-! ## The filter -/

structure Headers where
  clone3 : Bool
  rseq : Bool
  killProcess : Bool
deriving DecidableEq, Repr

def seccompRetAllow : UInt32 := 0x7fff0000

/-- `SECCOMP_RET_KILL_PROCESS`, on older headers `SECCOMP_RET_KILL` -/
def seccompRetKillProcess (h : Headers) : UInt32 := if h.killProcess then 0x80000000 else 0

/-- `ALLOW` -/
def allow (c : Syscall) : List SockFilter := returnOn seccompRetAllow c.number

/-- the `ALLOW` entries of every build -/
def allowedAlways : List Syscall :=
  [ .nrRead, .nrWrite, .nrWritev, .nrClose,
    .nrSocket, .nrBind, .nrListen, .nrAccept, .nrAccept4, .nrSelect, .nrPselect6, .nrSetsockopt, .nrGetsockopt,
    .nrSendto, .nrRecvfrom,
    .nrExit, .nrExitGroup,
    .nrFutex, .nrClone, .nrSetRobustList, .nrGettid, .nrGetpid,
    .nrMmap, .nrMunmap, .nrMprotect, .nrMadvise, .nrBrk,
    .nrRtSigaction, .nrRtSigprocmask, .nrRtSigreturn,
    .nrClockGettime, .nrGettimeofday,
    .nrGetrandom ]

/-- all `ALLOW` entries, in order -/
def allowed (h : Headers) : List Syscall :=
  allowedAlways ++ (if h.clone3 then [.nrClone3] else []) ++ (if h.rseq then [.nrRseq] else [])

/-- the array of `install_child_seccomp` -/
def filter (h : Headers) : List SockFilter :=
  [ bpfStmt (bpfLd ||| bpfW ||| bpfAbs) offsetArch,
    bpfJump (bpfJmp ||| bpfJeq ||| bpfK) auditArchX8664 1 0,
    bpfStmt (bpfRet ||| bpfK) (seccompRetKillProcess h),
    bpfStmt (bpfLd ||| bpfW ||| bpfAbs) offsetNr ] ++
  (allowed h).flatMap allow ++
  [ bpfStmt (bpfRet ||| bpfK) (seccompRetKillProcess h) ]

/-- the verdict on a call; none when the program is left or faults -/
def verdict (h : Headers) (d : SeccompData) : Option UInt32 := exec d.load 0 0 (filter h)

end GpuHealth.Seccomp
