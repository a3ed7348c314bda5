/-
Classic BPF programs that decide on the words of their data. General: nothing here names a program.

An instruction is a `SockFilter`, its opcode a number. `exec` is the machine, for the opcodes of such programs: load a
word, jump on a constant, return a constant. All jumps go forward, over as many instructions as the offset says, so a
run is one pass over the program; `skip` counts the instructions still to be passed over. Its result is none when the
run leaves the program, loads what the data does not have, or meets another opcode.

`exec_returnsOn` is the rule of an allowlist: each entry a test for one value with a return behind it that a failed
test passes over.
-/
import Mathlib.Tactic

namespace GpuHealth.Bpf

/-- `struct sock_filter` -/
structure SockFilter where
  code : UInt16
  jt : UInt8
  jf : UInt8
  k : UInt32
deriving DecidableEq, Repr

/-! ## Opcodes -/

def bpfLd : UInt16 := 0x00
def bpfJmp : UInt16 := 0x05
def bpfRet : UInt16 := 0x06
def bpfW : UInt16 := 0x00
def bpfAbs : UInt16 := 0x20
def bpfJeq : UInt16 := 0x10
def bpfK : UInt16 := 0x00

/-- `BPF_STMT` -/
def bpfStmt (code : UInt16) (k : UInt32) : SockFilter := ⟨code, 0, 0, k⟩

/-- `BPF_JUMP` -/
def bpfJump (code : UInt16) (k : UInt32) (jt jf : UInt8) : SockFilter := ⟨code, jt, jf, k⟩

/-! ## The machine -/

/-- a run with `a` in the accumulator; `load` reads a word of the data -/
def exec (load : UInt32 → Option UInt32) : (skip : ℕ) → (a : UInt32) → List SockFilter → Option UInt32
  | _, _, [] => none
  | skip + 1, a, _ :: prog => exec load skip a prog
  | 0, a, f :: prog =>
    if f.code = bpfLd ||| bpfW ||| bpfAbs then (load f.k).bind fun w => exec load 0 w prog
    else if f.code = bpfJmp ||| bpfJeq ||| bpfK then exec load (if a = f.k then f.jt else f.jf).toNat a prog
    else if f.code = bpfRet ||| bpfK then some f.k
    else none

variable {load : UInt32 → Option UInt32}

theorem exec_load {a k w : UInt32} (h : load k = some w) (prog : List SockFilter) :
    exec load 0 a (bpfStmt (bpfLd ||| bpfW ||| bpfAbs) k :: prog) = exec load 0 w prog := by
  simp only [exec, bpfStmt, if_true, h, Option.bind_some]

theorem exec_jeq (a k : UInt32) (jt jf : UInt8) (prog : List SockFilter) :
    exec load 0 a (bpfJump (bpfJmp ||| bpfJeq ||| bpfK) k jt jf :: prog) =
      exec load (if a = k then jt else jf).toNat a prog := by
  have hload : bpfJmp ||| bpfJeq ||| bpfK ≠ bpfLd ||| bpfW ||| bpfAbs := by decide
  rw [bpfJump, exec, if_neg hload, if_pos rfl]

theorem exec_ret (a k : UInt32) (prog : List SockFilter) :
    exec load 0 a (bpfStmt (bpfRet ||| bpfK) k :: prog) = some k := by
  have hload : bpfRet ||| bpfK ≠ bpfLd ||| bpfW ||| bpfAbs := by decide
  have hjump : bpfRet ||| bpfK ≠ bpfJmp ||| bpfJeq ||| bpfK := by decide
  simp only [exec, bpfStmt, if_neg hload, if_neg hjump, if_true]

theorem exec_skip (skip : ℕ) (a : UInt32) (f : SockFilter) (prog : List SockFilter) :
    exec load (skip + 1) a (f :: prog) = exec load skip a prog := rfl

/-! ## Allowlists -/

/-- a test for `k`, and a return of `v` that a failed test passes over -/
def returnOn (v k : UInt32) : List SockFilter :=
  [bpfJump (bpfJmp ||| bpfJeq ||| bpfK) k 0 1, bpfStmt (bpfRet ||| bpfK) v]

theorem exec_returnOn (v k a : UInt32) (prog : List SockFilter) :
    exec load 0 a (returnOn v k ++ prog) = if a = k then some v else exec load 0 a prog := by
  rw [returnOn, List.cons_append, List.singleton_append, exec_jeq]
  by_cases hk : a = k
  · rw [if_pos hk, if_pos hk]
    exact exec_ret a v prog
  · rw [if_neg hk, if_neg hk]
    exact exec_skip 0 a _ prog

/-- **An allowlist returns on its entries, and goes on behind them otherwise.** -/
theorem exec_returnsOn (v a : UInt32) (ks : List UInt32) (prog : List SockFilter) :
    exec load 0 a (ks.flatMap (returnOn v) ++ prog) = if a ∈ ks then some v else exec load 0 a prog := by
  induction ks with
  | nil => rw [List.flatMap_nil, List.nil_append, if_neg List.not_mem_nil]
  | cons k ks ih =>
    rw [List.flatMap_cons, List.append_assoc, exec_returnOn, ih]
    by_cases hk : a = k
    · rw [if_pos hk, if_pos (hk ▸ List.mem_cons_self)]
    · have hmem : a ∈ k :: ks ↔ a ∈ ks := by rw [List.mem_cons, or_iff_right hk]
      rw [if_neg hk]
      simp only [hmem]

end GpuHealth.Bpf
