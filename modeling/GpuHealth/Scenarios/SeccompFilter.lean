/-
The seccomp filter decides exactly its allowlist.

`decides_allowlist`: for every build and every data of a call (any audit architecture, any number, any arguments) the
filter ends inside its program, with `SECCOMP_RET_ALLOW` exactly for an x86_64 call whose number is that of an `ALLOW`
entry, and with `SECCOMP_RET_KILL_PROCESS` for every other call. So numbers with the x32 bit, and the calls that the
file excludes by name (`execve`, `open`, `openat` among them), are always killed.
-/
import GpuHealth.Seccomp

namespace GpuHealth.SeccompFilter

open GpuHealth.Bpf GpuHealth.Seccomp

/-! ## The property -/

/-- an x86_64 call whose number is that of an `ALLOW` entry -/
def Allowed (h : Headers) (d : SeccompData) : Prop := d.arch = auditArchX8664 ∧ d.nr ∈ (allowed h).map Syscall.number

instance (h : Headers) (d : SeccompData) : Decidable (Allowed h d) := inferInstanceAs (Decidable (_ ∧ _))

/-- the calls "excluded intentionally" -/
def excluded : List Syscall :=
  [ .nrExecve, .nrExecveat, .nrOpen, .nrOpenat, .nrFork, .nrVfork, .nrPtrace, .nrKill, .nrTgkill, .nrTkill, .nrUnlink,
    .nrChmod, .nrChown ]

structure DecidesAllowlist (h : Headers) : Prop where
  /-- `prog.len` is the length of the array, and one that the kernel takes -/
  size : (filter h).length ≤ 4096
  verdict : ∀ d, verdict h d = some (if Allowed h d then seccompRetAllow else seccompRetKillProcess h)
  distinct : seccompRetAllow ≠ seccompRetKillProcess h
  x32 : ∀ d : SeccompData, d.nr &&& x32SyscallBit ≠ 0 → ¬ Allowed h d
  excluded : ∀ d : SeccompData, d.nr ∈ excluded.map Syscall.number → ¬ Allowed h d

/-! ## The run -/

theorem load_arch (d : SeccompData) : d.load offsetArch = some d.arch := rfl

theorem load_nr (d : SeccompData) : d.load offsetNr = some d.nr := rfl

theorem allow_entries (cs : List Syscall) :
    cs.flatMap allow = (cs.map Syscall.number).flatMap (returnOn seccompRetAllow) := by
  rw [List.flatMap_map]
  rfl

theorem verdict_eq (h : Headers) (d : SeccompData) :
    verdict h d = some (if Allowed h d then seccompRetAllow else seccompRetKillProcess h) := by
  unfold verdict filter
  simp only [List.cons_append, List.nil_append]
  rw [exec_load (load_arch d), exec_jeq]
  by_cases harch : d.arch = auditArchX8664
  · -- the jump passes over the return
    rw [if_pos harch]
    change exec d.load 1 d.arch _ = _
    rw [exec_skip, exec_load (load_nr d), allow_entries, exec_returnsOn, exec_ret]
    by_cases hnr : d.nr ∈ (allowed h).map Syscall.number
    · rw [if_pos hnr, if_pos ⟨harch, hnr⟩]
    · rw [if_neg hnr, if_neg fun hallowed => hnr hallowed.2]
  · rw [if_neg harch, if_neg fun hallowed => harch hallowed.1]
    exact exec_ret _ _ _

/-! ## The allowlist -/

/-- the entries of a build with both optional calls -/
def allEntries : List Syscall := allowedAlways ++ [.nrClone3, .nrRseq]

theorem allowed_subset (h : Headers) : allowed h ⊆ allEntries := by
  intro c hc
  rw [allowed, List.append_assoc, List.mem_append] at hc
  refine List.mem_append.2 (hc.imp_right fun hoptional => ?_)
  rcases List.mem_append.1 hoptional with hclone3 | hrseq
  · split_ifs at hclone3
    · exact List.mem_cons.2 (Or.inl (List.mem_singleton.1 hclone3))
    · cases hclone3
  · split_ifs at hrseq
    · exact List.mem_cons_of_mem _ hrseq
    · cases hrseq

/-- no entry has the x32 bit -/
theorem entry_x32 : ∀ c ∈ allEntries, c.number &&& x32SyscallBit = 0 := by decide

/-- no entry has the number of an excluded call -/
theorem entry_excluded : ∀ c ∈ allEntries, c.number ∉ excluded.map Syscall.number := by decide

/-- **The filter decides its allowlist**, for every build. -/
theorem decides_allowlist (h : Headers) : DecidesAllowlist h := by
  refine ⟨?_, verdict_eq h, ?_, ?_, ?_⟩
  · obtain ⟨clone3, rseq, killProcess⟩ := h
    cases clone3 <;> cases rseq <;> exact Nat.le_of_ble_eq_true rfl
  · unfold seccompRetKillProcess
    split_ifs <;> decide
  · rintro d hx32 ⟨-, hmem⟩
    obtain ⟨c, hc, hnumber⟩ := List.mem_map.1 hmem
    exact hx32 (hnumber ▸ entry_x32 c (allowed_subset h hc))
  · rintro d hexcluded ⟨-, hmem⟩
    obtain ⟨c, hc, hnumber⟩ := List.mem_map.1 hmem
    exact entry_excluded c (allowed_subset h hc) (hnumber ▸ hexcluded)

end GpuHealth.SeccompFilter
