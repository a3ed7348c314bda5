/-
Readers of the files that are replaced by renaming, while the writers are at work.

Writers may be cut off anywhere, fail in every call, and write only a part of their text; the exporter and others read
at any time, a piece at a time; the system calls come in any order (`FilePublication`). For each file one writer is
active at a time, as the probe program is run; a later one may start wherever an earlier one has stopped.

- `replaceFile_result`: in every state a run reaches, a writer that returns 0 has put its text, as far as it reached the
  file, in place of the old version; one that returns -1 has left the old version; and no reader notices.
- `probe_read_whole`: whatever `probe_load` reads is not available, or agrees with one finished run of the probe program
  in every field. A truncated file is never taken: its last line, the exit code, is required (`CutFiles.probe_cut`).
- `baseline_read_whole`: what `baseline_load` accepts agrees with one finished run, but for the number of samples, which
  may have lost its last digits when the disk was full. The last line of this file is a number, and a number cut short is
  a number.
When no write has failed, both agree in everything.
-/
import GpuHealth.FileWriters
import GpuHealth.Scenarios.CutFiles

namespace GpuHealth.WholeFiles

open GpuHealth.CutFiles GpuHealth.FilePublication GpuHealth.FileWriters GpuHealth.ProbeRoundTrip GpuHealth.Runs
open GpuHealth.State

variable {K : Type} [Arith K] {R : Type} [DecidableEq R]

/-! ## One call -/

/-- what a process that opens the name now will read -/
def content (s : State CStr Char R) (a : CStr) : Option CStr := (s.store.names a).map s.store.data

/-- what a reader has open is as it was -/
def Undisturbed (s s' : State CStr Char R) : Prop :=
  s'.reading = s.reading ∧ ∀ r file got, s.reading r = some (file, got) → s'.store.data file = s.store.data file

/-- the state in which the text, as far as it goes, is in the temporary file -/
theorem start_write (t : Target) {s : State CStr Char R} (h : Inv t.path t.tmp s) (hidle : s.writer = .idle)
    (text : CStr) (k : ℕ) :
    ∃ s' file, run (step t.path t.tmp) s [.start text, .write k] = s' ∧ Inv t.path t.tmp s' ∧
      s'.writer = .writing file text (text.drop k) ∧ s'.store.names t.tmp = some file ∧
      s'.store.data file = text.take k ∧ content s' t.path = content s t.path ∧ Undisturbed s s' := by
  have hinv : Inv t.path t.tmp (run (step t.path t.tmp) s [.start text, .write k]) := by
    rw [run_cons, run_cons, run_nil]
    exact inv_step (inv_step h t.ne _) t.ne _
  obtain ⟨hname, hother, hempty, hdata, -, -, hwhich⟩ := create_spec s.store t.tmp h.temporary
  set file := (s.store.create t.tmp).2 with hfile
  have hrun : run (step t.path t.tmp) s [.start text, .write k] =
      { s with
        store := (s.store.create t.tmp).1.append file (text.take k), writer := .writing file text (text.drop k) } := by
    simp only [run_cons, run_nil, step, hidle]
    rfl
  have happend : ∀ other, other ≠ file →
      ((s.store.create t.tmp).1.append file (text.take k)).data other = s.store.data other :=
    fun other hne => (Function.update_of_ne hne _ _).trans (hdata other hne)
  have hapart : ∀ other, Settled t.tmp s other → other ≠ file := by
    rintro other hother rfl
    rcases hwhich with hnew | hold
    · exact absurd hother.exists_ (by rw [hnew]; exact lt_irrefl _)
    · exact hother.apart hold
  rw [hrun] at hinv ⊢
  refine ⟨_, file, rfl, hinv, rfl, hname, ?_, ?_, rfl, ?_⟩
  · dsimp only [Store.append]
    rw [Function.update_self, hempty, List.nil_append]
  · dsimp only [content]
    have hpath : ((s.store.create t.tmp).1.append file (text.take k)).names t.path = s.store.names t.path :=
      hother t.path t.ne
    rw [hpath]
    cases hcur : s.store.names t.path with
    | none => rfl
    | some cur => exact congrArg some (happend cur (hapart cur (h.current cur hcur)))
  · intro r other got hr
    exact happend other (hapart other (h.reads r other got hr).1)

/-- the result of a writer, in a state that a run can reach -/
theorem replaceFile_spec (t : Target) {s : State CStr Char R} (hinv : Inv t.path t.tmp s) (hidle : s.writer = .idle)
    (text : CStr) (a : FileAnswers) :
    let s' := run (step t.path t.tmp) s (replaceFile text a).1
    s'.writer = .idle ∧ Undisturbed s s' ∧
      ((replaceFile (R := R) text a).2 = 0 → content s' t.path = some (text.take a.accepted)) ∧
      ((replaceFile (R := R) text a).2 ≠ 0 → content s' t.path = content s t.path) := by
  intro s'
  obtain ⟨s₁, file, hrun, -, hwriter, hname, hdata, hcontent, hreading, hfiles⟩ :=
    start_write t hinv hidle text a.accepted
  have hthird : ∀ op, run (step t.path t.tmp) s [.start text, .write a.accepted, op] = step t.path t.tmp s₁ op := by
    intro op
    rw [← hrun]
    rfl
  cases hopen : a.fopen with
  | false =>
    have hcalls : replaceFile (R := R) text a = ([], -1) := by rw [replaceFile, hopen]; rfl
    have hs' : s' = s := by
      dsimp only [s']
      rw [hcalls]
      rfl
    rw [hs', hcalls]
    exact ⟨hidle, ⟨rfl, fun _ _ _ _ => rfl⟩, fun h => absurd h (show (-1 : ℤ) ≠ 0 by decide), fun _ => rfl⟩
  | true =>
    cases hrename : a.rename with
    | true =>
      have hcalls : replaceFile (R := R) text a = ([.start text, .write a.accepted, .publish], 0) := by
        rw [replaceFile, hopen, hrename]
        rfl
      have hs' : s' = step t.path t.tmp s₁ .publish := by
        dsimp only [s']
        rw [hcalls]
        exact hthird _
      have hpublish : step t.path t.tmp s₁ .publish = { s₁ with
          store := s₁.store.rename t.tmp t.path
          writer := .idle
          versions := s₁.versions ++ [⟨text, s₁.store.data file⟩] } := by rw [step, hwriter]
      rw [hs', hcalls, hpublish]
      refine ⟨rfl, ⟨hreading, hfiles⟩, fun _ => ?_, fun h => absurd rfl h⟩
      have hpath : (s₁.store.rename t.tmp t.path).names t.path = some file := by
        rw [Store.rename, hname]
        exact (Function.update_of_ne t.ne _ _).trans (Function.update_self _ _ _)
      dsimp only [content]
      rw [hpath, Option.map_some]
      exact congrArg some hdata
    | false =>
      have hcalls : replaceFile (R := R) text a =
          ([.start text, .write a.accepted, if a.unlink then .withdraw else .crash], -1) := by
        rw [replaceFile, hopen, hrename]
        rfl
      have hs' : s' = step t.path t.tmp s₁ (if a.unlink then .withdraw else .crash) := by
        dsimp only [s']
        rw [hcalls]
        exact hthird _
      rw [hs', hcalls]
      cases a.unlink with
      | false => exact ⟨rfl, ⟨hreading, hfiles⟩, fun h => absurd h (show (-1 : ℤ) ≠ 0 by decide), fun _ => hcontent⟩
      | true =>
        have hwithdraw : step t.path t.tmp s₁ .withdraw =
            { s₁ with store := s₁.store.unlink t.tmp, writer := .idle } := by rw [step, hwriter]
        rw [if_pos rfl, hwithdraw]
        refine ⟨rfl, ⟨hreading, hfiles⟩, fun h => absurd h (show (-1 : ℤ) ≠ 0 by decide), fun _ => ?_⟩
        have hpath : (s₁.store.unlink t.tmp).names t.path = s₁.store.names t.path := Function.update_of_ne t.ne _ _
        dsimp only [content] at hcontent ⊢
        rw [hpath]
        exact hcontent

/-- **The result of a writer**, whatever has happened before. -/
theorem replaceFile_result (t : Target) (old : Option CStr) (ops : List (Op Char R))
    (hidle : (run (step t.path t.tmp) (start t.path old : State CStr Char R) ops).writer = .idle) (text : CStr)
    (a : FileAnswers) :
    let s := run (step t.path t.tmp) (start t.path old : State CStr Char R) ops
    let s' := run (step t.path t.tmp) s (replaceFile text a).1
    s'.writer = .idle ∧ Undisturbed s s' ∧
      ((replaceFile (R := R) text a).2 = 0 → content s' t.path = some (text.take a.accepted)) ∧
      ((replaceFile (R := R) text a).2 ≠ 0 → content s' t.path = content s t.path) :=
  replaceFile_spec t (FilePublication.run_inv t.ne old ops) hidle text a

/-- a writer that was cut off has left its temporary file; the next one writes "ab", and the disk takes all of it -/
theorem replaceFile_result_after_crash :
    content (run (step (filesdTarget []).path (filesdTarget []).tmp) (start (filesdTarget []).path none : State CStr Char Unit)
      [.start ['z', 'z'], .write 1, .crash, .start ['a', 'b'], .write 2, .publish]) (filesdTarget []).path =
        some ['a', 'b'] := by
  have hresult := replaceFile_result (filesdTarget []) none
    ([.start ['z', 'z'], .write 1, .crash] : List (Op Char Unit)) rfl ['a', 'b'] ⟨true, 2, true, true⟩
  exact hresult.2.2.1 rfl

/-! ## The exporter's reads -/

/-- the file that was there, and what the writers start with, are files of the probe program -/
def Writes (file : ProbeRun → CStr) (old : Option ProbeRun) (ops : List (Op Char R)) (p : ProbeRun) : Prop :=
  old = some p ∨ .start (file p) ∈ ops

variable {file : ProbeRun → CStr} {t : Target} {old : Option ProbeRun} {ops : List (Op Char R)}

/-- what a reader has at the end of the file is the beginning of one text, and all of it if no write has failed -/
theorem read_part (hops : ∀ text, .start text ∈ ops → ∃ p, text = file p) {r : R} {node : ℕ} {got : CStr}
    (hread : (run (step t.path t.tmp) (start t.path (old.map file) : State CStr Char R) ops).reading r = some (node, got))
    (hend : got.length =
      ((run (step t.path t.tmp) (start t.path (old.map file) : State CStr Char R) ops).store.data node).length) :
    ∃ p k, Writes file old ops p ∧ got = (file p).take k ∧ (AtEveryStep (fun pre op =>
      Complete (run (step t.path t.tmp) (start t.path (old.map file) : State CStr Char R) pre) op) ops →
        got = file p) := by
  have hinv := FilePublication.run_inv (R := R) t.ne (old.map file) ops
  obtain ⟨v, hv, hgot⟩ := read_whole hinv hread hend
  have hpart : got = v.text.take got.length := by
    rw [hgot]
    exact (List.prefix_iff_eq_take.1 (hinv.parts v hv))
  have hwhole := fun hc => versions_complete (R := R) t.ne (old.map file) hc v hv
  have hstarted := (versions_started (old.map file) ops).1 v hv
  rcases hstarted with hold | hstart
  · obtain ⟨p, hp, hfile⟩ := Option.map_eq_some_iff.1 hold
    refine ⟨p, got.length, Or.inl hp, ?_, fun hc => ?_⟩
    · rw [hfile]
      exact hpart
    · rw [hgot, hwhole hc, hfile]
  · obtain ⟨p, hfile⟩ := hops v.text hstart
    refine ⟨p, got.length, Or.inr (hfile ▸ hstart), ?_, fun hc => ?_⟩
    · rw [← hfile]
      exact hpart
    · rw [hgot, hwhole hc, hfile]

theorem probe_part (p : ProbeRun) (k : ℕ) (ttl : ℤ) (now : UInt64) :
    (probeLoad (some (p.probeFile.take k)) ttl now : GpuProbeResult K).available = 0 ∨
      ProbeAgrees p (probeLoad (some (p.probeFile.take k)) ttl now : GpuProbeResult K) := by
  rcases probe_cut (K := K) p k ttl now with hnone | hsame
  · exact Or.inl hnone
  · right
    rw [hsame]
    exact probe_agrees p ttl now

/-- **The exporter reads whole probe results.** -/
theorem probe_read_whole (stateDir serial : CStr) (old : Option ProbeRun) (ops : List (Op Char R))
    (hops : ∀ text, .start text ∈ ops → ∃ p : ProbeRun, text = p.probeFile) (r : R) (node : ℕ) (got : CStr)
    (hread : (run (step (probeTarget stateDir serial).path (probeTarget stateDir serial).tmp)
      (start (probeTarget stateDir serial).path (old.map ProbeRun.probeFile) : State CStr Char R) ops).reading r =
        some (node, got))
    (hend : got.length = ((run (step (probeTarget stateDir serial).path (probeTarget stateDir serial).tmp)
      (start (probeTarget stateDir serial).path (old.map ProbeRun.probeFile) : State CStr Char R) ops).store.data
        node).length) (ttl : ℤ) (now : UInt64) :
    ((probeLoad (some got) ttl now : GpuProbeResult K).available = 0 ∨
      ∃ p, Writes ProbeRun.probeFile old ops p ∧ ProbeAgrees p (probeLoad (some got) ttl now : GpuProbeResult K)) ∧
    (AtEveryStep (fun pre op => Complete (run (step (probeTarget stateDir serial).path (probeTarget stateDir serial).tmp)
      (start (probeTarget stateDir serial).path (old.map ProbeRun.probeFile) : State CStr Char R) pre) op) ops →
      ∃ p, Writes ProbeRun.probeFile old ops p ∧ ProbeAgrees p (probeLoad (some got) ttl now : GpuProbeResult K)) := by
  obtain ⟨p, k, hwrites, hpart, hwhole⟩ := read_part hops hread hend
  constructor
  · rw [hpart]
    exact (probe_part p k ttl now).imp_right fun h => ⟨p, hwrites, h⟩
  · intro hcomplete
    refine ⟨p, hwrites, ?_⟩
    rw [hwhole hcomplete]
    exact probe_agrees p ttl now

/-- a probe result is read while the next one is written -/
def probeOps : List (Op Char Unit) :=
  [.start sampleRun.probeFile, .write 40, .openRead (), .read () 7, .write 1000, .read () 1000, .publish]

theorem probe_read_whole_sample :
    ∃ p, Writes ProbeRun.probeFile (some sampleRun) probeOps p ∧
      ProbeAgrees p (probeLoad (some sampleRun.probeFile) 86400 0 : GpuProbeResult ℚ) := by
  have hops : ∀ text, .start text ∈ probeOps → ∃ p : ProbeRun, text = p.probeFile := by
    intro text hmem
    simp only [probeOps, List.mem_cons, Op.start.injEq, reduceCtorEq, List.not_mem_nil, or_false] at hmem
    exact ⟨sampleRun, hmem⟩
  have hwhole := (probe_read_whole (K := ℚ) [] [] (some sampleRun) probeOps hops () 0 sampleRun.probeFile
    (by decide +kernel) (by decide +kernel) 86400 0).1
  rcases hwhole with hnone | hsome
  · exact absurd hnone (by rw [(probe_agrees (K := ℚ) sampleRun 86400 0).available]; decide)
  · exact hsome

theorem accepted_of_valid {file serial : CStr} (h : (baselineLoad (some file) serial : GpuBaseline K).valid = 1) :
    (baselineScan file : BaselineScan K).accepted serial := by
  by_contra hno
  rw [baselineLoad_rejected hno] at h
  exact absurd h (by decide)

/-- but for the number of samples, which may have lost digits -/
structure BaselineAgreesUpToCount (p : ProbeRun) (j : ℕ) (b : GpuBaseline K) : Prop where
  agrees : BaselineAgrees p { b with sampleCount := (p.sampleCount : ℤ) }
  sampleCount : b.sampleCount = ((p.sampleCount / 10 ^ j : ℕ) : ℤ)
  some_left : 10 ^ j ≤ p.sampleCount

theorem baseline_part (p : ProbeRun) (k : ℕ) {serial : CStr}
    (hvalid : (baselineLoad (some (p.baselineFile.take k)) serial : GpuBaseline K).valid = 1) :
    p.serial = serial ∧ ∃ j,
      BaselineAgreesUpToCount p j (baselineLoad (some (p.baselineFile.take k)) serial : GpuBaseline K) := by
  rcases baseline_cut (K := K) p k serial with hnone | ⟨j, hj, hcut⟩
  · rw [hnone] at hvalid
    exact absurd hvalid (by decide)
  · rw [hcut] at hvalid ⊢
    have hagrees := baseline_agrees (K := K) p
    obtain rfl : p.serial = serial :=
      (accepted_of_valid hagrees.valid).2.2.1.symm.trans (accepted_of_valid hvalid).2.2.1
    have hsame : (baselineLoad (some p.baselineFile) p.serial : GpuBaseline K) =
        { (baselineLoad (some p.baselineFile) p.serial : GpuBaseline K) with sampleCount := (p.sampleCount : ℤ) } := by
      rw [← hagrees.sampleCount]
    exact ⟨rfl, j, ⟨hsame ▸ hagrees, rfl, hj⟩⟩

/-- **The exporter reads whole baselines, but for the number of samples.** -/
theorem baseline_read_whole (baselineDir serial : CStr) (old : Option ProbeRun) (ops : List (Op Char R))
    (hops : ∀ text, .start text ∈ ops → ∃ p : ProbeRun, text = p.baselineFile) (r : R) (node : ℕ) (got : CStr)
    (hread : (run (step (baselineTarget baselineDir serial).path (baselineTarget baselineDir serial).tmp)
      (start (baselineTarget baselineDir serial).path (old.map ProbeRun.baselineFile) : State CStr Char R) ops).reading r =
        some (node, got))
    (hend : got.length = ((run (step (baselineTarget baselineDir serial).path (baselineTarget baselineDir serial).tmp)
      (start (baselineTarget baselineDir serial).path (old.map ProbeRun.baselineFile) : State CStr Char R) ops).store.data
        node).length)
    (hvalid : (baselineLoad (some got) serial : GpuBaseline K).valid = 1) :
    ∃ p j, Writes ProbeRun.baselineFile old ops p ∧ p.serial = serial ∧
      BaselineAgreesUpToCount p j (baselineLoad (some got) serial : GpuBaseline K) ∧
      (AtEveryStep (fun pre op => Complete (run (step (baselineTarget baselineDir serial).path
        (baselineTarget baselineDir serial).tmp) (start (baselineTarget baselineDir serial).path
          (old.map ProbeRun.baselineFile) : State CStr Char R) pre) op) ops →
        BaselineAgrees p (baselineLoad (some got) serial : GpuBaseline K)) := by
  obtain ⟨p, k, hwrites, hpart, hwhole⟩ := read_part hops hread hend
  rw [hpart] at hvalid ⊢
  obtain ⟨rfl, j, hupto⟩ := baseline_part p k hvalid
  refine ⟨p, j, hwrites, rfl, hupto, fun hc => ?_⟩
  rw [← hpart, hwhole hc]
  exact baseline_agrees p

/-- the disk is full when two characters are left -/
def fullDiskOps : List (Op Char Unit) :=
  [.start sampleRun.baselineFile, .write (sampleRun.baselineFile.length - 2), .publish, .openRead (), .read () 1000]

def fullDiskFile : CStr := sampleRun.baselineFile.take (sampleRun.baselineFile.length - 2)

theorem baseline_read_whole_full :
    (baselineLoad (some fullDiskFile) sampleRun.serial : GpuBaseline ℚ).sampleCount = 30 ∧
    ∃ p j, Writes ProbeRun.baselineFile none fullDiskOps p ∧ p.serial = sampleRun.serial ∧
      BaselineAgreesUpToCount p j (baselineLoad (some fullDiskFile) sampleRun.serial : GpuBaseline ℚ) := by
  have hops : ∀ text, .start text ∈ fullDiskOps → ∃ p : ProbeRun, text = p.baselineFile := by
    intro text hmem
    simp only [fullDiskOps, List.mem_cons, Op.start.injEq, reduceCtorEq, List.not_mem_nil, or_false] at hmem
    exact ⟨sampleRun, hmem⟩
  obtain ⟨p, j, hwrites, hserial, hagrees, -⟩ := baseline_read_whole (K := ℚ) [] sampleRun.serial none fullDiskOps hops
    () 1 fullDiskFile (by decide +kernel) (by decide +kernel) (by decide +kernel)
  exact ⟨by decide +kernel, p, j, hwrites, hserial, hagrees⟩

end GpuHealth.WholeFiles
