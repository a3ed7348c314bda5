/-
The files that are written under a temporary name and renamed: the targets file (`filesd_write`, `filesd_remove`,
`src/filesd.c`), the probe result and the baseline (`write_probe_file`, `write_baseline_file`,
`probe/gpu_health_probe.cu`).

The three writers make the same calls: `fopen` of the temporary name, the text, `fclose`, `rename`, and `unlink` of the
temporary name when the rename fails. They look at the results of `fopen` and `rename` only: a text that does not reach
the file whole (the disk is full) is renamed all the same. `FileAnswers` is what the file system answers; a text is
shorter than a stdio buffer and reaches the file in order, so a failed write leaves a beginning of it.

The calls are operations of `FilePublication`, where other processes read. A `Target` is a file with its temporary name.
-/
import GpuHealth.Core.FilePublication
import GpuHealth.ProbeWriter
import GpuHealth.Types

namespace GpuHealth.FileWriters

open GpuHealth.CText GpuHealth.Decimal GpuHealth.FilePublication

/-! ## Names -/

structure Target where
  path : CStr
  tmp : CStr
  ne : path ≠ tmp

/-- `snprintf` into a buffer of `size` -/
def name (size : ℕ) (text : CStr) : CStr := text.take (size - 1)

/-- a name and the same with ".tmp", in buffers that differ by at least one character -/
theorem name_ne_tmp {size size' : ℕ} (h : size < size') (h1 : 1 ≤ size) (text : CStr) :
    name size text ≠ name size' (text ++ ".tmp".toList) := by
  intro heq
  have hlen := congrArg List.length heq
  simp only [name, List.length_take, List.length_append] at hlen
  have hfour : (".tmp".toList : CStr).length = 4 := rfl
  omega

/-- `{state_dir}/{serial}.probe` -/
def probePath (stateDir serial : CStr) : CStr := stateDir ++ '/' :: serial ++ ".probe".toList

def baselinePath (baselineDir serial : CStr) : CStr := baselineDir ++ '/' :: serial

def probeTarget (stateDir serial : CStr) : Target :=
  ⟨name 512 (probePath stateDir serial), name 520 (probePath stateDir serial ++ ".tmp".toList),
    name_ne_tmp (by decide) (by decide) _⟩

def baselineTarget (baselineDir serial : CStr) : Target :=
  ⟨name 512 (baselinePath baselineDir serial), name 520 (baselinePath baselineDir serial ++ ".tmp".toList),
    name_ne_tmp (by decide) (by decide) _⟩

/-- the configured path is in a buffer of 256 characters -/
def filesdTarget (path : CStr) : Target :=
  ⟨name 256 path, name 260 (path ++ ".tmp".toList), name_ne_tmp (by decide) (by decide) _⟩

/-! ## Calls -/

/-- what the file system answers; of the text, `accepted` characters reach the file -/
structure FileAnswers where
  fopen : Bool
  accepted : ℕ
  rename : Bool
  unlink : Bool

variable {R : Type}

/-- the calls of a writer, and 0 or -1 -/
def replaceFile (text : CStr) (a : FileAnswers) : List (Op Char R) × ℤ :=
  if a.fopen then
    if a.rename then ([.start text, .write a.accepted, .publish], 0)
    else ([.start text, .write a.accepted, if a.unlink then .withdraw else .crash], -1)
  else ([], -1)

def writeProbeFile (serial timestamp : CStr) (perfWMean durationS : Dbl ℚ) (sampleCount : ℤ) (workload : CStr)
    (a : FileAnswers) : List (Op Char R) × ℤ :=
  replaceFile (ProbeWriter.writeProbeFile serial timestamp perfWMean durationS sampleCount workload) a

def writeBaselineFile (serial uuid driverVersion timestamp : CStr) (perfWMean : Dbl ℚ) (sampleCount : ℤ)
    (workload : CStr) (a : FileAnswers) : List (Op Char R) × ℤ :=
  replaceFile (ProbeWriter.writeBaselineFile serial uuid driverVersion timestamp perfWMean sampleCount workload) a

def filesdText (hostname : CStr) (port : ℤ) : CStr :=
  "[\x7b\"targets\":[\"".toList ++ hostname ++ ':' :: intText port ++
    "\"],\"labels\":\x7b\"job\":\"gpu-health\"\x7d\x7d]\n".toList

/-- `hostname` is none when `gethostname` fails -/
def filesdWrite {K : Type} (cfg : GpuConfig K) (hostname : Option CStr) (a : FileAnswers) : List (Op Char R) :=
  if cfg.str .fileSdPath = [] then []
  else
    match hostname with
    | none => []
    | some hostname => (replaceFile (filesdText (name 256 hostname) (cfg.int .listenPort)) a).1

/-- a failed `unlink` is logged -/
def filesdRemove {K : Type} (cfg : GpuConfig K) (unlink : Bool) : List (Op Char R) :=
  if cfg.str .fileSdPath = [] then [] else if unlink then [.remove] else []

end GpuHealth.FileWriters
