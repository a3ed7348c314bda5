/-
The files the probe program writes (`write_probe_file`, `write_baseline_file`, `probe/gpu_health_probe.cu`).

A file is the text of the writer's `fprintf` calls; opening, closing and renaming it are taken to succeed. The strings
and numbers are the arguments of the call: `workloadText` is how `main` forms the workload, `iso8601` the time stamp.
-/
import GpuHealth.Calendar

namespace GpuHealth.ProbeWriter

open GpuHealth.CText GpuHealth.Decimal GpuHealth.NumberText

/-- `fprintf(f, "key=…\n", val)` -/
def keyLine (key val : CStr) : CStr := key ++ '=' :: val ++ ['\n']

def probeFileLines (serial timestamp : CStr) (perfWMean durationS : Dbl ℚ) (sampleCount : ℤ) (workload : CStr) :
    List CStr :=
  [ "# Written by gpu_health_probe 0.1.0\n".toList,
    keyLine "serial".toList serial,
    keyLine "probe_timestamp".toList timestamp,
    keyLine "probe_duration_s".toList (printF 3 durationS),
    keyLine "perf_w_mean".toList (printF 6 perfWMean),
    keyLine "workload".toList workload,
    keyLine "sample_count".toList (intText sampleCount),
    "probe_exit_code=0\n".toList ]

def writeProbeFile (serial timestamp : CStr) (perfWMean durationS : Dbl ℚ) (sampleCount : ℤ) (workload : CStr) : CStr :=
  (probeFileLines serial timestamp perfWMean durationS sampleCount workload).flatten

def baselineFileLines (serial uuid driverVersion timestamp : CStr) (perfWMean : Dbl ℚ) (sampleCount : ℤ)
    (workload : CStr) : List CStr :=
  [ "# Written by gpu_health_probe 0.1.0 --establish-baseline\n".toList,
    keyLine "serial".toList serial ] ++
  (if uuid = [] then [] else [keyLine "uuid".toList uuid]) ++
  (if driverVersion = [] then [] else [keyLine "driver_version".toList driverVersion]) ++
  [ keyLine "perf_w_mean".toList (printF 6 perfWMean),
    keyLine "established_at".toList timestamp,
    keyLine "workload".toList workload,
    keyLine "sample_count".toList (intText sampleCount) ]

def writeBaselineFile (serial uuid driverVersion timestamp : CStr) (perfWMean : Dbl ℚ) (sampleCount : ℤ)
    (workload : CStr) : CStr :=
  (baselineFileLines serial uuid driverVersion timestamp perfWMean sampleCount workload).flatten

/-- `snprintf(workload, 64, …)` in `main` -/
def workloadText (matrixN : ℤ) : CStr :=
  safeStrncpy ("bf16_gemm_".toList ++ intText matrixN ++ "_tflops_per_w".toList) 64

end GpuHealth.ProbeWriter
