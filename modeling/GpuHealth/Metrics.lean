/-
The NaN-aware gauges of `/metrics` (`M_GAUGE_NAN` and the memory bandwidth gauge of `render_metrics`, `src/http.c`).

One sample line is `name{serial="…"} value`. How `printf` writes a double that is not NaN is a parameter (`Printf`).
-/
import GpuHealth.Types

namespace GpuHealth.Metrics

variable {K : Type} [Arith K]

/-- the conversions `%.6g` and `%.4f` -/
structure Printf (K : Type) where
  g6 : Dbl K → CStr
  f4 : Dbl K → CStr

def sampleLine (name serial value : CStr) : CStr :=
  name ++ "\x7bserial=\"".toList ++ serial ++ "\"\x7d ".toList ++ value ++ "\n".toList

def nanText : CStr := "NaN".toList

/-- `M_GAUGE_NAN` -/
def gaugeNan (printf : Printf K) (name serial : CStr) (val : Dbl K) : CStr :=
  if val.isnan then sampleLine name serial nanText else sampleLine name serial (printf.g6 val)

def boardPowerLine (printf : Printf K) (s : GpuSnapshot K) : CStr :=
  gaugeNan printf "gpu_board_power_watts".toList s.serial s.boardPowerW

def energyLine (printf : Printf K) (s : GpuSnapshot K) : CStr :=
  gaugeNan printf "gpu_energy_joules_total".toList s.serial s.energyJ

/-- emitted as a ratio -/
def memBwLine (printf : Printf K) (s : GpuSnapshot K) : CStr :=
  let name := "gpu_memory_bandwidth_utilization_ratio".toList
  if s.memBwUtilPct.isnan then sampleLine name s.serial nanText
  else sampleLine name s.serial (printf.f4 (s.memBwUtilPct / .fin 100))

end GpuHealth.Metrics
