/-
One DCGM poll (`dcgm_poll` of `src/dcgm.c`, `apply_dcgm_state` of `src/collector.c`).

`GetLatestValues` answers with a return code and one entry for each subscribed field; entries come in the order of
`POLL_FIELDS`, so an entry is looked up by its field here. The value union of an entry is its 64 bits, read as `i64` or
as an IEEE double (`dbl`). `UpdateAllFields` only triggers a refresh and its failure is only logged, so it is left out.

`dcgmPoll_eq`: a poll succeeds exactly when `GetLatestValues` does, and then each output field is what its own entry
decodes to (`dcgmFields`), or the sentinel. `applyDcgmState` copies the fields that differ from their sentinel.
-/
import GpuHealth.Nvml

namespace GpuHealth.Dcgm

open GpuHealth.Nvml

/-! ## Entries -/

inductive PollField where
  | powerUsage
  | totalEnergyConsumption
  | memCopyUtil
  | powerViolation
  | thermalViolation
  | nvlinkCrcFlitErrorCountTotal
  | nvlinkReplayErrorCountTotal
  | nvlinkRecoveryErrorCountTotal
  | xidErrors
  | lastXid
  | pcieReplayCounter
  | rowRemapFailure
deriving DecidableEq, Repr

/-- `POLL_FIELDS` -/
def pollFields : List PollField := [
  .powerUsage, .totalEnergyConsumption, .memCopyUtil, .powerViolation, .thermalViolation,
  .nvlinkCrcFlitErrorCountTotal, .nvlinkReplayErrorCountTotal, .nvlinkRecoveryErrorCountTotal, .xidErrors, .lastXid,
  .pcieReplayCounter, .rowRemapFailure]

/-- `dcgm_field_value_t`, the members read -/
structure DcgmFieldValue where
  fieldType : ℕ
  status : ℤ
  /-- the first 8 bytes of the union -/
  bits : UInt64
deriving DecidableEq, Repr

/-- `DCGM_FT_INT64`, the letter 'l' -/
def ftInt64 : ℕ := 108

def int64Blank : ℤ := 0x7FFFFFFFFFFFFFF0

/-- `value.i64` -/
def DcgmFieldValue.i64 (v : DcgmFieldValue) : ℤ := v.bits.toBitVec.toInt

variable {K : Type} [Arith K]

def fp64Blank : Dbl K := .fin 140737488355328

/-- the double with these bits: sign, 11 bits of exponent, 52 bits of fraction -/
def dblOfBits (bits : UInt64) : Dbl K :=
  let negative := 2 ^ 63 ≤ bits.toNat
  let e : ℕ := bits.toNat / 2 ^ 52 % 2 ^ 11
  let m : ℕ := bits.toNat % 2 ^ 52
  if e = 2047 then
    if m ≠ 0 then .nan else if negative then .ninf else .pinf
  else
    let x : K := if e = 0 then (m : K) / 2 ^ 1074 else ((2 ^ 52 + m : ℕ) : K) * 2 ^ ((e : ℤ) - 1075)
    .fin (if negative then -x else x)

/-- `value.dbl` -/
def DcgmFieldValue.dbl (v : DcgmFieldValue) : Dbl K := dblOfBits v.bits

example : (dblOfBits 0xC008000000000000 : Dbl ℚ) = .fin (-3) := by decide +kernel

/-! ## The poll -/

structure DcgmFields (K : Type) where
  powerW : Dbl K
  energyJ : Dbl K
  memBwUtilPct : Dbl K
  powerViolationUs : UInt64
  thermalViolationUs : UInt64
  nvlinkReplay : UInt64
  nvlinkRecovery : UInt64
  nvlinkCrc : UInt64
  xidCount : UInt64
  xidLastCode : UInt32
  pcieReplay : UInt64
  rowRemapFailures : UInt32
deriving DecidableEq, Repr

def unavailableDbl : Dbl K := .fin (-1)
def unavailableU64 : UInt64 := 0xFFFFFFFFFFFFFFFF
def unavailableU32 : UInt32 := 0xFFFFFFFF

/-- all fields pre-filled with their sentinel -/
def DcgmFields.unavailable : DcgmFields K where
  powerW := unavailableDbl
  energyJ := unavailableDbl
  memBwUtilPct := unavailableDbl
  powerViolationUs := unavailableU64
  thermalViolationUs := unavailableU64
  nvlinkReplay := unavailableU64
  nvlinkRecovery := unavailableU64
  nvlinkCrc := unavailableU64
  xidCount := unavailableU64
  xidLastCode := unavailableU32
  pcieReplay := unavailableU64
  rowRemapFailures := unavailableU32

/-- a non-negative, non-blank value cut to 32 bits, the sentinel above -/
def u32OfI64 (v : ℤ) : UInt32 := if v ≤ 0xFFFFFFFF then UInt32.ofInt v else unavailableU32

/-- the body of the loop over `POLL_FIELDS` -/
def dcgmField (values : PollField → DcgmFieldValue) (out : DcgmFields K) (f : PollField) : DcgmFields K :=
  let v := values f
  if v.status ≠ 0 then out
  else
    match f with
    | .powerUsage =>
      if v.fieldType = ftInt64 then
        if v.i64 < int64Blank then { out with powerW := .fin ((v.i64 : K) / 1000) } else out
      else if v.dbl < (fp64Blank : Dbl K) then { out with powerW := v.dbl } else out
    | .totalEnergyConsumption =>
      if v.i64 < int64Blank then { out with energyJ := .fin ((v.i64 : K) / 1000) } else out
    | .memCopyUtil => if v.i64 < int64Blank then { out with memBwUtilPct := .fin (v.i64 : K) } else out
    | .powerViolation => if v.i64 < int64Blank then { out with powerViolationUs := v.bits } else out
    | .thermalViolation => if v.i64 < int64Blank then { out with thermalViolationUs := v.bits } else out
    | .nvlinkCrcFlitErrorCountTotal => if v.i64 < int64Blank then { out with nvlinkCrc := v.bits } else out
    | .nvlinkReplayErrorCountTotal => if v.i64 < int64Blank then { out with nvlinkReplay := v.bits } else out
    | .nvlinkRecoveryErrorCountTotal => if v.i64 < int64Blank then { out with nvlinkRecovery := v.bits } else out
    | .xidErrors => if v.i64 < int64Blank then { out with xidCount := v.bits } else out
    | .lastXid =>
      if 0 ≤ v.i64 ∧ v.i64 < int64Blank then { out with xidLastCode := u32OfI64 v.i64 } else out
    | .pcieReplayCounter => if v.i64 < int64Blank then { out with pcieReplay := v.bits } else out
    | .rowRemapFailure =>
      if 0 ≤ v.i64 ∧ v.i64 < int64Blank then { out with rowRemapFailures := u32OfI64 v.i64 } else out

/-- none is the return value -1 -/
def dcgmPoll (latest : Reply (PollField → DcgmFieldValue)) : Option (DcgmFields K) :=
  if latest.ret ≠ 0 then none else some (pollFields.foldl (dcgmField latest.val) .unavailable)

def applyDcgmState (state : GpuState K) (d : DcgmFields K) : GpuState K :=
  { state with
    boardPowerW := if d.powerW ≠ unavailableDbl then d.powerW else state.boardPowerW
    energyJ := if d.energyJ ≠ unavailableDbl then d.energyJ else state.energyJ
    memBwUtilPct := if d.memBwUtilPct ≠ unavailableDbl then d.memBwUtilPct else state.memBwUtilPct
    powerViolationUs := if d.powerViolationUs ≠ unavailableU64 then d.powerViolationUs else state.powerViolationUs
    thermalViolationUs :=
      if d.thermalViolationUs ≠ unavailableU64 then d.thermalViolationUs else state.thermalViolationUs
    nvlinkReplayCount := if d.nvlinkReplay ≠ unavailableU64 then d.nvlinkReplay else state.nvlinkReplayCount
    nvlinkRecoveryCount := if d.nvlinkRecovery ≠ unavailableU64 then d.nvlinkRecovery else state.nvlinkRecoveryCount
    nvlinkCrcCount := if d.nvlinkCrc ≠ unavailableU64 then d.nvlinkCrc else state.nvlinkCrcCount
    xidCount := if d.xidCount ≠ unavailableU64 then d.xidCount else state.xidCount
    xidLastCode := if d.xidLastCode ≠ unavailableU32 then d.xidLastCode else state.xidLastCode
    pcieReplayCount := if d.pcieReplay ≠ unavailableU64 then d.pcieReplay else state.pcieReplayCount
    rowRemapFailures := if d.rowRemapFailures ≠ unavailableU32 then d.rowRemapFailures else state.rowRemapFailures }

/-! ## What an entry delivers -/

/-- the value of a power entry; none for an error or a blank -/
def deliveredPower (v : DcgmFieldValue) : Option (Dbl K) :=
  if v.status ≠ 0 then none
  else if v.fieldType = ftInt64 then if v.i64 < int64Blank then some (.fin ((v.i64 : K) / 1000)) else none
  else if v.dbl < (fp64Blank : Dbl K) then some v.dbl
  else none

/-- the value of an integer entry, `scale` to one unit; none for an error or a blank -/
def deliveredInt (scale : K) (v : DcgmFieldValue) : Option (Dbl K) :=
  if v.status ≠ 0 then none else if v.i64 < int64Blank then some (.fin ((v.i64 : K) / scale)) else none

def deliveredU64 (v : DcgmFieldValue) : Option UInt64 :=
  if v.status ≠ 0 then none else if v.i64 < int64Blank then some v.bits else none

def deliveredU32 (v : DcgmFieldValue) : Option UInt32 :=
  if v.status ≠ 0 then none else if 0 ≤ v.i64 ∧ v.i64 < int64Blank then some (u32OfI64 v.i64) else none

/-- the output of a successful poll, field by field -/
def dcgmFields (values : PollField → DcgmFieldValue) : DcgmFields K where
  powerW := (deliveredPower (values .powerUsage)).getD unavailableDbl
  energyJ := (deliveredInt 1000 (values .totalEnergyConsumption)).getD unavailableDbl
  memBwUtilPct := (deliveredInt 1 (values .memCopyUtil)).getD unavailableDbl
  powerViolationUs := (deliveredU64 (values .powerViolation)).getD unavailableU64
  thermalViolationUs := (deliveredU64 (values .thermalViolation)).getD unavailableU64
  nvlinkReplay := (deliveredU64 (values .nvlinkReplayErrorCountTotal)).getD unavailableU64
  nvlinkRecovery := (deliveredU64 (values .nvlinkRecoveryErrorCountTotal)).getD unavailableU64
  nvlinkCrc := (deliveredU64 (values .nvlinkCrcFlitErrorCountTotal)).getD unavailableU64
  xidCount := (deliveredU64 (values .xidErrors)).getD unavailableU64
  xidLastCode := (deliveredU32 (values .lastXid)).getD unavailableU32
  pcieReplay := (deliveredU64 (values .pcieReplayCounter)).getD unavailableU64
  rowRemapFailures := (deliveredU32 (values .rowRemapFailure)).getD unavailableU32

/-- an entry writes its own field, or nothing -/
theorem dcgmField_eq (values : PollField → DcgmFieldValue) (out : DcgmFields K) (f : PollField) :
    dcgmField values out f =
      match f with
      | .powerUsage => { out with powerW := (deliveredPower (values f)).getD out.powerW }
      | .totalEnergyConsumption => { out with energyJ := (deliveredInt 1000 (values f)).getD out.energyJ }
      | .memCopyUtil => { out with memBwUtilPct := (deliveredInt 1 (values f)).getD out.memBwUtilPct }
      | .powerViolation => { out with powerViolationUs := (deliveredU64 (values f)).getD out.powerViolationUs }
      | .thermalViolation => { out with thermalViolationUs := (deliveredU64 (values f)).getD out.thermalViolationUs }
      | .nvlinkCrcFlitErrorCountTotal => { out with nvlinkCrc := (deliveredU64 (values f)).getD out.nvlinkCrc }
      | .nvlinkReplayErrorCountTotal => { out with nvlinkReplay := (deliveredU64 (values f)).getD out.nvlinkReplay }
      | .nvlinkRecoveryErrorCountTotal =>
        { out with nvlinkRecovery := (deliveredU64 (values f)).getD out.nvlinkRecovery }
      | .xidErrors => { out with xidCount := (deliveredU64 (values f)).getD out.xidCount }
      | .lastXid => { out with xidLastCode := (deliveredU32 (values f)).getD out.xidLastCode }
      | .pcieReplayCounter => { out with pcieReplay := (deliveredU64 (values f)).getD out.pcieReplay }
      | .rowRemapFailure => { out with rowRemapFailures := (deliveredU32 (values f)).getD out.rowRemapFailures } := by
  cases f <;> simp only [dcgmField, deliveredPower, deliveredInt, deliveredU64, deliveredU32, div_one] <;>
    split_ifs <;> rfl

/-- **A poll succeeds exactly when `GetLatestValues` does, and decodes every entry on its own.** -/
theorem dcgmPoll_eq (latest : Reply (PollField → DcgmFieldValue)) :
    (dcgmPoll latest : Option (DcgmFields K)) = if latest.ret = 0 then some (dcgmFields latest.val) else none := by
  have hfold : pollFields.foldl (dcgmField latest.val) .unavailable = (dcgmFields latest.val : DcgmFields K) := by
    simp only [pollFields, List.foldl_cons, List.foldl_nil, dcgmField_eq]
    rfl
  simp only [dcgmPoll, hfold, ne_eq, ite_not]

end GpuHealth.Dcgm
