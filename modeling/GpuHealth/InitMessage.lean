/-
The init message of the IPC stream (`gpu_ipc_init_t`): `write_ipc_init` of `src/main.c`, and the start of
`http_child_run`, `src/http.c`, up to the receiver thread.

The message is an `int32_t` in the byte order of x86-64. The writer goes on after an interrupted call; the reader does
not, so that a signal in these calls ends the child.
-/
import GpuHealth.IpcReceiver

namespace GpuHealth.InitMessage

open GpuHealth.Framing GpuHealth.Streams GpuHealth.Buffer GpuHealth.HttpChild

variable {K : Type}

def initSize : ℕ := 4

abbrev InitMsg := Frame UInt8 initSize

/-- the object representation -/
def initBytes (numGpus : Int32) : List UInt8 :=
  (List.range initSize).map fun i => UInt8.ofNat (numGpus.toBitVec.toNat / 256 ^ i)

/-- the member `num_gpus` -/
def InitMsg.numGpus (init : InitMsg) : Int32 :=
  .ofBitVec (.ofNat 32 (init.val.foldr (fun b rest => b.toNat + 256 * rest) 0))

theorem initBytes_length (numGpus : Int32) : (initBytes numGpus).length = initSize := by simp [initBytes]

/-- the representation is of one number -/
theorem numGpus_initBytes {init : InitMsg} {n : Int32} (h : init.val = initBytes n) : init.numGpus = n := by
  have hbytes : init.val.foldr (fun b rest => b.toNat + 256 * rest) 0 = n.toBitVec.toNat := by
    have hlt := n.toBitVec.isLt
    simp only [h, initBytes, initSize, List.range_succ, List.range_zero, List.nil_append, List.map_cons, List.map_nil,
      List.cons_append, List.foldr_cons, List.foldr_nil, UInt8.toNat_ofNat']
    omega
  rw [InitMsg.numGpus, hbytes, BitVec.ofNat_toNat, BitVec.setWidth_eq]
  rfl

/-! ## The parent -/

/-- `write_ipc_init`; 0 is `ok` -/
def writeIpcInit (numGpus : Int32) (answers : List Answer) : Option (WriteRes UInt8) :=
  writeLoop (initBytes numGpus) answers 0 initSize

/-! ## The child -/

structure InitVars where
  init : InitMsg
  p : ℕ
  rem : ℕ

/-- the loop body behind a `read` that delivered bytes -/
def initGot (v : InitVars) (bs : List UInt8) : Option InitVars := do
  let init ← store v.init v.p bs
  some ⟨init, v.p + bs.length, v.rem - bs.length⟩

/-- the child's state and what is left of the stream when its receiver thread starts; none where it exits with 1 -/
def httpChildInit [Zero K] (pollIntervalS : ℤ) (init : InitMsg) (src : List (Event UInt8)) :
    Option (ChildState K × List (Event UInt8)) :=
  match readOnceLoop InitVars.rem initGot ⟨init, 0, initSize⟩ src with
  | .done v rest => (childStart v.init.numGpus.toInt pollIntervalS).map fun g => (g, rest)
  | _ => none

/-- the pointer and the count agree, and the message begins with what was read -/
structure InitInv (v : InitVars) (seen : List UInt8) : Prop where
  p : v.p = seen.length
  rem : v.p + v.rem = initSize
  stored : v.init.val.take seen.length = seen

theorem initGot_inv {v : InitVars} {seen bs : List UInt8} (h : InitInv v seen) (hfits : bs.length ≤ v.rem) :
    ∃ v', initGot v bs = some v' ∧ InitInv v' (seen ++ bs) := by
  obtain ⟨hp, hrem, hstored⟩ := h
  have hspace : seen.length + bs.length ≤ initSize := by omega
  obtain ⟨init, hinit, hfront⟩ := store_front hstored hspace
  refine ⟨⟨init, v.p + bs.length, v.rem - bs.length⟩, by simp [initGot, hp, hinit], ?_, ?_, hfront⟩
  · rw [List.length_append, hp]
  · dsimp only
    omega

theorem initGot_rem {v v' : InitVars} {bs : List UInt8} (h : initGot v bs = some v') (hfits : bs.length ≤ v.rem) :
    v'.rem + bs.length = v.rem := by
  obtain ⟨init, -, hv⟩ := Option.bind_eq_some_iff.1 h
  obtain rfl := Option.some.inj hv
  exact Nat.sub_add_cancel hfits

end GpuHealth.InitMessage
