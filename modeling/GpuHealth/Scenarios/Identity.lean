/-
GPU identity after the enumeration of `main`.

The property: for every fleet of devices with distinct serials and UUIDs (`Fleet`), and an NVML that delivers a
string into a buffer exactly when it fits (`Reports`), the `ctx->serial` strings are non-empty and pairwise distinct
(`Identified`). A device without a serial is to be identified by its UUID; the code asks for the UUID with the serial's
buffer of 32 bytes and does not look at the answer.

- `unnamed_gpus`: two devices without serials, with UUIDs of the usual 40 characters. Both get the empty string.
- `identified_iff`: the labels identify the devices exactly when every device has one that fits (`HasLabel`): a
  non-empty serial, or a UUID of at most 31 characters.
Witness `identified_short`: a device with a serial next to one with a short UUID.
-/
import GpuHealth.Enumeration

namespace GpuHealth.Identity

open GpuHealth.Nvml GpuHealth.Collector GpuHealth.Enumeration

variable {K : Type} [Arith K]

/-! ## Devices -/

structure Device where
  /-- none when the device does not report a serial -/
  serial : Option CStr
  uuid : CStr
deriving DecidableEq, Repr

/-- what the devices of one machine have in common -/
structure Fleet (ds : List Device) : Prop where
  serial_le : ∀ d ∈ ds, ∀ s, d.serial = some s → s.length ≤ 31
  uuid_ne : ∀ d ∈ ds, d.uuid ≠ []
  uuid_le : ∀ d ∈ ds, d.uuid.length ≤ 47
  serials : (ds.filterMap (·.serial)).Nodup
  uuids : (ds.map (·.uuid)).Nodup
  apart : ∀ d ∈ ds, ∀ e ∈ ds, d.serial ≠ some e.uuid

/-- NVML on a string `s`: delivered if it fits with its NUL, else an error and the buffer as it was -/
def Delivers (get : GetString) (s : CStr) : Prop :=
  ∀ buf len, if s.length + 1 ≤ len then get buf len = ⟨0, s⟩ else (get buf len).ret ≠ 0 ∧ (get buf len).val = buf

/-- NVML on a string the device does not have -/
def Refuses (get : GetString) : Prop := ∀ buf len, (get buf len).ret ≠ 0 ∧ (get buf len).val = buf

def ReportsSerial (get : Option GetString) : Option CStr → Prop
  | some s => ∃ g, get = some g ∧ Delivers g s
  | none => ∀ g, get = some g → Refuses g

/-- the vtable of a driver that sees the devices `ds` -/
def Reports (vt : IdentityVtable) (ds : List Device) : Prop :=
  ∀ i (h : i < ds.length),
    ReportsSerial (vt.deviceGetSerial.map fun get => get (vt.deviceGetHandleByIndex i).val) ds[i].serial ∧
    ∃ get, vt.deviceGetUUID = some get ∧ Delivers (get (vt.deviceGetHandleByIndex i).val) ds[i].uuid

/-! ## The property and its condition -/

/-- every GPU has a label, and no two share one -/
structure Identified (ctxs : List (GpuCtx K)) : Prop where
  nonempty : ∀ ctx ∈ ctxs, ctx.serial ≠ []
  distinct : (ctxs.map fun ctx => ctx.serial).Nodup

/-- a label that fits the serial's buffer -/
def HasLabel (d : Device) : Prop :=
  match d.serial with
  | some s => s ≠ []
  | none => d.uuid.length ≤ 31

instance : (d : Device) → Decidable (HasLabel d)
  | ⟨some s, _⟩ => inferInstanceAs (Decidable (s ≠ []))
  | ⟨none, uuid⟩ => inferInstanceAs (Decidable (uuid.length ≤ 31))

/-! ## The label of one device -/

/-- the string `main` leaves in `ctx->serial` -/
def label (d : Device) : CStr :=
  match d.serial with
  | some s => s
  | none => if d.uuid.length ≤ 31 then d.uuid else []

theorem Delivers.val {get : GetString} {s : CStr} (h : Delivers get s) :
    (get [] 32).val = if s.length ≤ 31 then s else [] := by
  have hget := h [] 32
  split_ifs at hget ⊢ with h1 h2 h2
  · rw [hget]
  · omega
  · omega
  · exact hget.2

theorem identity_label {vt : IdentityVtable} {handle : Handle} {d : Device} (hle : ∀ s, d.serial = some s → s.length ≤ 31)
    (hserial : ReportsSerial (vt.deviceGetSerial.map fun get => get handle) d.serial)
    {uuid : Handle → GetString} (huuid : vt.deviceGetUUID = some uuid) (hd : Delivers (uuid handle) d.uuid) :
    (identity vt handle []).1 = label d := by
  unfold identity label
  cases hs : d.serial with
  | some s =>
    rw [hs] at hserial
    obtain ⟨g, hg, hgs⟩ := hserial
    obtain ⟨get, hget, rfl⟩ := Option.map_eq_some_iff.1 hg
    have hfits := hgs [] 32
    rw [if_pos (Nat.succ_le_succ (hle s hs))] at hfits
    simp only [hget, hfits, ne_eq, not_true_eq_false, if_false]
  | none =>
    rw [hs] at hserial
    cases hget : vt.deviceGetSerial with
    | none => simp only [huuid, Option.map_some, fill, hd.val]
    | some get =>
      obtain ⟨hret, hval⟩ := hserial (get handle) (by rw [hget]; rfl) [] 32
      simp only [hret, ne_eq, not_false_eq_true, if_true, huuid, Option.map_some, fill, hval, hd.val]

/-- the labels of all GPUs -/
theorem contexts_label {ds : List Device} (hf : Fleet ds) {vt : IdentityVtable} (hvt : Reports vt ds) (exp : Exporter K)
    (baselineFiles probeFiles : CStr → Option CStr) (nowS : UInt64) :
    (contexts exp vt ds.length baselineFiles probeFiles nowS).map (fun ctx => ctx.serial) = ds.map label := by
  rw [contexts_serial]
  apply List.ext_getElem
  · simp
  · intro i h1 h2
    have hi : i < ds.length := by simpa using h2
    obtain ⟨hserial, uuid, huuid, hd⟩ := hvt i hi
    simp only [List.getElem_map, List.getElem_range]
    exact identity_label (hf.serial_le _ (List.getElem_mem hi)) hserial huuid hd

theorem label_ne_nil {ds : List Device} (hf : Fleet ds) {d : Device} (hd : d ∈ ds) : label d ≠ [] ↔ HasLabel d := by
  unfold label HasLabel
  cases d.serial with
  | some s => exact Iff.rfl
  | none =>
    by_cases h : d.uuid.length ≤ 31
    · simp only [h, if_true, hf.uuid_ne d hd, ne_eq, not_false_eq_true]
    · simp only [h, if_false, ne_eq, not_true_eq_false]

/-- a label is the device's serial, or the UUID of a device without one -/
theorem label_eq {d : Device} (h : HasLabel d) : d.serial = some (label d) ∨ (d.serial = none ∧ label d = d.uuid) := by
  unfold HasLabel at h
  unfold label
  cases hs : d.serial with
  | some s => exact Or.inl rfl
  | none =>
    rw [hs] at h
    exact Or.inr ⟨rfl, if_pos h⟩

theorem uuid_inj {ds : List Device} (hf : Fleet ds) {i j : ℕ} (hi : i < ds.length) (hj : j < ds.length)
    (h : ds[i].uuid = ds[j].uuid) : i = j := by
  have hn := List.pairwise_iff_getElem.1 hf.uuids
  by_contra hne
  rcases Nat.lt_or_gt_of_ne hne with hlt | hlt
  · exact hn i j (by simpa using hi) (by simpa using hj) hlt (by simpa using h)
  · exact hn j i (by simpa using hj) (by simpa using hi) hlt (by simpa using h.symm)

/-- two devices with the same serial stand at the same position -/
theorem serial_inj {ds : List Device} (hf : Fleet ds) {i j : ℕ} (hi : i < ds.length) (hj : j < ds.length) (hij : i < j)
    {s : CStr} (hs : ds[i].serial = some s) : ds[j].serial ≠ some s := by
  intro ht
  have hn := (List.pairwise_filterMap.1 hf.serials)
  exact List.pairwise_iff_getElem.1 hn i j hi hj hij s hs s ht rfl

theorem label_distinct {ds : List Device} (hf : Fleet ds) (h : ∀ d ∈ ds, HasLabel d) {i j : ℕ} (hi : i < ds.length)
    (hj : j < ds.length) (hij : i < j) : label ds[i] ≠ label ds[j] := by
  intro heq
  rcases label_eq (h _ (List.getElem_mem hi)) with hsi | ⟨hsi, hui⟩ <;>
    rcases label_eq (h _ (List.getElem_mem hj)) with hsj | ⟨hsj, huj⟩
  · exact serial_inj hf hi hj hij hsi (heq ▸ hsj)
  · exact hf.apart _ (List.getElem_mem hi) _ (List.getElem_mem hj) (by rw [hsi, heq, huj])
  · exact hf.apart _ (List.getElem_mem hj) _ (List.getElem_mem hi) (by rw [hsj, ← heq, hui])
  · have hpos := uuid_inj hf hi hj (by rw [← hui, ← huj, heq])
    omega

/-- **Every GPU is identified exactly when every device has a label that fits.** -/
theorem identified_iff (ds : List Device) (hf : Fleet ds) (vt : IdentityVtable) (hvt : Reports vt ds) (exp : Exporter K)
    (baselineFiles probeFiles : CStr → Option CStr) (nowS : UInt64) :
    Identified (contexts exp vt ds.length baselineFiles probeFiles nowS) ↔ ∀ d ∈ ds, HasLabel d := by
  have hlabels := contexts_label hf hvt exp baselineFiles probeFiles nowS
  constructor
  · intro h d hd
    rw [← label_ne_nil hf hd]
    have hmem : label d ∈ (contexts exp vt ds.length baselineFiles probeFiles nowS).map fun ctx => ctx.serial := by
      rw [hlabels]
      exact List.mem_map_of_mem hd
    obtain ⟨ctx, hctx, heq⟩ := List.mem_map.1 hmem
    rw [← heq]
    exact h.nonempty ctx hctx
  · intro h
    refine ⟨?_, ?_⟩
    · intro ctx hctx
      have hmem : ctx.serial ∈ ds.map label := by
        rw [← hlabels]
        exact List.mem_map_of_mem hctx
      obtain ⟨d, hd, heq⟩ := List.mem_map.1 hmem
      rw [← heq]
      exact (label_ne_nil hf hd).2 (h d hd)
    · rw [hlabels, List.Nodup, List.pairwise_iff_getElem]
      intro i j hi hj hij
      simp only [List.length_map] at hi hj
      simp only [List.getElem_map]
      exact label_distinct hf h hi hj hij

/-! ## A driver -/

/-- NVML's answer on a string -/
def answer (s : CStr) : GetString := fun buf len => if s.length + 1 ≤ len then ⟨0, s⟩ else ⟨7, buf⟩

/-- a driver that sees `ds`: handle i + 1 is device i -/
def driverOf (ds : List Device) : IdentityVtable where
  systemGetDriverVersion := none
  deviceGetHandleByIndex := fun i => ⟨0, i + 1⟩
  deviceGetSerial := some fun handle buf len =>
    match (ds[handle - 1]?).bind (·.serial) with
    | some s => answer s buf len
    | none => ⟨3, buf⟩
  deviceGetUUID := some fun handle => answer (((ds[handle - 1]?).map (·.uuid)).getD [])
  deviceGetName := none
  deviceGetMaxPcieLinkGeneration := none
  deviceGetMaxPcieLinkWidth := none

theorem answer_delivers (s : CStr) : Delivers (answer s) s := by
  intro buf len
  unfold answer
  by_cases h : s.length + 1 ≤ len
  · simp only [h, if_true]
  · simp only [h, if_false, ne_eq, and_true]
    decide

theorem driverOf_reports (ds : List Device) : Reports (driverOf ds) ds := by
  intro i hi
  constructor
  · simp only [driverOf, Option.map_some, Nat.add_sub_cancel, List.getElem?_eq_getElem hi, Option.bind_some]
    cases ds[i].serial with
    | some s => exact ⟨_, rfl, answer_delivers s⟩
    | none =>
      intro g hg buf len
      obtain rfl := Option.some.inj hg
      exact ⟨by simp, rfl⟩
  · refine ⟨_, rfl, ?_⟩
    simp only [driverOf, Nat.add_sub_cancel, List.getElem?_eq_getElem hi, Option.map_some, Option.getD_some]
    exact answer_delivers _

def shortFleet : List Device := [⟨some "1321021036987".toList, "GPU-0".toList⟩, ⟨none, "GPU-1".toList⟩]

theorem shortFleet_fleet : Fleet shortFleet :=
  ⟨by simp [shortFleet], by decide, by decide, by decide, by decide, by decide⟩

theorem identified_short : Identified (contexts smallExporter (driverOf shortFleet) 2 (fun _ => none) (fun _ => none) 0) :=
  (identified_iff shortFleet shortFleet_fleet (driverOf shortFleet) (driverOf_reports shortFleet) smallExporter _ _ 0).2
    (by decide)

/-- two devices without serials and with UUIDs of 40 characters -/
def longFleet : List Device :=
  [⟨none, "GPU-5d2c1e0a-0b3f-4c6d-9e8f-000000000001".toList⟩, ⟨none, "GPU-5d2c1e0a-0b3f-4c6d-9e8f-000000000002".toList⟩]

/-- both devices are labelled with the empty string -/
theorem unnamed_gpus : Fleet longFleet ∧ Reports (driverOf longFleet) longFleet ∧
    (contexts smallExporter (driverOf longFleet) 2 (fun _ => none) (fun _ => none) 0).map (fun ctx => ctx.serial) =
      [[], []] ∧
    ¬ Identified (contexts smallExporter (driverOf longFleet) 2 (fun _ => none) (fun _ => none) 0) := by
  have hlabels : (contexts smallExporter (driverOf longFleet) 2 (fun _ => none) (fun _ => none) 0).map
      (fun ctx => ctx.serial) = [[], []] := by
    decide +kernel
  refine ⟨⟨by simp [longFleet], by decide, by decide, by decide, by decide, by decide⟩, driverOf_reports longFleet,
    hlabels, ?_⟩
  intro h
  have hdup := h.distinct
  rw [hlabels] at hdup
  exact absurd hdup (by decide)

end GpuHealth.Identity
