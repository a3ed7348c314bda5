/-
The HTTP child (`src/http.c`): the receiver thread's updates of the slot table, the liveness check, and the dispatch of
one request.

The child's globals are the state `ChildState`; `childStart` is `http_child_run` after its init message, none where it
exits. `receive` is the receiver's loop body for one message that `snapshot_recv` delivered. It runs under `g_lock` but
for its range check, which reads `g_num_gpus` only, so the messages of a run are applied one after the other.

A response is its status, body and content type. The text of `/metrics` is an input of the dispatch, none when the
buffer cannot be allocated.
-/
import GpuHealth.Types
import GpuHealth.Core.Runs

namespace GpuHealth.HttpChild

variable {K : Type}

/-- `http_slot_t` -/
structure HttpSlot (K : Type) where
  snap : GpuSnapshot K
  /-- non-zero after the first message for the slot -/
  received : ℤ
deriving DecidableEq, Repr

def HttpSlot.zeroed [Zero K] : HttpSlot K := ⟨.zeroed, 0⟩

structure ChildState (K : Type) where
  gSlots : List (HttpSlot K)
  gNumGpus : ℤ
  /-- 1 when every slot has been populated -/
  gAllReady : ℤ
  gStaleMs : ℤ
deriving DecidableEq, Repr

/-! ## Start -/

/-- none when the child exits on an invalid number of GPUs -/
def childStart [Zero K] (numGpus pollIntervalS : ℤ) : Option (ChildState K) :=
  if numGpus ≤ 0 ∨ numGpus > 256 then none
  else
    let staleMs := pollIntervalS * 3 * 1000
    some ⟨List.replicate numGpus.toNat .zeroed, numGpus, 0, if staleMs < 5000 then 5000 else staleMs⟩

/-! ## The receiver thread -/

/-- the scan over all slots, left at the first that has not reported -/
def scanReceived : List (HttpSlot K) → ℤ
  | [] => 1
  | slot :: slots => if slot.received = 0 then 0 else scanReceived slots

def receive (g : ChildState K) (msg : GpuIpcMsg K) : ChildState K :=
  if msg.gpuIndex < 0 ∨ msg.gpuIndex ≥ g.gNumGpus then g
  else
    let slots := g.gSlots.set msg.gpuIndex.toNat ⟨msg.snapshot, 1⟩
    { g with
      gSlots := slots
      gAllReady := if g.gAllReady = 0 then (if scanReceived slots ≠ 0 then 1 else 0) else g.gAllReady }

/-! ## Requests -/

/-- 1 (alive) or 0 (stale); left at the first stale slot -/
def checkLiveness (nowMs : UInt64) (staleMs : ℤ) : List (HttpSlot K) → ℤ
  | [] => 1
  | slot :: slots =>
    if slot.received = 0 then checkLiveness nowMs staleMs slots
    else if nowMs - slot.snap.lastPollMs > UInt64.ofInt staleMs then 0
    else checkLiveness nowMs staleMs slots

structure Response where
  status : ℤ
  body : CStr
  contentType : CStr
deriving DecidableEq, Repr

def plain (status : ℤ) (body : String) : Response := ⟨status, body.toList, "text/plain".toList⟩

def handleRequest (g : ChildState K) (metrics : Option CStr) (nowMs : UInt64) (method path : CStr) : Response :=
  if method ≠ "GET".toList then plain 405 "Method Not Allowed\n"
  else if path = "/metrics".toList then
    match metrics with
    | none => plain 500 "Internal Server Error\n"
    | some text => ⟨200, text, "text/plain; version=0.0.4; charset=utf-8".toList⟩
  else if path = "/ready".toList then
    if g.gAllReady ≠ 0 then plain 200 "ready\n" else plain 503 "not ready\n"
  else if path = "/live".toList then
    if checkLiveness nowMs g.gStaleMs g.gSlots ≠ 0 then plain 200 "alive\n" else plain 503 "stale\n"
  else plain 404 "Not Found\n"

/-! ## One message -/

theorem receive_outside {g : ChildState K} {msg : GpuIpcMsg K} (h : msg.gpuIndex < 0 ∨ msg.gpuIndex ≥ g.gNumGpus) :
    receive g msg = g := by
  rw [receive, if_pos h]

theorem receive_inside {g : ChildState K} {msg : GpuIpcMsg K} (h : ¬ (msg.gpuIndex < 0 ∨ msg.gpuIndex ≥ g.gNumGpus)) :
    (receive g msg).gSlots = g.gSlots.set msg.gpuIndex.toNat ⟨msg.snapshot, 1⟩ ∧
      (receive g msg).gAllReady = if g.gAllReady = 0 then
        (if scanReceived (g.gSlots.set msg.gpuIndex.toNat ⟨msg.snapshot, 1⟩) ≠ 0 then 1 else 0) else g.gAllReady := by
  rw [receive, if_neg h]
  exact ⟨rfl, rfl⟩

@[simp] theorem receive_gNumGpus (g : ChildState K) (msg : GpuIpcMsg K) : (receive g msg).gNumGpus = g.gNumGpus := by
  unfold receive
  split_ifs <;> rfl

/-- the scan finds every slot received -/
theorem scanReceived_ne_zero (slots : List (HttpSlot K)) :
    scanReceived slots ≠ 0 ↔ ∀ slot ∈ slots, slot.received ≠ 0 := by
  induction slots with
  | nil => simp [scanReceived]
  | cons slot slots ih =>
    by_cases h : slot.received = 0
    · simp [scanReceived, h]
    · simp [scanReceived, h, ih]

end GpuHealth.HttpChild
