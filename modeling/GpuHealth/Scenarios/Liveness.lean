/-
Liveness against the ages of the reports: /live and its unsigned subtraction.

The property: whatever the slot table, the clock reading and the report times (also one newer than the reading, of a
slot updated after the clock was read), `check_liveness` returns 1 exactly when every received slot has
now <= last_poll_ms + g_stale_ms as integers. It fails. The age is an unsigned difference, so a report one millisecond
newer than the clock reading is about 2^64 ms old, and /live answers 503 (`just_reported_stale`).

`liveness_iff`: for every state of the child and every clock reading, the check is exact if and only if some received
slot really is stale, or every received slot was last reported at or before the reading (or so far after it that the
wrapped age is small again: 2^64 <= last_poll_ms - now + g_stale_ms).
Witness `liveness_same_ms`: reports at the reading itself.
-/
import GpuHealth.Scenarios.Readiness

namespace GpuHealth.Liveness

open GpuHealth.HttpChild GpuHealth.Readiness

variable {K : Type}

/-! ## The property -/

/-- the slot's report is at most `staleMs` old; nothing is asked of a slot without one -/
def FreshAt (nowMs : UInt64) (staleMs : ℤ) (slot : HttpSlot K) : Prop :=
  slot.received ≠ 0 → (nowMs.toNat : ℤ) ≤ slot.snap.lastPollMs.toNat + staleMs

def LiveExact (g : ChildState K) (nowMs : UInt64) : Prop :=
  checkLiveness nowMs g.gStaleMs g.gSlots = 1 ↔ ∀ slot ∈ g.gSlots, FreshAt nowMs g.gStaleMs slot

/-- the unsigned age of the slot's report is its real age, or wraps to one that is still in time -/
def AgeInTime (nowMs : UInt64) (staleMs : ℤ) (slot : HttpSlot K) : Prop :=
  slot.received ≠ 0 → slot.snap.lastPollMs ≤ nowMs ∨
    2 ^ 64 ≤ (slot.snap.lastPollMs.toNat : ℤ) - nowMs.toNat + staleMs

/-! ## The check -/

/-- the comparison of the loop, on the unsigned age -/
def InTime (nowMs : UInt64) (staleMs : ℤ) (slot : HttpSlot K) : Prop :=
  slot.received ≠ 0 → nowMs - slot.snap.lastPollMs ≤ UInt64.ofInt staleMs

theorem checkLiveness_eq_one (nowMs : UInt64) (staleMs : ℤ) (slots : List (HttpSlot K)) :
    checkLiveness nowMs staleMs slots = 1 ↔ ∀ slot ∈ slots, InTime nowMs staleMs slot := by
  induction slots with
  | nil => simp [checkLiveness]
  | cons slot slots ih =>
    rw [checkLiveness, List.forall_mem_cons]
    by_cases hreceived : slot.received = 0
    · rw [if_pos hreceived, ih]
      exact ⟨fun h => ⟨fun hne => absurd hreceived hne, h⟩, fun h => h.2⟩
    · rw [if_neg hreceived]
      by_cases hlate : nowMs - slot.snap.lastPollMs > UInt64.ofInt staleMs
      · rw [if_pos hlate]
        exact ⟨fun h => absurd h (by decide), fun h => absurd (h.1 hreceived) (UInt64.not_le.2 hlate)⟩
      · rw [if_neg hlate, ih]
        exact ⟨fun h => ⟨fun _ => UInt64.not_lt.1 hlate, h⟩, fun h => h.2⟩

/-- the loop's comparison is the integer one, or the age has wrapped -/
theorem inTime_iff {nowMs : UInt64} {staleMs : ℤ} (h0 : 0 ≤ staleMs) (h31 : staleMs < 2 ^ 31) (slot : HttpSlot K) :
    InTime nowMs staleMs slot ↔ FreshAt nowMs staleMs slot ∧ AgeInTime nowMs staleMs slot := by
  have hstale := u64OfInt_toNat h0 (h31.trans (by norm_num))
  have hnow := nowMs.toNat_lt
  have hlast := slot.snap.lastPollMs.toNat_lt
  have hle : nowMs - slot.snap.lastPollMs ≤ UInt64.ofInt staleMs ↔
      (nowMs.toNat : ℤ) ≤ slot.snap.lastPollMs.toNat + staleMs ∧ (slot.snap.lastPollMs ≤ nowMs ∨
        2 ^ 64 ≤ (slot.snap.lastPollMs.toNat : ℤ) - nowMs.toNat + staleMs) := by
    rw [UInt64.le_iff_toNat_le, UInt64.le_iff_toNat_le, UInt64.toNat_sub]
    rcases le_or_gt slot.snap.lastPollMs.toNat nowMs.toNat with hpast | hfuture
    · have hage : (2 ^ 64 - slot.snap.lastPollMs.toNat + nowMs.toNat) % 2 ^ 64 =
          nowMs.toNat - slot.snap.lastPollMs.toNat := by omega
      rw [hage]
      omega
    · have hage : (2 ^ 64 - slot.snap.lastPollMs.toNat + nowMs.toNat) % 2 ^ 64 =
          2 ^ 64 - slot.snap.lastPollMs.toNat + nowMs.toNat := by omega
      rw [hage]
      omega
  unfold InTime FreshAt AgeInTime
  rw [hle, forall_and]

/-! ## The condition -/

/-- **When /live is exact.** If and only if a received slot really is stale, or no age wraps to a stale one. -/
theorem liveness_iff (g : ChildState K) (nowMs : UInt64) (h0 : 0 ≤ g.gStaleMs) (h31 : g.gStaleMs < 2 ^ 31) :
    LiveExact g nowMs ↔
      (∃ slot ∈ g.gSlots, ¬ FreshAt nowMs g.gStaleMs slot) ∨ ∀ slot ∈ g.gSlots, AgeInTime nowMs g.gStaleMs slot := by
  unfold LiveExact
  rw [checkLiveness_eq_one]
  simp only [inTime_iff h0 h31]
  constructor
  · intro hexact
    by_cases hfresh : ∀ slot ∈ g.gSlots, FreshAt nowMs g.gStaleMs slot
    · exact Or.inr fun slot hslot => (hexact.2 hfresh slot hslot).2
    · push Not at hfresh
      exact Or.inl hfresh
  · intro hcase
    refine ⟨fun h slot hslot => (h slot hslot).1, ?_⟩
    intro hfresh slot hslot
    rcases hcase with ⟨stale, hmem, hstale⟩ | hage
    · exact absurd (hfresh stale hmem) hstale
    · exact ⟨hfresh slot hslot, hage slot hslot⟩

/-! ## A report newer than the clock reading -/

/-- a child of one GPU that reported at `ms` -/
def reportedChild (ms : UInt64) : ChildState ℚ := ⟨[⟨(report 0 ms).snapshot, 1⟩], 1, 1, 45000⟩

theorem liveness_same_ms : LiveExact (reportedChild 1000) 1000 :=
  (liveness_iff (reportedChild 1000) 1000 (by decide) (by decide)).2
    (Or.inr (List.forall_mem_singleton.2 fun _ => Or.inl (by decide)))

/-- The clock is read at 1000 ms, the receiver then stores a report of 1001 ms, and the check finds it stale. -/
theorem just_reported_stale :
    (childStart 1 15).map (fun g => receive g (report 0 1001)) = some (reportedChild 1001) ∧
    (handleRequest (reportedChild 1001) none 1000 "GET".toList "/live".toList).status = 503 ∧
    ¬ LiveExact (reportedChild 1001) 1000 := by
  refine ⟨by decide +kernel, by decide +kernel, ?_⟩
  intro hexact
  have hzero : checkLiveness 1000 (reportedChild 1001).gStaleMs (reportedChild 1001).gSlots = 0 := by decide +kernel
  have hfresh : ∀ slot ∈ (reportedChild 1001).gSlots, FreshAt 1000 (reportedChild 1001).gStaleMs slot :=
    List.forall_mem_singleton.2 fun _ => by decide +kernel
  rw [hexact.2 hfresh] at hzero
  exact absurd hzero one_ne_zero

end GpuHealth.Liveness
