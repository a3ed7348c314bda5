/-
Handles that are acquired, used and released. General: nothing here names a program.

A log lists what is done with handles of type `ι`, in order. `after` is what is held at its end, and none after a breach:
a handle acquired while it is held, or used or released while it is not.

- `after_append`, `after_keep`: logs are put together from parts that keep what is held.
- `releases_match`: in a log without a breach every handle is released as often as it is acquired, but for what is held
  at its start and at its end.
- `not_used_again`: behind a release the handle is not touched before it is acquired again.
-/
import Mathlib.Tactic

namespace GpuHealth.Ledger

inductive Act (ι : Type) where
  | acquire (h : ι)
  | use (h : ι)
  | release (h : ι)
deriving DecidableEq, Repr

def Act.handle {ι : Type} : Act ι → ι
  | .acquire h => h
  | .use h => h
  | .release h => h

variable {ι : Type} [DecidableEq ι]

def act (held : Finset ι) : Act ι → Option (Finset ι)
  | .acquire h => if h ∈ held then none else some (insert h held)
  | .use h => if h ∈ held then some held else none
  | .release h => if h ∈ held then some (held.erase h) else none

def after (held : Finset ι) (log : List (Act ι)) : Option (Finset ι) := log.foldlM act held

variable {held held' : Finset ι} {h : ι} {log log' : List (Act ι)}

/-! ## One act -/

theorem act_acquire {g : ι} : act held (.acquire g) = some held' ↔ g ∉ held ∧ insert g held = held' := by
  change (if g ∈ held then none else some (insert g held)) = some held' ↔ _
  split_ifs with hg <;> simp [hg]

theorem act_use {g : ι} : act held (.use g) = some held' ↔ g ∈ held ∧ held = held' := by
  change (if g ∈ held then some held else none) = some held' ↔ _
  split_ifs with hg <;> simp [hg]

theorem act_release {g : ι} : act held (.release g) = some held' ↔ g ∈ held ∧ held.erase g = held' := by
  change (if g ∈ held then some (held.erase g) else none) = some held' ↔ _
  split_ifs with hg <;> simp [hg]

/-! ## Putting logs together -/

@[simp] theorem after_nil (held : Finset ι) : after held [] = some held := rfl

theorem after_cons (held : Finset ι) (a : Act ι) (log : List (Act ι)) :
    after held (a :: log) = (act held a).bind fun held' => after held' log := List.foldlM_cons ..

theorem after_append (held : Finset ι) (log log' : List (Act ι)) :
    after held (log ++ log') = (after held log).bind fun held' => after held' log' := List.foldlM_append ..

/-- a log that keeps what is held, in front -/
theorem after_keep (hlog : after held log = some held) (log' : List (Act ι)) :
    after held (log ++ log') = after held log' := by rw [after_append, hlog, Option.bind_some]

theorem after_acquire (hfree : h ∉ held) (log : List (Act ι)) :
    after held (.acquire h :: log) = after (insert h held) log := by rw [after_cons, act, if_neg hfree, Option.bind_some]

theorem after_use (hheld : h ∈ held) (log : List (Act ι)) : after held (.use h :: log) = after held log := by
  rw [after_cons, act, if_pos hheld, Option.bind_some]

theorem after_release (hfree : h ∉ held) (log : List (Act ι)) :
    after (insert h held) (.release h :: log) = after held log := by
  rw [after_cons, act, if_pos (Finset.mem_insert_self h held), Option.bind_some, Finset.erase_insert hfree]

/-! ## What a log without a breach says -/

/-- no breach up to a point before -/
theorem after_before (hlog : after held (log ++ log') = some held') : ∃ mid, after held log = some mid ∧
    after mid log' = some held' := by
  rw [after_append] at hlog
  exact Option.bind_eq_some_iff.1 hlog

/-- 1 where the handle is held -/
def holds (held : Finset ι) (h : ι) : ℕ := if h ∈ held then 1 else 0

theorem act_matches {a : Act ι} (hact : act held a = some held') (h : ι) :
    [a].count (.acquire h) + holds held h = [a].count (.release h) + holds held' h := by
  unfold holds
  cases a with
  | acquire g =>
    obtain ⟨hg, rfl⟩ := act_acquire.1 hact
    by_cases hgh : g = h
    · subst hgh
      simp [hg]
    · simp [hgh, Ne.symm hgh]
  | use g =>
    obtain ⟨-, rfl⟩ := act_use.1 hact
    simp
  | release g =>
    obtain ⟨hg, rfl⟩ := act_release.1 hact
    by_cases hgh : g = h
    · subst hgh
      simp [hg]
    · simp [hgh, Ne.symm hgh]

/-- **Every handle is released as often as it is acquired**, but for what is held at the two ends. -/
theorem releases_match (hlog : after held log = some held') (h : ι) :
    log.count (.acquire h) + holds held h = log.count (.release h) + holds held' h := by
  induction log generalizing held with
  | nil =>
    obtain rfl := Option.some.inj hlog
    rfl
  | cons a log ih =>
    rw [after_cons] at hlog
    obtain ⟨mid, hact, hrest⟩ := Option.bind_eq_some_iff.1 hlog
    have hone := act_matches hact h
    have hmore := ih hrest
    rw [← List.singleton_append, List.count_append, List.count_append]
    omega

/-- what is not held stays so in a log that does not acquire it -/
theorem untouched (hfree : h ∉ held) (hlog : after held log = some held') (hnone : .acquire h ∉ log) :
    (∀ a ∈ log, a.handle ≠ h) ∧ h ∉ held' := by
  induction log generalizing held with
  | nil =>
    obtain rfl := Option.some.inj hlog
    exact ⟨nofun, hfree⟩
  | cons a log ih =>
    rw [after_cons] at hlog
    obtain ⟨mid, hact, hrest⟩ := Option.bind_eq_some_iff.1 hlog
    rw [List.mem_cons, not_or] at hnone
    have hother : a.handle ≠ h ∧ h ∉ mid := by
      cases a with
      | acquire g =>
        obtain ⟨-, rfl⟩ := act_acquire.1 hact
        have hne : g ≠ h := fun heq => hnone.1 (by rw [heq])
        exact ⟨hne, fun hin => hfree (Finset.mem_of_mem_insert_of_ne hin (Ne.symm hne))⟩
      | use g =>
        obtain ⟨hg, rfl⟩ := act_use.1 hact
        exact ⟨fun heq : g = h => hfree (heq ▸ hg), hfree⟩
      | release g =>
        obtain ⟨hg, rfl⟩ := act_release.1 hact
        exact ⟨fun heq : g = h => hfree (heq ▸ hg), fun hin => hfree (Finset.mem_of_mem_erase hin)⟩
    obtain ⟨hrestUntouched, hend⟩ := ih hother.2 hrest hnone.2
    exact ⟨List.forall_mem_cons.2 ⟨hother.1, hrestUntouched⟩, hend⟩

/-- **Behind a release the handle is not touched** before it is acquired again. -/
theorem not_used_again {pre mid post : List (Act ι)}
    (hlog : after held (pre ++ .release h :: (mid ++ post)) = some held') (hnone : .acquire h ∉ mid) :
    ∀ a ∈ mid, a.handle ≠ h := by
  obtain ⟨before, -, hrest⟩ := after_before hlog
  rw [after_cons] at hrest
  obtain ⟨free, hact, hrest⟩ := Option.bind_eq_some_iff.1 hrest
  obtain ⟨-, rfl⟩ := act_release.1 hact
  have hfree : h ∉ before.erase h := Finset.notMem_erase h before
  obtain ⟨last, hmid, -⟩ := after_before hrest
  exact (untouched hfree hmid hnone).1

end GpuHealth.Ledger
