/-
A fixed-capacity cyclic buffer that overwrites its oldest element, and what its readers see. General: nothing here
names a program.

`CyclicBuffer α` carries its well-formedness (`head` inside the store, `count` at most the capacity), so an ill-formed
buffer cannot be built. `slot i` is the physical index of the i-th oldest element and `window` the list read through
it.
- `window_push`: a push appends to the window and drops its first element exactly when the buffer is full;
- `window_pushAll`: after any pushes the window is the last `cap` of (old window ++ pushed elements);
- `window_pushAll_empty`: from an empty buffer it is the last `cap` pushed elements.
-/
import Mathlib.Tactic
import Mathlib.Data.List.DropRight

namespace GpuHealth

structure CyclicBuffer (α : Type) where
  store : List α
  /-- next slot to write -/
  head : ℕ
  count : ℕ
  head_lt : head < store.length
  count_le : count ≤ store.length

namespace CyclicBuffer

variable {α : Type}

def cap (b : CyclicBuffer α) : ℕ := b.store.length

theorem cap_pos (b : CyclicBuffer α) : 0 < b.cap := Nat.lt_of_le_of_lt (Nat.zero_le _) b.head_lt

/-- physical index of the i-th oldest element -/
def slot (b : CyclicBuffer α) (i : ℕ) : ℕ := (b.head + (b.cap - b.count) + i) % b.cap

theorem slot_lt (b : CyclicBuffer α) (i : ℕ) : b.slot i < b.store.length := Nat.mod_lt _ b.cap_pos

/-- what the readers see, oldest first -/
def window (b : CyclicBuffer α) : List α := List.ofFn fun i : Fin b.count => b.store.get ⟨b.slot i, b.slot_lt i⟩

@[simp] theorem window_length (b : CyclicBuffer α) : b.window.length = b.count := by simp [window]

theorem window_getElem (b : CyclicBuffer α) (i : ℕ) (h : i < b.window.length) :
    b.window[i] = b.store.get ⟨b.slot i, b.slot_lt i⟩ := by
  simp [window]

def push (b : CyclicBuffer α) (x : α) : CyclicBuffer α where
  store := b.store.set b.head x
  head := (b.head + 1) % b.cap
  count := min (b.count + 1) b.cap
  head_lt := by rw [List.length_set]; exact Nat.mod_lt _ b.cap_pos
  count_le := by rw [List.length_set]; exact Nat.min_le_right _ _

@[simp] theorem push_cap (b : CyclicBuffer α) (x : α) : (b.push x).cap = b.cap := by simp [push, cap]

@[simp] theorem push_count (b : CyclicBuffer α) (x : α) : (b.push x).count = min (b.count + 1) b.cap := rfl

/-- a slot at a non-zero distance below the capacity from `h` is not `h` -/
theorem add_mod_ne {h c d : ℕ} (hh : h < c) (hd : d < c) (h0 : 0 < d) : (h + d) % c ≠ h := by
  rcases Nat.lt_or_ge (h + d) c with hlt | hge
  · rw [Nat.mod_eq_of_lt hlt]; omega
  · rw [Nat.mod_eq_sub_mod hge, Nat.mod_eq_of_lt (by omega)]; omega

/-- how many elements a push evicts: 1 from a full buffer, else 0 -/
def evicted (b : CyclicBuffer α) : ℕ := b.count + 1 - b.cap

theorem slot_push (b : CyclicBuffer α) (x : α) (i : ℕ) : (b.push x).slot i = b.slot (i + b.evicted) := by
  have hle : b.count ≤ b.cap := b.count_le
  simp only [slot, push_cap, push_count, evicted]
  simp only [push, Nat.add_assoc, Nat.mod_add_mod]
  rcases Nat.lt_or_ge b.count b.cap with hlt | hge
  · rw [Nat.min_eq_left (by omega)]; congr 1; omega
  · rw [Nat.min_eq_right (by omega)]; congr 1; omega

theorem slot_count (b : CyclicBuffer α) : b.slot b.count = b.head := by
  have hle : b.count ≤ b.cap := b.count_le
  have hh : b.head < b.cap := b.head_lt
  rw [slot, show b.head + (b.cap - b.count) + b.count = b.head + b.cap by omega, Nat.add_mod_right,
    Nat.mod_eq_of_lt hh]

/-- the slots of the elements that survive a push are not the written one -/
theorem slot_ne_head (b : CyclicBuffer α) {j : ℕ} (hj : j < b.count) (he : b.evicted ≤ j) : b.slot j ≠ b.head := by
  have hle : b.count ≤ b.cap := b.count_le
  have hd : b.cap - b.count + j < b.cap := by omega
  rw [slot, Nat.add_assoc]
  exact add_mod_ne b.head_lt hd (by simp only [evicted] at he; omega)

/-- **A push appends, and drops the oldest element exactly when the buffer is full.** -/
theorem window_push (b : CyclicBuffer α) (x : α) : (b.push x).window = (b.window ++ [x]).rtake b.cap := by
  have hle : b.count ≤ b.cap := b.count_le
  have hdrop : (b.window ++ [x]).rtake b.cap = (b.window ++ [x]).drop b.evicted := by
    simp [List.rtake, evicted]
  rw [hdrop]
  apply List.ext_getElem
  · simp only [window_length, push_count, List.length_drop, List.length_append, List.length_singleton, evicted]; omega
  · intro i h1 h2
    simp only [window_length, push_count] at h1
    have hi : i + b.evicted ≤ b.count := by simp only [evicted]; omega
    have hlen : b.slot (i + b.evicted) < (b.store.set b.head x).length := by
      rw [List.length_set]; exact b.slot_lt _
    have hget : (b.push x).window[i] = (b.store.set b.head x)[b.slot (i + b.evicted)] := by
      rw [window_getElem]; simp only [slot_push]; rfl
    rw [hget, List.getElem_drop]
    simp only [Nat.add_comm b.evicted i]
    rcases Nat.lt_or_ge (i + b.evicted) b.count with hlt | hge
    · rw [List.getElem_append_left (by simpa using hlt), window_getElem]
      exact List.getElem_set_ne (b.slot_ne_head hlt (by omega)).symm hlen
    · -- the element just written
      have heq : i + b.evicted = b.count := by omega
      have hs : b.slot (i + b.evicted) = b.head := by rw [heq]; exact b.slot_count
      rw [List.getElem_append_right (by simp; omega)]
      simp [hs]

def pushAll (b : CyclicBuffer α) (xs : List α) : CyclicBuffer α := xs.foldl push b

@[simp] theorem pushAll_cap (b : CyclicBuffer α) (xs : List α) : (b.pushAll xs).cap = b.cap := by
  induction xs generalizing b with
  | nil => rfl
  | cons x xs ih => simpa [pushAll] using ih (b.push x)

/-- the last `n` of a list is unchanged when a prefix that is already cut to `n` is cut again -/
theorem rtake_rtake_append (l r : List α) (n : ℕ) : (l.rtake n ++ r).rtake n = (l ++ r).rtake n := by
  simp only [List.rtake, List.length_append, List.length_drop]
  rw [List.drop_append, List.drop_append, List.drop_drop, List.length_drop]
  congr 1
  · congr 1; omega
  · congr 1; omega

/-- **The window after any pushes.** -/
theorem window_pushAll (b : CyclicBuffer α) (xs : List α) : (b.pushAll xs).window = (b.window ++ xs).rtake b.cap := by
  induction xs generalizing b with
  | nil =>
    have h0 : b.count - b.cap = 0 := Nat.sub_eq_zero_of_le b.count_le
    simp [pushAll, List.rtake, h0]
  | cons x xs ih =>
    have h := ih (b.push x)
    rw [push_cap, window_push, rtake_rtake_append, List.append_assoc] at h
    exact h

theorem window_pushAll_empty (b : CyclicBuffer α) (h : b.count = 0) (xs : List α) :
    (b.pushAll xs).window = xs.rtake b.cap := by
  have hw : b.window = [] := by rw [← List.length_eq_zero_iff, window_length, h]
  rw [window_pushAll, hw, List.nil_append]

end CyclicBuffer

end GpuHealth
