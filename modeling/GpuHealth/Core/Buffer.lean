/-
Buffers of a fixed size with checked accesses, and the C strings in them. General: nothing here names a program.

A buffer is a `Frame`. Every access is an `Option`, none when it reaches outside. `memchr` looks at a number of bytes;
`strchr` and `cstring` go on until the terminator `nul`, and are outside when the buffer ends before it.

The lemmas are about a buffer whose content is known up to some byte: `store_at` writes behind a known front, and the
string functions find what a text in front of a terminator holds (`memchr_at`, `strchr_text`, `cstring_text`).
-/
import Mathlib.Data.List.TakeWhile
import GpuHealth.Core.Framing

namespace GpuHealth.Buffer

open GpuHealth.Framing

variable {β : Type} {n : ℕ}

/-- write `bs` at `i` -/
def store (mem : Frame β n) (i : ℕ) (bs : List β) : Option (Frame β n) :=
  if h : i + bs.length ≤ n then
    some ⟨mem.val.take i ++ bs ++ mem.val.drop (i + bs.length), by
      have hlen := mem.property
      simp only [List.length_append, List.length_take, List.length_drop]
      omega⟩
  else none

/-- the byte at `i` -/
def peek (mem : Frame β n) (i : ℕ) : Option β := mem.val[i]?

/-- a store inside the buffer, behind the bytes in front of it -/
theorem store_inside (mem : Frame β n) (i : ℕ) (bs : List β) (h : i + bs.length ≤ n) :
    ∃ mem', store mem i bs = some mem' ∧ mem'.val = mem.val.take i ++ bs ++ mem.val.drop (i + bs.length) :=
  ⟨_, dif_pos h, rfl⟩

/-- bytes stored behind a known front -/
theorem store_front {mem : Frame β n} {front bs : List β} (h : mem.val.take front.length = front)
    (hfits : front.length + bs.length ≤ n) :
    ∃ mem', store mem front.length bs = some mem' ∧ mem'.val.take (front ++ bs).length = front ++ bs := by
  obtain ⟨mem', hstore, hval⟩ := store_inside mem front.length bs hfits
  exact ⟨mem', hstore, by rw [hval, h, List.take_left' rfl]⟩

/-- one byte replaced -/
theorem store_at {mem : Frame β n} {a b : List β} {x : β} (h : mem.val = a ++ x :: b) (y : β) :
    ∃ mem', store mem a.length [y] = some mem' ∧ mem'.val = a ++ y :: b := by
  have hlen := mem.property
  rw [h, List.length_append, List.length_cons] at hlen
  obtain ⟨mem', hstore, hval⟩ := store_inside mem a.length [y] (by simp; omega)
  refine ⟨mem', hstore, ?_⟩
  have htail : (a ++ x :: b).drop (a.length + 1) = b := by
    rw [List.drop_length_add_append, List.drop_one, List.tail_cons]
  rw [hval, h, List.take_left' rfl, List.length_singleton, htail, List.append_assoc, List.singleton_append]

variable [DecidableEq β]

/-- the first `c` among `len` bytes -/
def memchr (mem : Frame β n) (c : β) (len : ℕ) : Option (Option ℕ) :=
  if len ≤ n then some ((mem.val.take len).idxOf? c) else none

/-- the first `c` of the string that begins here -/
def scan (nul c : β) : List β → Option (Option ℕ)
  | [] => none
  | b :: l => if b = c then some (some 0) else if b = nul then some none else (scan nul c l).map (Option.map (· + 1))

def strchr (nul : β) (mem : Frame β n) (i : ℕ) (c : β) : Option (Option ℕ) :=
  (scan nul c (mem.val.drop i)).map (Option.map (i + ·))

/-- the string that begins here -/
def readString (nul : β) : List β → Option (List β)
  | [] => none
  | b :: l => if b = nul then some [] else (readString nul l).map (b :: ·)

def cstring (nul : β) (mem : Frame β n) (i : ℕ) : Option (List β) := readString nul (mem.val.drop i)

/-! ## Texts -/

theorem idxOf?_append {a : List β} {c : β} (h : c ∉ a) (b : List β) : (a ++ c :: b).idxOf? c = some a.length := by
  induction a with
  | nil => simp [List.idxOf?_cons]
  | cons x a ih =>
    rw [List.mem_cons, not_or] at h
    rw [List.cons_append, List.idxOf?_cons, ih h.2]
    simp [Ne.symm h.1]

/-- the text in front of the first `c` -/
theorem takeWhile_append {a : List β} {c : β} (h : c ∉ a) (b : List β) : (a ++ c :: b).takeWhile (· ≠ c) = a := by
  rw [List.takeWhile_append_of_pos]
  · simp
  · intro x hx
    simpa using ne_of_mem_of_not_mem hx h

/-- and what is behind it -/
theorem dropWhile_append {a : List β} {c : β} (h : c ∉ a) (b : List β) :
    ((a ++ c :: b).dropWhile (· ≠ c)).drop 1 = b := by
  rw [List.dropWhile_append_of_pos]
  · simp
  · intro x hx
    simpa using ne_of_mem_of_not_mem hx h

theorem takeWhile_absent {a : List β} {c : β} (h : c ∉ a) : a.takeWhile (· ≠ c) = a :=
  List.takeWhile_eq_self_iff.2 fun x hx => by simpa using ne_of_mem_of_not_mem hx h

/-- a byte among the first `len`, and where -/
theorem memchr_at {mem : Frame β n} {a b : List β} {c : β} (h : mem.val = a ++ c :: b) (hc : c ∉ a) {len : ℕ}
    (hlen : a.length < len) (hn : len ≤ n) : memchr mem c len = some (some a.length) := by
  obtain ⟨k, rfl⟩ := Nat.exists_eq_add_of_lt hlen
  have hfront : mem.val.take (a.length + k + 1) = a ++ c :: b.take k := by
    rw [h, Nat.add_assoc, List.take_length_add_append, List.take_succ_cons]
  rw [memchr, if_pos hn, hfront, idxOf?_append hc]

theorem memchr_absent {mem : Frame β n} {c : β} {len : ℕ} (hc : c ∉ mem.val.take len) (hn : len ≤ n) :
    memchr mem c len = some none := by
  rw [memchr, if_pos hn, List.idxOf?_eq_none_iff.2 hc]

theorem scan_text {nul c : β} {t : List β} (hnul : nul ∉ t) (hc : c ≠ nul) (rest : List β) :
    scan nul c (t ++ nul :: rest) = some (t.idxOf? c) := by
  induction t with
  | nil => simp [scan, Ne.symm hc]
  | cons b t ih =>
    rw [List.mem_cons, not_or] at hnul
    rw [List.cons_append, scan, ih hnul.2, List.idxOf?_cons]
    by_cases hb : b = c
    · simp [hb]
    · simp [hb, Ne.symm hnul.1]

theorem readString_text {nul : β} {t : List β} (hnul : nul ∉ t) (rest : List β) :
    readString nul (t ++ nul :: rest) = some t := by
  induction t with
  | nil => simp [readString]
  | cons b t ih =>
    rw [List.mem_cons, not_or] at hnul
    rw [List.cons_append, readString, if_neg (Ne.symm hnul.1), ih hnul.2, Option.map_some]

theorem strchr_text {nul c : β} {mem : Frame β n} {a t rest : List β} (h : mem.val = a ++ t ++ nul :: rest)
    (hnul : nul ∉ t) (hc : c ≠ nul) : strchr nul mem a.length c = some ((t.idxOf? c).map (a.length + ·)) := by
  rw [strchr, h, List.append_assoc, List.drop_left' rfl, scan_text hnul hc, Option.map_some]

theorem cstring_text {nul : β} {mem : Frame β n} {a t rest : List β} (h : mem.val = a ++ t ++ nul :: rest)
    (hnul : nul ∉ t) : cstring nul mem a.length = some t := by
  rw [cstring, h, List.append_assoc, List.drop_left' rfl, readString_text hnul]

end GpuHealth.Buffer
