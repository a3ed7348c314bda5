/-
Frames of a fixed size on a stream of bytes. General: nothing here names a program.

A frame of size `n` is a list of `n` bytes, and a stream is written as a concatenation of frames. A reader that cuts the
stream every `n` bytes gets the frames back:
- `frames_initial`: what it has cut so far are the first frames written;
- `frames_eq`: once it has everything but a remainder shorter than a frame, they are all of them.

`perWriter` is one writer's part of a log of frames tagged with their writers; `replaceWriter` puts another in its place.
-/
import Mathlib.Tactic

namespace GpuHealth.Framing

variable {β : Type} {n : ℕ}

abbrev Frame (β : Type) (n : ℕ) := { bytes : List β // bytes.length = n }

/-- the bytes of the frames, in order -/
def concat (frames : List (Frame β n)) : List β := (frames.map Subtype.val).flatten

@[simp] theorem concat_nil : concat ([] : List (Frame β n)) = [] := rfl

@[simp] theorem concat_cons (f : Frame β n) (frames : List (Frame β n)) :
    concat (f :: frames) = f.val ++ concat frames := by
  simp [concat]

@[simp] theorem concat_append (frames frames' : List (Frame β n)) :
    concat (frames ++ frames') = concat frames ++ concat frames' := by
  simp [concat]

/-- **A reader has cut a prefix of the frames.** -/
theorem frames_initial {frames written : List (Frame β n)} {rest part : List β}
    (h : concat frames ++ rest = concat written ++ part) (hpart : part.length < n) : frames <+: written := by
  induction frames generalizing written with
  | nil => exact List.nil_prefix
  | cons f frames ih =>
    cases written with
    | nil =>
      -- nothing was written but the remainder, which is shorter than the frame read
      have hlen := congrArg List.length h
      have hf := f.property
      simp only [concat_cons, concat_nil, List.length_append, List.length_nil] at hlen
      omega
    | cons g written =>
      rw [concat_cons, concat_cons, List.append_assoc, List.append_assoc] at h
      obtain ⟨hfg, hrest⟩ := List.append_inj h (f.property.trans g.property.symm)
      rw [Subtype.ext hfg]
      exact List.cons_prefix_cons.2 ⟨rfl, ih hrest⟩

/-- **A reader that has everything has cut all frames.** -/
theorem frames_eq {frames written : List (Frame β n)} {rest part : List β}
    (h : concat frames ++ rest = concat written ++ part) (hrest : rest.length < n) (hpart : part.length < n) :
    frames = written :=
  (frames_initial h hpart).eq_of_length_le (frames_initial h.symm hrest).length_le

/-! ## Logs of several writers -/

section Writers

variable {T α : Type} [DecidableEq T]

def perWriter (t : T) (log : List (T × α)) : List α := (log.filter fun e => e.1 = t).map Prod.snd

@[simp] theorem perWriter_nil (t : T) : perWriter t ([] : List (T × α)) = [] := rfl

theorem perWriter_snoc_self (t : T) (log : List (T × α)) (a : α) :
    perWriter t (log ++ [(t, a)]) = perWriter t log ++ [a] := by
  simp [perWriter]

theorem perWriter_snoc_other {t u : T} (h : u ≠ t) (log : List (T × α)) (a : α) :
    perWriter u (log ++ [(t, a)]) = perWriter u log := by
  simp [perWriter, Ne.symm h]

theorem mem_perWriter {t : T} {log : List (T × α)} {a : α} : a ∈ perWriter t log ↔ (t, a) ∈ log := by
  simp only [perWriter, List.mem_map, List.mem_filter, decide_eq_true_eq]
  constructor
  · intro h
    obtain ⟨e, ⟨he, rfl⟩, rfl⟩ := h
    exact he
  · intro h
    exact ⟨(t, a), ⟨h, rfl⟩, rfl⟩

theorem perWriter_append (t : T) (log log' : List (T × α)) :
    perWriter t (log ++ log') = perWriter t log ++ perWriter t log' := by
  simp [perWriter]

/-- the log without the part of writer `t`, and `l` for it -/
def replaceWriter (t : T) (log : List (T × α)) (l : List α) : List (T × α) :=
  log.filter (fun e => e.1 ≠ t) ++ l.map fun a => (t, a)

theorem perWriter_replace_self (t : T) (log : List (T × α)) (l : List α) : perWriter t (replaceWriter t log l) = l := by
  have hall : (l.map fun a => (t, a)).filter (fun e => decide (e.1 = t)) = l.map fun a => (t, a) := by
    rw [List.filter_eq_self]
    simp
  simp [perWriter, replaceWriter, List.filter_filter, hall, Function.comp_def]

theorem perWriter_replace_other {t u : T} (h : u ≠ t) (log : List (T × α)) (l : List α) :
    perWriter u (replaceWriter t log l) = perWriter u log := by
  have hkeep : (fun e : T × α => decide (e.1 = u) && decide (e.1 ≠ t)) = fun e => decide (e.1 = u) := by
    funext e
    by_cases he : e.1 = u
    · simp [he, h]
    · simp [he]
  have hnone : (l.map fun a => (t, a)).filter (fun e => decide (e.1 = u)) = [] := by
    rw [List.filter_eq_nil_iff]
    simp [Ne.symm h]
  rw [perWriter, perWriter, replaceWriter, List.filter_append, List.filter_filter, hkeep, hnone, List.append_nil]

end Writers

end GpuHealth.Framing
