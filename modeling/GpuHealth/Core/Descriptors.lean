/-
Descriptor tables of processes. General: nothing here names a program.

A table gives a process what is open at a number. `openAt`, `close`, `fork` and `exit` are what the kernel does with the
tables; it may choose any free number.

`Lists Q t p l`: of the things that `Q` picks out, process `p` has those of `l` open, at their numbers, and no others.
The rules say what each call makes of the list; a call of another process leaves it alone.

`Unheld t d`: no process has `d` open, as at the other end of a pipe whose reader sees the end of the file.
-/
import Mathlib.Tactic

namespace GpuHealth.Descriptors

abbrev Tables (P D : Type) := P → ℕ → Option D

section Held

variable {P D : Type}

def Unheld (t : Tables P D) (d : D) : Prop := ∀ p fd, t p fd ≠ some d

structure Lists (Q : D → Prop) (t : Tables P D) (p : P) (l : List (ℕ × D)) : Prop where
  exact : ∀ fd d, Q d → (t p fd = some d ↔ (fd, d) ∈ l)
  picked : ∀ e ∈ l, Q e.2
  numbers : (l.map Prod.fst).Nodup

variable {Q : D → Prop} {t t' : Tables P D} {p q : P} {l l' : List (ℕ × D)} {fd : ℕ}

theorem Lists.congr (h : Lists Q t p l) (htable : t' q = t p) : Lists Q t' q l :=
  ⟨fun fd d hd => by rw [htable]; exact h.exact fd d hd, h.picked, h.numbers⟩

theorem Lists.perm (h : Lists Q t p l) (hperm : l.Perm l') : Lists Q t p l' where
  exact := fun fd d hd => (h.exact fd d hd).trans hperm.mem_iff
  picked := fun e he => h.picked e (hperm.mem_iff.2 he)
  numbers := (hperm.map Prod.fst).nodup_iff.1 h.numbers

theorem Lists.mem (h : Lists Q t p l) {e : ℕ × D} (he : e ∈ l) : t p e.1 = some e.2 :=
  (h.exact e.1 e.2 (h.picked e he)).2 he

/-- a number that is free is not in the list -/
theorem Lists.free (h : Lists Q t p l) (hfree : t p fd = none) : fd ∉ l.map Prod.fst := by
  intro hmem
  obtain ⟨e, he, rfl⟩ := List.mem_map.1 hmem
  rw [h.mem he] at hfree
  cases hfree

end Held

variable {P D : Type} [DecidableEq P]

def openAt (t : Tables P D) (p : P) (fd : ℕ) (d : D) : Tables P D := Function.update t p (Function.update (t p) fd (some d))

def close (t : Tables P D) (p : P) (fd : ℕ) : Tables P D := Function.update t p (Function.update (t p) fd none)

def fork (t : Tables P D) (p child : P) : Tables P D := Function.update t child (t p)

def exit (t : Tables P D) (p : P) : Tables P D := Function.update t p fun _ => none

variable {Q : D → Prop} {t : Tables P D} {p q : P} {l : List (ℕ × D)} {fd : ℕ} {d : D}

/-! ## Other processes -/

theorem lists_openAt_frame (h : Lists Q t q l) (hne : q ≠ p) (fd : ℕ) (d : D) : Lists Q (openAt t p fd d) q l :=
  h.congr (Function.update_of_ne hne _ _)

theorem lists_close_frame (h : Lists Q t q l) (hne : q ≠ p) (fd : ℕ) : Lists Q (close t p fd) q l :=
  h.congr (Function.update_of_ne hne _ _)

theorem lists_fork_frame {child : P} (h : Lists Q t q l) (hne : q ≠ child) (p : P) : Lists Q (fork t p child) q l :=
  h.congr (Function.update_of_ne hne _ _)

theorem lists_exit_frame (h : Lists Q t q l) (hne : q ≠ p) : Lists Q (exit t p) q l :=
  h.congr (Function.update_of_ne hne _ _)

/-! ## What a process has open -/

theorem lists_openAt (h : Lists Q t p l) (hfree : t p fd = none) (hd : Q d) :
    Lists Q (openAt t p fd d) p ((fd, d) :: l) where
  exact := by
    intro fd' d' hd'
    rw [openAt, Function.update_self]
    by_cases heq : fd' = fd
    · subst heq
      rw [Function.update_self, Option.some.injEq]
      constructor
      · rintro rfl
        exact List.mem_cons_self
      · intro hmem
        rcases List.mem_cons.1 hmem with hhead | hrest
        · exact (Prod.mk.inj hhead).2.symm
        · exact absurd (List.mem_map_of_mem hrest) (h.free hfree)
    · rw [Function.update_of_ne heq, h.exact fd' d' hd', List.mem_cons]
      exact ⟨Or.inr, fun hor => hor.resolve_left fun hhead => heq (Prod.mk.inj hhead).1⟩
  picked := List.forall_mem_cons.2 ⟨hd, h.picked⟩
  numbers := List.nodup_cons.2 ⟨h.free hfree, h.numbers⟩

/-- something that is not picked out is opened -/
theorem lists_openAt_other (h : Lists Q t p l) (hfree : t p fd = none) (hd : ¬ Q d) :
    Lists Q (openAt t p fd d) p l where
  exact := by
    intro fd' d' hd'
    rw [openAt, Function.update_self, ← h.exact fd' d' hd']
    by_cases heq : fd' = fd
    · subst heq
      rw [Function.update_self, hfree, Option.some.injEq]
      constructor
      · rintro rfl
        exact absurd hd' hd
      · exact nofun
    · rw [Function.update_of_ne heq]
  picked := h.picked
  numbers := h.numbers

theorem lists_close (h : Lists Q t p ((fd, d) :: l)) : Lists Q (close t p fd) p l where
  exact := by
    intro fd' d' hd'
    obtain ⟨hnew, -⟩ := List.nodup_cons.1 h.numbers
    rw [close, Function.update_self]
    by_cases heq : fd' = fd
    · subst heq
      rw [Function.update_self]
      exact ⟨nofun, fun hmem => absurd (List.mem_map_of_mem hmem) hnew⟩
    · rw [Function.update_of_ne heq, h.exact fd' d' hd', List.mem_cons]
      exact ⟨fun hor => hor.resolve_left fun hhead => heq (Prod.mk.inj hhead).1, Or.inr⟩
  picked := (List.forall_mem_cons.1 h.picked).2
  numbers := (List.nodup_cons.1 h.numbers).2

/-- something that is not picked out is closed -/
theorem lists_close_other (h : Lists Q t p l) (hopen : t p fd = some d) (hd : ¬ Q d) :
    Lists Q (close t p fd) p l where
  exact := by
    intro fd' d' hd'
    rw [close, Function.update_self, ← h.exact fd' d' hd']
    by_cases heq : fd' = fd
    · subst heq
      rw [Function.update_self, hopen, Option.some.injEq]
      exact ⟨nofun, fun hsame => absurd (hsame ▸ hd') hd⟩
    · rw [Function.update_of_ne heq]
  picked := h.picked
  numbers := h.numbers

/-- the child has what its parent has -/
theorem lists_fork (h : Lists Q t p l) (child : P) : Lists Q (fork t p child) child l :=
  h.congr (Function.update_self _ _ _)

theorem lists_exit (Q : D → Prop) (t : Tables P D) (p : P) : Lists Q (exit t p) p [] where
  exact := by
    intro fd d _
    rw [exit, Function.update_self]
    exact ⟨nofun, nofun⟩
  picked := nofun
  numbers := List.nodup_nil

end GpuHealth.Descriptors
