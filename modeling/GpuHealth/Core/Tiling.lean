/-
Spans that follow each other on a line. General: nothing here names a program.

`Tiles a l b`: the spans of `l` lead from `a` to `b`, without gaps, and none is empty.

- `tiles_sum`: their widths add up to the whole.
- `tiles_count`: where every span begins in front of `e`, and is at least `w` wide unless it reaches `e`, there are no
  more than begin at distances of `w`.
-/
import Mathlib.Tactic

namespace GpuHealth.Tiling

variable {α : Type} (start stop : α → ℕ)

def Tiles : ℕ → List α → ℕ → Prop
  | a, [], b => a = b
  | a, x :: l, b => start x = a ∧ start x < stop x ∧ Tiles (stop x) l b

variable {start stop} {a b e w : ℕ} {l : List α} {x : α}

theorem tiles_snoc (h : Tiles start stop a l b) (hstart : start x = b) (hwidth : start x < stop x) :
    Tiles start stop a (l ++ [x]) (stop x) := by
  induction l generalizing a with
  | nil => exact ⟨hstart.trans (Eq.symm h), hwidth, rfl⟩
  | cons y l ih => exact ⟨h.1, h.2.1, ih h.2.2⟩

theorem tiles_width (h : Tiles start stop a l b) : ∀ x ∈ l, start x < stop x := by
  induction l generalizing a with
  | nil => exact nofun
  | cons y l ih => exact List.forall_mem_cons.2 ⟨h.2.1, ih h.2.2⟩

/-- **The widths add up.** -/
theorem tiles_sum (h : Tiles start stop a l b) : a + (l.map fun x => stop x - start x).sum = b := by
  induction l generalizing a with
  | nil => exact h
  | cons y l ih =>
    have hrest := ih h.2.2
    have hy := h.2.1
    have ha := h.1
    rw [List.map_cons, List.sum_cons]
    omega

/-- **How many spans there are.** -/
theorem tiles_count (h : Tiles start stop a l b) (hne : l ≠ [])
    (hspan : ∀ x ∈ l, start x < e ∧ (start x + w ≤ stop x ∨ e ≤ stop x)) : a + w * (l.length - 1) < e := by
  induction l generalizing a with
  | nil => exact absurd rfl hne
  | cons y l ih =>
    obtain ⟨rfl, -, hrest⟩ := h
    obtain ⟨hy, hmore⟩ := List.forall_mem_cons.1 hspan
    cases l with
    | nil => simpa using hy.1
    | cons z l =>
      have hz : start z = stop y := hrest.1
      have hnext := ih hrest (List.cons_ne_nil z l) hmore
      have hwide := hy.2.resolve_right (by have hlt := (hmore z List.mem_cons_self).1; omega)
      simp only [List.length_cons, Nat.add_sub_cancel] at hnext ⊢
      rw [Nat.mul_succ]
      omega

end GpuHealth.Tiling
