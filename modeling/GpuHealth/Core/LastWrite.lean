/-
What remains of a sequence of overwrites. General: nothing here names a program.

- `lastWith p l`: the last element of `l` with the property `p`.
- `Written conv t old new`: a field that held `old` holds `new` after an optional write of the text `t`, which `conv`
  turns into a value. `foldlM_written`: over a loop whose every step is such a write, or fails, the field has been
  written the last text; `foldlM_eq_none`: such a loop fails exactly when one of its inputs does.
-/
import Mathlib.Tactic

namespace GpuHealth.LastWrite

variable {α : Type}

def lastWith (p : α → Bool) (l : List α) : Option α := (l.filter p).getLast?

@[simp] theorem lastWith_nil (p : α → Bool) : lastWith p [] = none := rfl

theorem lastWith_append (p : α → Bool) (l r : List α) : lastWith p (l ++ r) = (lastWith p r).or (lastWith p l) := by
  rw [lastWith, List.filter_append, List.getLast?_append]
  rfl

/-- the newest element hides the older ones -/
theorem lastWith_snoc (p : α → Bool) (l : List α) (a : α) :
    lastWith p (l ++ [a]) = if p a then some a else lastWith p l := by
  rw [lastWith_append]
  cases h : p a <;> simp [lastWith, h]

/-- the last one, spelled out -/
theorem lastWith_eq_of_split {p : α → Bool} {pre post : List α} {a : α} (ha : p a = true)
    (hpost : ∀ b ∈ post, p b = false) : lastWith p (pre ++ a :: post) = some a := by
  have hnone : post.filter p = [] := List.filter_eq_nil_iff.2 fun b hb => by simp [hpost b hb]
  rw [lastWith_append, lastWith, List.filter_cons_of_pos ha, hnone]
  rfl

theorem lastWith_eq_none {p : α → Bool} {l : List α} : lastWith p l = none ↔ ∀ a ∈ l, p a = false := by
  rw [lastWith, List.getLast?_eq_none_iff, List.filter_eq_nil_iff]
  simp only [Bool.not_eq_true]

theorem lastWith_isSome {p : α → Bool} {l : List α} : (lastWith p l).isSome = true ↔ ∃ a ∈ l, p a = true := by
  rw [Option.isSome_iff_ne_none, Ne, lastWith_eq_none]
  simp only [not_forall, Bool.not_eq_false, exists_prop]

/-! ## Loops that write, or fail -/

section Loop

variable {σ ι τ ν : Type} {f : σ → ι → Option σ}

/-- the field after an optional write -/
def Written (conv : τ → Option ν) (t : Option τ) (old new : ν) : Prop :=
  match t with
  | some t => conv t = some new
  | none => new = old

theorem foldlM_eq_none {bad : ι → Prop} {l : List ι} (hf : ∀ s, ∀ i ∈ l, f s i = none ↔ bad i) (s : σ) :
    l.foldlM f s = none ↔ ∃ i ∈ l, bad i := by
  induction l generalizing s with
  | nil => simp
  | cons i l ih =>
    have hrest := ih fun s j hj => hf s j (List.mem_cons_of_mem _ hj)
    rw [List.foldlM_cons, List.exists_mem_cons_iff, ← hf s i List.mem_cons_self]
    cases f s i with
    | none => simp
    | some s' => simpa using hrest s'

/-- inputs without effect can be dropped -/
theorem foldlM_skip {skip : List ι} (h : ∀ s, ∀ i ∈ skip, f s i = some s) (before after : List ι) (s : σ) :
    (before ++ (skip ++ after)).foldlM f s = (before ++ after).foldlM f s := by
  have hskip : ∀ s, skip.foldlM f s = some s := by
    intro s
    induction skip with
    | nil => rfl
    | cons i skip ih =>
      rw [List.foldlM_cons, h s i List.mem_cons_self]
      exact ih fun s j hj => h s j (List.mem_cons_of_mem _ hj)
  rw [List.foldlM_append, List.foldlM_append]
  simp only [List.foldlM_append, hskip, Option.bind_eq_bind, Option.bind_some]

/-- **The last write remains.** -/
theorem foldlM_written (field : σ → ν) {text : ι → Option τ} {conv : τ → Option ν} {l : List ι}
    (hf : ∀ s s', ∀ i ∈ l, f s i = some s' → Written conv (text i) (field s) (field s')) {s s' : σ}
    (h : l.foldlM f s = some s') : Written conv (l.filterMap text).getLast? (field s) (field s') := by
  induction l using List.reverseRecOn generalizing s' with
  | nil => exact congrArg field (Option.some.inj h).symm
  | append_singleton l i ih =>
    rw [List.foldlM_append] at h
    obtain ⟨s₁, hl, hi⟩ := Option.bind_eq_some_iff.1 h
    have hstep := hf s₁ s' i (by simp) (by simpa using hi)
    have hpast := ih (fun s s' j hj => hf s s' j (List.mem_append_left _ hj)) hl
    rw [List.filterMap_append]
    cases ht : text i with
    | none =>
      rw [ht] at hstep
      have hsame : field s' = field s₁ := hstep
      rw [hsame]
      simpa [ht] using hpast
    | some t =>
      rw [ht] at hstep
      have hval : conv t = some (field s') := hstep
      simpa [ht, Written] using hval

end Loop

end GpuHealth.LastWrite
