/-
Statistics of a list of values: mean, sample variance, counts, order statistics, and the rises and falls of a counter.
General: nothing here names a program.

`sorted_getElem_le` is the monotonicity of order statistics: when one list is pointwise at most another, so is every
element of its sorted version, although the two lists are sorted by different permutations.

`median_le_iff` decides the median by counting, without sorting.

`sorted_quantile`: the nearest-rank element of the sorted list is a `p`-quantile, of which there is one.

`rises` adds up the increments between neighbours, `falls` the decrements. `head_add_rises` is the telescoping
identity: what the difference of last and first element misses is what the list fell by.
-/
import GpuHealth.Core.Double
import Mathlib.Data.List.Sort

namespace GpuHealth.ListStats

variable {K : Type} [Arith K]

def mean (xs : List K) : K := xs.sum / xs.length

def sampleVariance (xs : List K) : K := (xs.map fun x => (x - mean xs) * (x - mean xs)).sum / (xs.length - 1)

theorem sampleVariance_nonneg {xs : List K} (h : 2 ≤ xs.length) : 0 ≤ sampleVariance xs := by
  have hlen : (2 : K) ≤ xs.length := by exact_mod_cast h
  apply div_nonneg
  · apply List.sum_nonneg
    intro y hy
    obtain ⟨x, -, rfl⟩ := List.mem_map.1 hy
    exact mul_self_nonneg _
  · linarith

/-- a loop that adds finite doubles adds their values -/
theorem foldl_add_fin {α : Type} (l : List α) (g : α → K) (c : K) :
    l.foldl (fun (sum : Dbl K) x => sum + .fin (g x)) (.fin c) = .fin (c + (l.map g).sum) := by
  induction l generalizing c with
  | nil => simp
  | cons x l ih => simp only [List.foldl_cons, Dbl.fin_add, ih, List.map_cons, List.sum_cons, add_assoc]

/-- a loop that counts the elements with a property -/
theorem foldl_count {α : Type} (l : List α) (p : α → Bool) (c : ℤ) :
    l.foldl (fun c x => if p x then c + 1 else c) c = c + (l.countP p : ℤ) := by
  induction l generalizing c with
  | nil => simp
  | cons x l ih =>
    rw [List.foldl_cons, ih, List.countP_cons]
    split_ifs <;> push_cast <;> ring

/-- when a property holds at an element only if it holds at all earlier ones, it holds exactly at the first `countP` -/
theorem getElem_iff_lt_countP {α : Type} (p : α → Bool) {l : List α} (h : l.Pairwise fun a b => p b = true → p a = true)
    {d : ℕ} (hd : d < l.length) : p l[d] = true ↔ d < l.countP p := by
  induction l generalizing d with
  | nil => simp at hd
  | cons a l ih =>
    rw [List.pairwise_cons] at h
    by_cases ha : p a = true
    · rw [List.countP_cons_of_pos ha]
      cases d with
      | zero => simp [ha]
      | succ d => simpa using ih h.2 (by simpa using hd)
    · have hnone : l.countP p = 0 := List.countP_eq_zero.2 fun b hb hpb => ha (h.1 b hb hpb)
      rw [List.countP_cons_of_neg ha, hnone]
      have hfalse : ¬ p (a :: l)[d] = true := by
        cases d with
        | zero => exact ha
        | succ d => exact fun hpd => ha (h.1 _ (List.getElem_mem _) hpd)
      simp [hfalse]

/-- a count reaches a threshold that the length reaches exactly when every index below the threshold is counted -/
theorem le_countP_iff {α : Type} (p : α → Bool) {l : List α} (h : l.Pairwise fun a b => p b = true → p a = true) {r : K}
    (hr : r ≤ l.length) : r ≤ (l.countP p : K) ↔ ∀ d (hd : d < l.length), (d : K) < r → p l[d] = true := by
  constructor
  · intro hle d hd hdr
    rw [getElem_iff_lt_countP p h hd]
    exact_mod_cast hdr.trans_le hle
  · intro hall
    by_contra hlt
    rw [not_le] at hlt
    have hlen : l.countP p < l.length := by exact_mod_cast hlt.trans_le hr
    exact lt_irrefl _ ((getElem_iff_lt_countP p h hlen).1 (hall _ hlen hlt))

/-! ## Pointwise comparison -/

/-- a count grows with a property that carries over from each element to its partner -/
theorem countP_le_of_forall₂ {α β : Type} {R : α → β → Prop} {p : α → Bool} {q : β → Bool}
    (hpq : ∀ a b, R a b → p a = true → q b = true) {l : List α} {l' : List β} (h : List.Forall₂ R l l') :
    l.countP p ≤ l'.countP q := by
  induction h with
  | nil => exact le_rfl
  | @cons a b l l' hab _ ih =>
    rw [List.countP_cons, List.countP_cons]
    by_cases ha : p a = true
    · rw [if_pos ha, if_pos (hpq a b hab ha)]
      omega
    · rw [if_neg ha]
      omega

/-- in a sorted list the elements with a property that passes to smaller ones come first -/
theorem sorted_iff {p : K → Bool} (hp : ∀ a b, a ≤ b → p b = true → p a = true) {xs : List K} {d : ℕ}
    (hd : d < (xs.insertionSort (· ≤ ·)).length) : p (xs.insertionSort (· ≤ ·))[d] = true ↔ d < xs.countP p := by
  have hcount := getElem_iff_lt_countP p ((List.pairwise_insertionSort (· ≤ ·) xs).imp fun hab => hp _ _ hab) hd
  rwa [(List.perm_insertionSort (· ≤ ·) xs).countP_eq] at hcount

theorem sorted_le_iff {xs : List K} (v : K) {d : ℕ} (hd : d < (xs.insertionSort (· ≤ ·)).length) :
    (xs.insertionSort (· ≤ ·))[d] ≤ v ↔ d < xs.countP (· ≤ v) := by
  rw [← sorted_iff (fun a b hab hb => decide_eq_true (hab.trans (of_decide_eq_true hb))) hd, decide_eq_true_eq]

theorem sorted_lt_iff {xs : List K} (v : K) {d : ℕ} (hd : d < (xs.insertionSort (· ≤ ·)).length) :
    (xs.insertionSort (· ≤ ·))[d] < v ↔ d < xs.countP (· < v) := by
  rw [← sorted_iff (fun a b hab hb => decide_eq_true (hab.trans_lt (of_decide_eq_true hb))) hd, decide_eq_true_eq]

/-- **Order statistics are monotone under pointwise domination.** -/
theorem sorted_getElem_le {xs ys : List K} (h : List.Forall₂ (· ≤ ·) xs ys) {d : ℕ}
    (hx : d < (xs.insertionSort (· ≤ ·)).length) (hy : d < (ys.insertionSort (· ≤ ·)).length) :
    (xs.insertionSort (· ≤ ·))[d] ≤ (ys.insertionSort (· ≤ ·))[d] := by
  rw [sorted_le_iff]
  have hcount : ys.countP (· ≤ (ys.insertionSort (· ≤ ·))[d]) ≤ xs.countP (· ≤ (ys.insertionSort (· ≤ ·))[d]) := by
    apply countP_le_of_forall₂ (R := fun y x => x ≤ y) _ h.flip
    intro y x hxy hyv
    simp only [decide_eq_true_eq] at hyv ⊢
    exact hxy.trans hyv
  exact ((sorted_le_iff _ hy).1 le_rfl).trans_le hcount

/-! ## Quantiles -/

/-- an element with a share of at least `p` up to it, and of less than `p` below it -/
structure IsQuantile (p : ℚ) (xs : List K) (v : K) : Prop where
  mem : v ∈ xs
  atMost : p * xs.length ≤ xs.countP (· ≤ v)
  below : (xs.countP (· < v) : ℚ) < p * xs.length

/-- the order of the list does not matter -/
theorem IsQuantile.perm {p : ℚ} {xs ys : List K} {v : K} (h : IsQuantile p xs v) (hperm : xs.Perm ys) :
    IsQuantile p ys v := by
  refine ⟨hperm.mem_iff.1 h.mem, ?_, ?_⟩
  · rw [← hperm.length_eq, ← hperm.countP_eq]
    exact h.atMost
  · rw [← hperm.length_eq, ← hperm.countP_eq]
    exact h.below

theorem IsQuantile.le {p : ℚ} {xs : List K} {v w : K} (hv : IsQuantile p xs v) (hw : IsQuantile p xs w) : w ≤ v := by
  by_contra hlt
  rw [not_le] at hlt
  have hcount : xs.countP (· ≤ v) ≤ xs.countP (· < w) := by
    refine List.countP_mono_left fun x _ hx => ?_
    rw [decide_eq_true_eq] at hx ⊢
    exact hx.trans_lt hlt
  have hcast : (xs.countP (· ≤ v) : ℚ) ≤ xs.countP (· < w) := by exact_mod_cast hcount
  linarith [hv.atMost, hw.below]

theorem IsQuantile.unique {p : ℚ} {xs : List K} {v w : K} (hv : IsQuantile p xs v) (hw : IsQuantile p xs w) : v = w :=
  le_antisymm (hw.le hv) (hv.le hw)

/-- **The nearest rank.** The element at rank ⌈p n⌉ of the sorted list is the quantile. -/
theorem sorted_quantile {p : ℚ} (h0 : 0 < p) (h1 : p ≤ 1) {xs : List K} (hne : xs ≠ []) :
    IsQuantile p xs ((xs.insertionSort (· ≤ ·)).getD (⌈p * xs.length⌉₊ - 1) 0) := by
  have hpos : (0 : ℚ) < xs.length := by exact_mod_cast List.length_pos_of_ne_nil hne
  have hrank : 0 < ⌈p * xs.length⌉₊ := Nat.ceil_pos.2 (by positivity)
  have hmost : ⌈p * xs.length⌉₊ ≤ xs.length := Nat.ceil_le.2 (mul_le_of_le_one_left hpos.le h1)
  have hd : ⌈p * xs.length⌉₊ - 1 < (xs.insertionSort (· ≤ ·)).length := by
    rw [List.length_insertionSort]
    omega
  rw [List.getD_eq_getElem?_getD, List.getElem?_eq_getElem hd, Option.getD_some]
  set v := (xs.insertionSort (· ≤ ·))[⌈p * xs.length⌉₊ - 1] with hv
  refine ⟨?_, ?_, ?_⟩
  · exact (List.perm_insertionSort (· ≤ ·) xs).mem_iff.1 (List.getElem_mem hd)
  · have hcount := (sorted_le_iff v hd).1 le_rfl
    have hle : ⌈p * xs.length⌉₊ ≤ xs.countP (· ≤ v) := by omega
    calc p * xs.length
      _ ≤ (⌈p * xs.length⌉₊ : ℚ) := Nat.le_ceil _
      _ ≤ xs.countP (· ≤ v) := by exact_mod_cast hle
  · have hcount : xs.countP (· < v) ≤ ⌈p * xs.length⌉₊ - 1 := by
      rw [← not_lt, ← sorted_lt_iff v hd]
      exact lt_irrefl _
    have hlt : xs.countP (· < v) < ⌈p * xs.length⌉₊ := by omega
    exact Nat.lt_ceil.1 hlt

/-! ## The median -/

/-- the middle of the sorted list, the mean of the two middle ones when their number is even -/
def median (xs : List K) : K :=
  if xs.length % 2 = 1 then (xs.insertionSort (· ≤ ·)).getD (xs.length / 2) 0
  else ((xs.insertionSort (· ≤ ·)).getD (xs.length / 2 - 1) 0 + (xs.insertionSort (· ≤ ·)).getD (xs.length / 2) 0) / 2

/-- the two middle ones, of either parity -/
theorem median_eq {xs : List K} (hne : xs ≠ []) :
    median xs = ((xs.insertionSort (· ≤ ·)).getD ((xs.length - 1) / 2) 0 +
      (xs.insertionSort (· ≤ ·)).getD (xs.length / 2) 0) / 2 := by
  have hpos := List.length_pos_of_ne_nil hne
  unfold median
  split_ifs with hodd
  · rw [show (xs.length - 1) / 2 = xs.length / 2 by omega]
    ring
  · rw [show (xs.length - 1) / 2 = xs.length / 2 - 1 by omega]

/-- **The median by counting.** At least half of the list is within `v - x` and more than half within `v + x`. -/
theorem median_le_iff {xs : List K} (hne : xs ≠ []) (v : K) : median xs ≤ v ↔
    ∃ x, 0 ≤ x ∧ xs.length - xs.length / 2 ≤ xs.countP (· ≤ v - x) ∧ xs.length / 2 + 1 ≤ xs.countP (· ≤ v + x) := by
  have hpos := List.length_pos_of_ne_nil hne
  have hlen : (xs.insertionSort (· ≤ ·)).length = xs.length := List.length_insertionSort _ _
  have hlo : (xs.length - 1) / 2 < (xs.insertionSort (· ≤ ·)).length := by omega
  have hhi : xs.length / 2 < (xs.insertionSort (· ≤ ·)).length := by omega
  have hsorted : (xs.insertionSort (· ≤ ·))[(xs.length - 1) / 2] ≤ (xs.insertionSort (· ≤ ·))[xs.length / 2] :=
    (List.pairwise_insertionSort (· ≤ ·) xs).rel_get_of_le (a := ⟨_, hlo⟩) (b := ⟨_, hhi⟩) (by simp; omega)
  have hlow : ∀ u, xs.length - xs.length / 2 ≤ xs.countP (· ≤ u) ↔ (xs.insertionSort (· ≤ ·))[(xs.length - 1) / 2] ≤ u := by
    intro u
    rw [sorted_le_iff u hlo]
    omega
  have hhigh : ∀ u, xs.length / 2 + 1 ≤ xs.countP (· ≤ u) ↔ (xs.insertionSort (· ≤ ·))[xs.length / 2] ≤ u := by
    intro u
    rw [sorted_le_iff u hhi]
    exact Nat.succ_le_iff
  simp only [hlow, hhigh]
  rw [median_eq hne, List.getD_eq_getElem?_getD, List.getD_eq_getElem?_getD, List.getElem?_eq_getElem hlo,
    List.getElem?_eq_getElem hhi, Option.getD_some, Option.getD_some]
  refine ⟨?_, ?_⟩
  · intro h
    refine ⟨v - (xs.insertionSort (· ≤ ·))[(xs.length - 1) / 2], ?_, ?_, ?_⟩ <;> linarith
  · rintro ⟨x, -, h1, h2⟩
    linarith

/-! ## Rises and falls -/

/-- the sum of the increments between neighbours -/
def rises : List ℕ → ℕ
  | a :: b :: l => (b - a) + rises (b :: l)
  | _ => 0

/-- the sum of the decrements between neighbours -/
def falls : List ℕ → ℕ
  | a :: b :: l => (a - b) + falls (b :: l)
  | _ => 0

theorem head_add_rises (xs : List ℕ) (h : xs ≠ []) : xs.head h + rises xs = xs.getLast h + falls xs := by
  induction xs with
  | nil => exact absurd rfl h
  | cons a l ih =>
    cases l with
    | nil => rfl
    | cons b l =>
      have hl := ih (List.cons_ne_nil b l)
      simp only [List.head_cons, List.getLast_cons_cons, rises, falls] at hl ⊢
      omega

theorem rises_eq_zero (xs : List ℕ) : rises xs = 0 ↔ xs.IsChain (· ≥ ·) := by
  induction xs with
  | nil => simp [rises]
  | cons a l ih =>
    cases l with
    | nil => simp [rises]
    | cons b l => rw [List.isChain_cons_cons, ← ih, rises, Nat.add_eq_zero_iff, Nat.sub_eq_zero_iff_le]

/-- rising somewhere, as a pair of neighbours -/
theorem rises_ne_zero_iff (xs : List ℕ) : rises xs ≠ 0 ↔ ∃ i, ∃ h : i + 1 < xs.length, xs[i] < xs[i + 1] := by
  rw [Ne, rises_eq_zero, List.isChain_iff_getElem]
  simp only [ge_iff_le, not_forall, not_le]

end GpuHealth.ListStats
