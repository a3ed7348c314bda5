/-
C's `int` arithmetic, array accesses and counting loops with their checks. General: nothing here names a program.

Every operation is an `Option`, none where C leaves the behaviour undefined: an `int` expression outside 32 bits, a
division or remainder by zero, an access outside an array. Divisions of doubles are defined by IEEE 754 for every
divisor; `realDiv` is none for a zero divisor all the same.

`forLoop_inv` is the invariant rule of `for (int i = 0; i < n; i++)`; a loop whose body cannot fail is a fold
(`forLoop_fold`), one that counts stays in range (`forLoop_count`), and one that stores at `i` fills the front of the
array (`forLoop_fill`) or, with more passes than the array has entries, fails (`forLoop_overrun`).
-/
import GpuHealth.Core.Double
import GpuHealth.Core.Buffer

namespace GpuHealth.Checked

open GpuHealth.Framing GpuHealth.Buffer

/-! ## `int` -/

/-- the value of an `int` expression -/
def int32 (x : ℤ) : Option ℤ := if -2 ^ 31 ≤ x ∧ x < 2 ^ 31 then some x else none

def intDiv (a b : ℤ) : Option ℤ := if b = 0 then none else int32 (a.tdiv b)

/-- defined where the quotient is -/
def intMod (a b : ℤ) : Option ℤ := if b = 0 then none else (int32 (a.tdiv b)).map fun _ => a.tmod b

theorem int32_eq {x : ℤ} (hlow : -2 ^ 31 ≤ x) (hhigh : x < 2 ^ 31) : int32 x = some x := if_pos ⟨hlow, hhigh⟩

theorem tdiv_range {a b : ℤ} (ha : 0 ≤ a) (hb : 0 < b) : 0 ≤ a.tdiv b ∧ a.tdiv b ≤ a := by
  rw [Int.tdiv_eq_ediv_of_nonneg ha]
  exact ⟨Int.ediv_nonneg ha hb.le, Int.ediv_le_self b ha⟩

theorem intDiv_eq {a b : ℤ} (ha : 0 ≤ a) (hlt : a < 2 ^ 31) (hb : 0 < b) : intDiv a b = some (a.tdiv b) := by
  obtain ⟨hnonneg, hle⟩ := tdiv_range ha hb
  rw [intDiv, if_neg hb.ne', int32_eq (by omega) (by omega)]

theorem intMod_eq {a b : ℤ} (ha : 0 ≤ a) (hlt : a < 2 ^ 31) (hb : 0 < b) : intMod a b = some (a.tmod b) := by
  obtain ⟨hnonneg, hle⟩ := tdiv_range ha hb
  rw [intMod, if_neg hb.ne', int32_eq (by omega) (by omega), Option.map_some]

/-! ## Doubles -/

section Real

variable {K : Type} [Arith K]

def realDiv (a b : Dbl K) : Option (Dbl K) := if b = .fin 0 then none else some (a / b)

theorem realDiv_eq (a : Dbl K) {b : Dbl K} (hb : b ≠ .fin 0) : realDiv a b = some (a / b) := if_neg hb

end Real

/-! ## Arrays -/

variable {α σ : Type} {n : ℕ}

def load (l : List α) (i : ℤ) : Option α := if 0 ≤ i then l[i.toNat]? else none

def storeAt (mem : Frame α n) (i : ℤ) (x : α) : Option (Frame α n) := if 0 ≤ i then store mem i.toNat [x] else none

theorem load_eq {l : List α} {i : ℤ} (h0 : 0 ≤ i) (hlt : i < l.length) (d : α) :
    load l i = some (l.getD i.toNat d) := by
  have hi : i.toNat < l.length := by omega
  rw [load, if_pos h0, List.getElem?_eq_getElem hi, List.getD_eq_getElem?_getD, List.getElem?_eq_getElem hi,
    Option.getD_some]

/-! ## Loops -/

/-- `for (int i = 0; i < n; i++)` -/
def forLoop (n : ℤ) (s : σ) (body : ℤ → σ → Option σ) : Option σ :=
  (List.range n.toNat).foldlM (fun s (i : ℕ) => (body i s).bind fun s' => (int32 (i + 1)).map fun _ => s') s

/-- the invariant rule: `Inv i` holds in front of pass `i` -/
theorem forLoop_inv {n : ℤ} (hn : n < 2 ^ 31) {s : σ} {body : ℤ → σ → Option σ} (Inv : ℕ → σ → Prop) (h0 : Inv 0 s)
    (hstep : ∀ (i : ℕ) (s : σ), (i : ℤ) < n → Inv i s → ∃ s', body i s = some s' ∧ Inv (i + 1) s') :
    ∃ s', forLoop n s body = some s' ∧ Inv n.toNat s' := by
  have hbegin : ∀ m : ℕ, m ≤ n.toNat → ∃ s', (List.range m).foldlM
      (fun s (i : ℕ) => (body i s).bind fun s' => (int32 (i + 1)).map fun _ => s') s = some s' ∧ Inv m s' := by
    intro m
    induction m with
    | zero => exact fun _ => ⟨s, rfl, h0⟩
    | succ m ih =>
      intro hm
      obtain ⟨s₁, hrun, hinv⟩ := ih (by omega)
      obtain ⟨s₂, hbody, hinv'⟩ := hstep m s₁ (by omega) hinv
      have hcounter : int32 ((m : ℤ) + 1) = some ((m : ℤ) + 1) := int32_eq (by omega) (by omega)
      refine ⟨s₂, ?_, hinv'⟩
      rw [List.range_succ, List.foldlM_append, hrun]
      simp [hbody, hcounter]
  exact hbegin n.toNat le_rfl

/-- **A loop whose body cannot fail is a fold.** -/
theorem forLoop_fold {n : ℤ} (hn : n < 2 ^ 31) {s : σ} {body : ℤ → σ → Option σ} {f : σ → ℕ → σ}
    (h : ∀ (i : ℕ) (s : σ), (i : ℤ) < n → body i s = some (f s i)) :
    forLoop n s body = some ((List.range n.toNat).foldl f s) := by
  have hstep : ∀ (i : ℕ) (s' : σ), (i : ℤ) < n → s' = (List.range i).foldl f s →
      ∃ s'', body i s' = some s'' ∧ s'' = (List.range (i + 1)).foldl f s := by
    rintro i _ hi rfl
    refine ⟨_, h i _ hi, ?_⟩
    rw [List.range_succ, List.foldl_append, List.foldl_cons, List.foldl_nil]
  obtain ⟨s', hloop, rfl⟩ := forLoop_inv hn (fun m s' => s' = (List.range m).foldl f s) rfl hstep
  exact hloop

/-- **A loop that counts** the passes with `p`: the counter is never ahead of `i`. -/
theorem forLoop_count {n : ℤ} (hn : n < 2 ^ 31) (body : ℤ → ℤ → Option ℤ) (p : ℕ → Bool)
    (h : ∀ (i : ℕ) (count : ℤ), (i : ℤ) < n → body i count = if p i then int32 (count + 1) else some count) :
    forLoop n 0 body = some ((List.range n.toNat).foldl (fun count i => if p i then count + 1 else count) 0) := by
  have hstep : ∀ (i : ℕ) (count : ℤ), (i : ℤ) < n →
      (count = (List.range i).foldl (fun count i => if p i then count + 1 else count) 0 ∧ 0 ≤ count ∧ count ≤ i) →
      ∃ count', body i count = some count' ∧
        count' = (List.range (i + 1)).foldl (fun count i => if p i then count + 1 else count) 0 ∧
        0 ≤ count' ∧ count' ≤ (i + 1 : ℕ) := by
    rintro i _ hi ⟨rfl, hnonneg, hbound⟩
    simp only [h i _ hi, List.range_succ, List.foldl_append, List.foldl_cons, List.foldl_nil]
    generalize (List.range i).foldl (fun (count : ℤ) i => if p i then count + 1 else count) 0 = count at hnonneg hbound
    split_ifs
    · exact ⟨count + 1, int32_eq (by omega) (by omega), rfl, by omega, by omega⟩
    · exact ⟨count, rfl, rfl, hnonneg, by omega⟩
  obtain ⟨count, hloop, rfl, -⟩ := forLoop_inv hn
    (fun m (count : ℤ) => count = (List.range m).foldl (fun count i => if p i then count + 1 else count) 0 ∧
      0 ≤ count ∧ count ≤ m) ⟨rfl, le_rfl, le_rfl⟩ hstep
  exact hloop

/-- **A loop that stores `f i` at `i`** leaves the values in front. -/
theorem forLoop_fill {count : ℤ} (hcount : count ≤ n) (hint : count < 2 ^ 31) (mem : Frame α n)
    (body : ℤ → Frame α n → Option (Frame α n)) (f : ℕ → α)
    (h : ∀ (i : ℕ) (mem : Frame α n), (i : ℤ) < count → body i mem = storeAt mem i (f i)) :
    ∃ mem', forLoop count mem body = some mem' ∧ mem'.val.take count.toNat = (List.range count.toNat).map f := by
  refine forLoop_inv hint (fun m (mem' : Frame α n) => mem'.val.take m = (List.range m).map f) rfl ?_
  intro i mem₁ hi hfilled
  obtain ⟨mem₂, hstore, hval⟩ := store_inside mem₁ i [f i] (by simp; omega)
  have hlength : (mem₁.val.take i).length = i := by rw [hfilled, List.length_map, List.length_range]
  refine ⟨mem₂, ?_, ?_⟩
  · rw [h i mem₁ hi, storeAt, if_pos (Int.natCast_nonneg i), Int.toNat_natCast, hstore]
  · have hfront : (mem₁.val.take i ++ [f i]).length = i + 1 := by
      rw [List.length_append, hlength, List.length_singleton]
    rw [hval, List.take_left' hfront, hfilled, List.range_succ, List.map_append, List.map_singleton]

/-- **A loop that stores at `i` past the end** of the array has no result, whatever its passes before do. -/
theorem forLoop_overrun {count : ℤ} (hcount : n < count) (mem : Frame α n)
    (body : ℤ → Frame α n → Option (Frame α n)) (f : ℕ → α)
    (h : ∀ (i : ℕ) (mem : Frame α n), (i : ℤ) < count → body i mem = storeAt mem i (f i)) :
    forLoop count mem body = none := by
  obtain ⟨rest, hrest⟩ : ∃ rest, count.toNat = n + 1 + rest := ⟨count.toNat - (n + 1), by omega⟩
  have hstore : ∀ mem : Frame α n, body n mem = none := by
    intro mem
    rw [h n mem hcount, storeAt, if_pos (Int.natCast_nonneg n), store, dif_neg (by simp)]
  rw [forLoop, hrest, List.range_add, List.range_succ, List.foldlM_append, List.foldlM_append]
  simp only [List.foldlM_cons, hstore, Option.bind_none, Option.bind_eq_bind, Option.bind_fun_none]

end GpuHealth.Checked
