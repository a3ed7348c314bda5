/-
C doubles with exact finite values. General: nothing here names a program.

`Arith K` is the arithmetic the finite values live in: an ordered field with a non-negative square root. ℚ is an
instance that computes, ℝ the one with the true root; results are stated for every `Arith K`.

`Dbl K` adds the special values: NaN and the two infinities. Comparisons follow IEEE 754 (every comparison with NaN is
false) and so do the operations on special values; rounding and the sign of zero are not modelled. The simp set here
takes an expression whose operands are finite (`.fin`) down to `K`.
-/
import Mathlib.Tactic
import Mathlib.Data.Rat.Sqrt
import Mathlib.Analysis.Real.Sqrt

namespace GpuHealth

/-- an ordered field with a square root, of which only non-negativity is assumed -/
class Arith (K : Type) extends Field K, LinearOrder K, IsStrictOrderedRing K where
  sqrt : K → K
  sqrt_nonneg : ∀ x, 0 ≤ sqrt x

instance : Arith ℚ where
  sqrt := Rat.sqrt
  sqrt_nonneg := Rat.sqrt_nonneg

noncomputable instance : Arith ℝ where
  sqrt := Real.sqrt
  sqrt_nonneg := Real.sqrt_nonneg

/-- a C double with exact finite values -/
inductive Dbl (K : Type) where
  | nan
  | ninf
  | fin (x : K)
  | pinf
deriving DecidableEq, Repr

namespace Dbl

variable {K : Type}

def isnan : Dbl K → Bool
  | nan => true
  | _ => false

/-- the finite value; 0 for the special ones -/
def toK [Zero K] : Dbl K → K
  | fin x => x
  | _ => 0

def IsFin (d : Dbl K) : Prop := ∃ x, d = fin x

instance : (d : Dbl K) → Decidable d.IsFin
  | nan => isFalse (by rintro ⟨x, hx⟩; cases hx)
  | ninf => isFalse (by rintro ⟨x, hx⟩; cases hx)
  | fin x => isTrue ⟨x, rfl⟩
  | pinf => isFalse (by rintro ⟨x, hx⟩; cases hx)

@[simp] theorem isnan_fin (x : K) : isnan (fin x) = false := rfl
@[simp] theorem isnan_nan : isnan (nan : Dbl K) = true := rfl
@[simp] theorem toK_fin [Zero K] (x : K) : toK (fin x) = x := rfl

theorem IsFin.eq [Zero K] {d : Dbl K} (h : IsFin d) : d = fin d.toK := by
  obtain ⟨x, rfl⟩ := h; rfl

/-- a number or NaN -/
def NoInf (d : Dbl K) : Prop := d = nan ∨ d.IsFin

variable [Arith K]

/-- an exact rational as a double of `K` -/
def ofRat : Dbl ℚ → Dbl K
  | nan => nan
  | ninf => ninf
  | fin x => fin x
  | pinf => pinf

theorem ofRat_injective : Function.Injective (ofRat : Dbl ℚ → Dbl K) := by
  intro a b h
  cases a <;> cases b <;> simp_all [ofRat]

@[simp] theorem ofRat_rat (v : Dbl ℚ) : (v.ofRat : Dbl ℚ) = v := by
  cases v <;> simp [ofRat]

def blt : Dbl K → Dbl K → Bool
  | nan, _ | _, nan => false
  | ninf, b => b ≠ ninf
  | fin x, fin y => x < y
  | fin _, pinf => true
  | fin _, ninf => false
  | pinf, _ => false

/-- C's `a < b` -/
instance : LT (Dbl K) := ⟨fun a b => blt a b = true⟩

/-- C's `a <= b` -/
instance : LE (Dbl K) := ⟨fun a b => blt a b = true ∨ (a = b ∧ isnan a = false)⟩

instance : DecidableLT (Dbl K) := fun a b => inferInstanceAs (Decidable (blt a b = true))

instance : DecidableLE (Dbl K) := fun a b =>
  inferInstanceAs (Decidable (blt a b = true ∨ (a = b ∧ isnan a = false)))

def neg : Dbl K → Dbl K
  | nan => nan
  | ninf => pinf
  | fin x => fin (-x)
  | pinf => ninf

def add : Dbl K → Dbl K → Dbl K
  | nan, _ | _, nan => nan
  | pinf, ninf | ninf, pinf => nan
  | pinf, _ | _, pinf => pinf
  | ninf, _ | _, ninf => ninf
  | fin x, fin y => fin (x + y)

/-- the infinity with the sign of `x`, NaN for zero -/
def infOf (x : K) : Dbl K := if x = 0 then nan else if x < 0 then ninf else pinf

def mul : Dbl K → Dbl K → Dbl K
  | nan, _ | _, nan => nan
  | pinf, pinf | ninf, ninf => pinf
  | pinf, ninf | ninf, pinf => ninf
  | pinf, fin x | fin x, pinf => infOf x
  | ninf, fin x | fin x, ninf => infOf (-x)
  | fin x, fin y => fin (x * y)

/-- division; a zero divisor counts as +0 -/
def div : Dbl K → Dbl K → Dbl K
  | nan, _ | _, nan => nan
  | pinf, fin y => if y < 0 then ninf else pinf
  | ninf, fin y => if y < 0 then pinf else ninf
  | fin _, pinf | fin _, ninf => fin 0
  | pinf, _ | ninf, _ => nan
  | fin x, fin y => if y = 0 then infOf x else fin (x / y)

instance : Neg (Dbl K) := ⟨neg⟩
instance : Add (Dbl K) := ⟨add⟩
instance : Sub (Dbl K) := ⟨fun a b => a + -b⟩
instance : Mul (Dbl K) := ⟨mul⟩
instance : Div (Dbl K) := ⟨div⟩

/-! ## The simp set -/

@[simp] theorem fin_lt_fin (x y : K) : (fin x < fin y) ↔ x < y := decide_eq_true_iff

@[simp] theorem not_nan_lt (d : Dbl K) : ¬ (nan < d) := fun h => Bool.noConfusion (show false = true from h)

@[simp] theorem not_lt_nan (d : Dbl K) : ¬ (d < nan) := by
  cases d <;> exact fun h => Bool.noConfusion (show false = true from h)

@[simp] theorem fin_le_fin (x y : K) : (fin x ≤ fin y) ↔ x ≤ y := by
  show (fin x < fin y ∨ (fin x = fin y ∧ isnan (fin x) = false)) ↔ x ≤ y
  simp [le_iff_lt_or_eq]

@[simp] theorem not_nan_le (d : Dbl K) : ¬ (nan ≤ d) := by
  rintro (h | ⟨-, h⟩)
  · exact not_nan_lt d h
  · exact absurd h (by simp)

@[simp] theorem not_lt_ninf (d : Dbl K) : ¬ (d < ninf) := by
  cases d <;> exact fun h => Bool.noConfusion (show false = true from h)

@[simp] theorem ninf_lt_fin (x : K) : (ninf : Dbl K) < fin x := rfl
@[simp] theorem fin_lt_pinf (x : K) : fin x < (pinf : Dbl K) := rfl

@[simp] theorem not_pinf_le_fin (x : K) : ¬ ((pinf : Dbl K) ≤ fin x) := by
  rintro (h | ⟨h, -⟩)
  · exact Bool.noConfusion (show false = true from h)
  · cases h

@[simp] theorem fin_add (x y : K) : (fin x + fin y : Dbl K) = fin (x + y) := rfl
@[simp] theorem fin_neg (x : K) : (-fin x : Dbl K) = fin (-x) := rfl
@[simp] theorem fin_mul (x y : K) : (fin x * fin y : Dbl K) = fin (x * y) := rfl

@[simp] theorem fin_sub (x y : K) : (fin x - fin y : Dbl K) = fin (x - y) := by
  show fin (x + -y) = fin (x - y)
  rw [sub_eq_add_neg]

theorem NoInf.fin_of_pos {d : Dbl K} (h : NoInf d) (hpos : fin 0 < d) : ∃ x, d = fin x ∧ 0 < x := by
  rcases h with rfl | ⟨x, rfl⟩
  · exact absurd hpos (not_lt_nan _)
  · exact ⟨x, rfl, (fin_lt_fin 0 x).1 hpos⟩

theorem fin_div (x : K) {y : K} (hy : y ≠ 0) : (fin x / fin y : Dbl K) = fin (x / y) := if_neg hy

end Dbl

end GpuHealth
