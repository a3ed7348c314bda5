/-
Numbers as decimal text. General: nothing here names a program.

`natText` writes a natural number without leading zeros, `padText w` with zeros up to `w` digits, `decimalText k m` the
number m / 10^k with k decimals. `fixedText k` is a rational rounded to k decimals, half to even (`roundDecimals`), as
`printf` writes it with `%.kf`.

A text of digits has its value by `Nat.ofDigitChars`; the laws below take the value of each text back to the number.
`readInt` reads an integer, and reads each one that `intText` writes.
-/
import Mathlib.Tactic
import Mathlib.Data.Int.Log
import Mathlib.Data.List.DropRight

namespace GpuHealth.Decimal

/-! ## Digits -/

def natText (n : ℕ) : List Char := Nat.toDigits 10 n

def intText (z : ℤ) : List Char := if z < 0 then '-' :: natText z.natAbs else natText z.natAbs

/-- zeros in front, up to `w` digits -/
def padText (w n : ℕ) : List Char := List.replicate (w - (natText n).length) '0' ++ natText n

/-- m / 10^k with its k decimals -/
def decimalText (k m : ℕ) : List Char :=
  if k = 0 then natText m else natText (m / 10 ^ k) ++ '.' :: padText k (m % 10 ^ k)

theorem natText_ne_nil (n : ℕ) : natText n ≠ [] := Nat.toDigits_ne_nil

theorem natText_digit {n : ℕ} {c : Char} (h : c ∈ natText n) : c.isDigit = true :=
  Nat.isDigit_of_mem_toDigits (by norm_num) (by norm_num) h

@[simp] theorem natText_value (n : ℕ) : Nat.ofDigitChars 10 (natText n) 0 = n := Nat.ofDigitChars_ten_toDigits

theorem padText_digit {w n : ℕ} {c : Char} (h : c ∈ padText w n) : c.isDigit = true := by
  rw [padText, List.mem_append] at h
  rcases h with hzero | hdigit
  · rw [(List.mem_replicate.1 hzero).2]
    rfl
  · exact natText_digit hdigit

@[simp] theorem padText_value (w n : ℕ) : Nat.ofDigitChars 10 (padText w n) 0 = n := by
  rw [padText, Nat.ofDigitChars_append, Nat.ofDigitChars_replicate_zero, mul_zero, natText_value]

theorem padText_ne_nil (w n : ℕ) : padText w n ≠ [] := List.append_ne_nil_of_right_ne_nil _ (natText_ne_nil n)

theorem padText_length {w n : ℕ} (hw : 0 < w) (h : n < 10 ^ w) : (padText w n).length = w := by
  have hle : (natText n).length ≤ w := (Nat.length_toDigits_le_iff (by norm_num) hw).2 h
  rw [padText, List.length_append, List.length_replicate, Nat.sub_add_cancel hle]

/-- a text of digits behind another -/
theorem value_append (s t : List Char) :
    Nat.ofDigitChars 10 (s ++ t) 0 = 10 ^ t.length * Nat.ofDigitChars 10 s 0 + Nat.ofDigitChars 10 t 0 := by
  rw [Nat.ofDigitChars_append, Nat.ofDigitChars_eq_ofDigitChars_zero]

/-- the digits of `decimalText k m`, without the point, have the value m -/
theorem decimal_value {k : ℕ} (hk : 0 < k) (m : ℕ) :
    Nat.ofDigitChars 10 (natText (m / 10 ^ k) ++ padText k (m % 10 ^ k)) 0 = m := by
  have hlen : (padText k (m % 10 ^ k)).length = k := padText_length hk (Nat.mod_lt _ (by positivity))
  rw [value_append, hlen, natText_value, padText_value, Nat.div_add_mod]

theorem decimalText_char {k m : ℕ} {c : Char} (h : c ∈ decimalText k m) : c.isDigit = true ∨ c = '.' := by
  unfold decimalText at h
  split_ifs at h
  · exact Or.inl (natText_digit h)
  · rw [List.mem_append, List.mem_cons] at h
    rcases h with hwhole | rfl | hfraction
    · exact Or.inl (natText_digit hwhole)
    · exact Or.inr rfl
    · exact Or.inl (padText_digit hfraction)

/-! ## Reading -/

/-- the number that a text of digits writes -/
def readNat (s : List Char) : Option ℕ :=
  if s ≠ [] ∧ s.all Char.isDigit = true then some (Nat.ofDigitChars 10 s 0) else none

/-- a number with `-` in front or without -/
def readInt : List Char → Option ℤ
  | '-' :: s => (readNat s).map fun n : ℕ => -(n : ℤ)
  | s => (readNat s).map fun n : ℕ => (n : ℤ)

theorem readNat_natText (n : ℕ) : readNat (natText n) = some n := by
  have hdigits : (natText n).all Char.isDigit = true := List.all_eq_true.2 fun _ hc => natText_digit hc
  rw [readNat, if_pos ⟨natText_ne_nil n, hdigits⟩, natText_value]

@[simp] theorem readInt_natText (n : ℕ) : readInt (natText n) = some (n : ℤ) := by
  have hread := readNat_natText n
  unfold readInt
  split
  · rename_i s htext
    -- no digit is a sign
    have hsign : '-' ∈ natText n := htext ▸ List.mem_cons_self
    exact absurd (natText_digit hsign) (by decide)
  · rw [hread]
    rfl

@[simp] theorem readInt_intText (z : ℤ) : readInt (intText z) = some z := by
  unfold intText
  split_ifs with hneg
  · have hvalue : -(z.natAbs : ℤ) = z := by omega
    rw [readInt, readNat_natText, Option.map_some, hvalue]
  · have hvalue : (z.natAbs : ℤ) = z := by omega
    rw [readInt_natText, hvalue]

/-! ## Rounding -/

/-- to the nearest integer, half to even -/
def roundHalfEven (x : ℚ) : ℤ :=
  if x - ⌊x⌋ < 1 / 2 then ⌊x⌋
  else if 1 / 2 < x - ⌊x⌋ then ⌊x⌋ + 1
  else if ⌊x⌋ % 2 = 0 then ⌊x⌋
  else ⌊x⌋ + 1

theorem floor_le_roundHalfEven (x : ℚ) : ⌊x⌋ ≤ roundHalfEven x := by
  unfold roundHalfEven
  split_ifs <;> omega

/-- rounding does not cross an integer -/
theorem le_roundHalfEven {n : ℤ} {x : ℚ} (h : n ≤ x) : n ≤ roundHalfEven x :=
  (Int.le_floor.2 h).trans (floor_le_roundHalfEven x)

theorem roundHalfEven_le {n : ℤ} {x : ℚ} (h : x ≤ n) : roundHalfEven x ≤ n := by
  rcases (Int.floor_le_iff.2 (h.trans_lt (by norm_num)) : ⌊x⌋ ≤ n).lt_or_eq with hlt | heq
  · unfold roundHalfEven
    split_ifs <;> omega
  · have hle := Int.floor_le x
    rw [heq] at hle
    have hx : x = n := le_antisymm h hle
    unfold roundHalfEven
    rw [hx, Int.floor_intCast, if_pos (by norm_num)]

/-- `x` rounded to `k` decimals -/
def roundDecimals (k : ℕ) (x : ℚ) : ℚ := roundHalfEven (x * 10 ^ k) / 10 ^ k

theorem roundDecimals_le {k : ℕ} {n : ℤ} {x : ℚ} (h : x ≤ n) : roundDecimals k x ≤ n := by
  have hpow : (0 : ℚ) < 10 ^ k := by positivity
  have hscaled : x * 10 ^ k ≤ ((n * 10 ^ k : ℤ) : ℚ) := by
    push_cast
    exact mul_le_mul_of_nonneg_right h hpow.le
  have hround : (roundHalfEven (x * 10 ^ k) : ℚ) ≤ ((n * 10 ^ k : ℤ) : ℚ) := by
    exact_mod_cast roundHalfEven_le hscaled
  rw [roundDecimals, div_le_iff₀ hpow]
  exact_mod_cast hround

/-- what is at least one unit of the last decimal is not rounded to 0 -/
theorem roundDecimals_pos {k : ℕ} {x : ℚ} (h : 1 / 10 ^ k ≤ x) : 0 < roundDecimals k x := by
  have hunit : ((1 : ℤ) : ℚ) ≤ x * 10 ^ k := by
    rw [Int.cast_one]
    rwa [div_le_iff₀ (by positivity)] at h
  have hcast : (1 : ℚ) ≤ roundHalfEven (x * 10 ^ k) := by exact_mod_cast le_roundHalfEven hunit
  exact div_pos (by linarith) (by positivity)

/-! ## Numbers with decimals -/

/-- `x` rounded to `k` decimals, as text -/
def fixedText (k : ℕ) (x : ℚ) : List Char :=
  (if x < 0 then ['-'] else []) ++ decimalText k (roundHalfEven (|x| * 10 ^ k)).toNat

/-- the text of a nonnegative number is that of some m / 10^k, its rounded value -/
theorem exists_decimalText (k : ℕ) {x : ℚ} (h : 0 ≤ x) :
    ∃ m : ℕ, fixedText k x = decimalText k m ∧ (m : ℚ) / 10 ^ k = roundDecimals k x := by
  have hround : 0 ≤ roundHalfEven (x * 10 ^ k) := le_roundHalfEven (by push_cast; positivity)
  refine ⟨(roundHalfEven (x * 10 ^ k)).toNat, ?_, ?_⟩
  · rw [fixedText, if_neg (not_lt.2 h), abs_of_nonneg h, List.nil_append]
  · have hcast : (((roundHalfEven (x * 10 ^ k)).toNat : ℤ) : ℚ) = roundHalfEven (x * 10 ^ k) := by
      rw [Int.toNat_of_nonneg hround]
    rw [roundDecimals, ← hcast]
    rfl

example : fixedText 3 (-5 / 8) = "-0.625".toList ∧ fixedText 1 (1 / 4) = "0.2".toList := by decide +kernel

/-! ## Numbers with significant digits -/

/-- m / 10^k, without the zeros at the end of its decimals -/
def shortText (k m : ℕ) : List Char :=
  let decimals := (padText k (m % 10 ^ k)).rdropWhile (· = '0')
  natText (m / 10 ^ k) ++ if decimals = [] then [] else '.' :: decimals

/-- the exponent and the digits of a positive number rounded to `p` digits, half to even -/
def significant (p : ℕ) (x : ℚ) : ℤ × ℕ :=
  let e := Int.log 10 x
  let m := (roundHalfEven (x / 10 ^ (e - (p - 1 : ℕ)))).toNat
  if m = 10 ^ p then (e + 1, 10 ^ (p - 1)) else (e, m)

/-- `x` rounded to `p` significant digits, as `printf` writes it with `%.pg` -/
def generalText (p : ℕ) (x : ℚ) : List Char :=
  if x = 0 then ['0']
  else
    let (e, m) := significant p |x|
    (if x < 0 then ['-'] else []) ++
      if -4 ≤ e ∧ e < p then shortText (p - 1 - e).toNat m
      else shortText (p - 1) m ++ 'e' :: (if e < 0 then '-' else '+') :: padText 2 e.natAbs

example : generalText 6 (1234567 / 10) = "123457".toList ∧ generalText 6 (-1 / 10000) = "-0.0001".toList ∧
    generalText 6 9999995 = "1e+07".toList ∧ generalText 6 (1 / 65536) = "1.52588e-05".toList := by decide +kernel

/-! ## The form of a number -/

def Digits (s : List Char) : Prop := ∀ c ∈ s, c.isDigit = true

def signText (negative : Prop) [Decidable negative] : List Char := if negative then ['-'] else []

inductive IsFraction : List Char → Prop
  | none : IsFraction []
  | some {d : List Char} (hd : Digits d) : IsFraction ('.' :: d)

inductive IsExponent : List Char → Prop
  | none : IsExponent []
  | some {mark : Char} {d : List Char} (hmark : mark = '-' ∨ mark = '+') (hd : Digits d) (hne : d ≠ []) :
      IsExponent ('e' :: mark :: d)

/-- a sign, digits, perhaps a point with digits, perhaps an exponent -/
inductive Numeral : List Char → Prop
  | mk (negative : Prop) [Decidable negative] (n : ℕ) {fraction exponent : List Char} (hf : IsFraction fraction)
      (he : IsExponent exponent) : Numeral (signText negative ++ (natText n ++ (fraction ++ exponent)))

theorem natText_digits (n : ℕ) : Digits (natText n) := fun _ h => natText_digit h

theorem padText_digits (w n : ℕ) : Digits (padText w n) := fun _ h => padText_digit h

theorem decimalText_form (k m : ℕ) : ∃ n f, decimalText k m = natText n ++ f ∧ IsFraction f := by
  unfold decimalText
  split_ifs
  · exact ⟨m, [], (List.append_nil _).symm, .none⟩
  · exact ⟨_, _, rfl, .some (padText_digits _ _)⟩

theorem shortText_form (k m : ℕ) : ∃ n f, shortText k m = natText n ++ f ∧ IsFraction f := by
  unfold shortText
  dsimp only
  split_ifs
  · exact ⟨_, _, rfl, .none⟩
  · refine ⟨_, _, rfl, .some fun c hc => padText_digits k (m % 10 ^ k) c ?_⟩
    exact (List.rdropWhile_prefix _ (padText k (m % 10 ^ k))).subset hc

theorem natText_numeral (n : ℕ) : Numeral (natText n) := by
  have h := Numeral.mk False n .none .none
  rwa [List.append_nil, List.append_nil] at h

theorem intText_numeral (z : ℤ) : Numeral (intText z) := by
  unfold intText
  split_ifs
  · have h := Numeral.mk True z.natAbs .none .none
    rwa [List.append_nil, List.append_nil] at h
  · exact natText_numeral _

theorem fixedText_numeral (k : ℕ) (x : ℚ) : Numeral (fixedText k x) := by
  obtain ⟨n, f, htext, hf⟩ := decimalText_form k (roundHalfEven (|x| * 10 ^ k)).toNat
  have h := Numeral.mk (x < 0) n hf .none
  rw [List.append_nil, ← htext] at h
  exact h

theorem generalText_numeral (p : ℕ) (x : ℚ) : Numeral (generalText p x) := by
  by_cases hzero : x = 0
  · rw [generalText, if_pos hzero]
    exact natText_numeral 0
  · rw [generalText, if_neg hzero]
    dsimp only
    set e := (significant p |x|).1
    set m := (significant p |x|).2
    by_cases hsmall : -4 ≤ e ∧ e < p
    · obtain ⟨n, f, htext, hf⟩ := shortText_form (p - 1 - e).toNat m
      have h := Numeral.mk (x < 0) n hf .none
      rw [List.append_nil, ← htext] at h
      rw [if_pos hsmall]
      exact h
    · obtain ⟨n, f, htext, hf⟩ := shortText_form (p - 1) m
      have hmark : (if e < 0 then '-' else '+') = '-' ∨ (if e < 0 then '-' else '+') = '+' := by
        split_ifs
        · exact Or.inl rfl
        · exact Or.inr rfl
      have h := Numeral.mk (x < 0) n hf (.some hmark (padText_digits 2 e.natAbs) (padText_ne_nil 2 _))
      rw [← List.append_assoc (natText n), ← htext] at h
      rw [if_neg hsmall]
      exact h

theorem IsFraction.char {s : List Char} (h : IsFraction s) {c : Char} (hc : c ∈ s) : c.isDigit = true ∨ c = '.' := by
  cases h with
  | none => cases hc
  | some hd =>
    rcases List.mem_cons.1 hc with rfl | hmem
    · exact Or.inr rfl
    · exact Or.inl (hd c hmem)

theorem IsExponent.char {s : List Char} (h : IsExponent s) {c : Char} (hc : c ∈ s) :
    c.isDigit = true ∨ c ∈ ['e', '-', '+'] := by
  cases h with
  | none => cases hc
  | some hmark hd =>
    rcases List.mem_cons.1 hc with rfl | hmem
    · exact Or.inr (by decide)
    · rcases List.mem_cons.1 hmem with rfl | hdigit
      · right
        rcases hmark with rfl | rfl <;> decide
      · exact Or.inl (hd c hdigit)

/-- the characters of a number -/
theorem Numeral.char {s : List Char} (h : Numeral s) {c : Char} (hc : c ∈ s) :
    c.isDigit = true ∨ c ∈ ['.', 'e', '-', '+'] := by
  obtain ⟨negative, n, hf, he⟩ := h
  simp only [List.mem_append] at hc
  rcases hc with hsign | hwhole | hfraction | hexponent
  · unfold signText at hsign
    split_ifs at hsign
    · rw [List.mem_singleton.1 hsign]
      exact Or.inr (by decide)
    · cases hsign
  · exact Or.inl (natText_digit hwhole)
  · rcases hf.char hfraction with hdigit | rfl
    · exact Or.inl hdigit
    · exact Or.inr (by decide)
  · exact (he.char hexponent).imp_right (List.mem_cons_of_mem _)

end GpuHealth.Decimal
