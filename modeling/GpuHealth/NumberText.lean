/-
What `parse_int` and `parse_double` make of the numbers `printf` writes (`%d`, `%u`, `%.kf`).

`parseInt_natText`, `parseDouble_decimalText`: the number comes back when it is in the range asked for.
-/
import GpuHealth.CText
import GpuHealth.Core.Decimal

namespace GpuHealth.NumberText

open GpuHealth.CText GpuHealth.Decimal

/-- `%.kf` -/
def printF (k : ℕ) : Dbl ℚ → CStr
  | .nan => "nan".toList
  | .ninf => "-inf".toList
  | .fin x => fixedText k x
  | .pinf => "inf".toList

/-- `%.6g` -/
def printG : Dbl ℚ → CStr
  | .nan => "nan".toList
  | .ninf => "-inf".toList
  | .fin x => generalText 6 x
  | .pinf => "inf".toList

/-! ## Digits -/

theorem isDigit_range {c : Char} (h : c.isDigit = true) : '0' ≤ c ∧ c ≤ '9' := by
  simpa [Char.isDigit, Char.le_def] using h

theorem digitOf_digit {c : Char} (h : c.isDigit = true) : digitOf 10 c = some (c.toNat - '0'.toNat) := by
  have hrange := isDigit_range h
  have hle : c.toNat ≤ 57 := hrange.2
  have hlt : c.toNat - '0'.toNat < 10 := by
    change c.toNat - 48 < 10
    omega
  unfold digitOf
  simp only [if_pos hrange, if_pos hlt]

theorem digit_not_space {c : Char} (h : c.isDigit = true) : isspace c = false := by
  have hge : 48 ≤ c.toNat := (isDigit_range h).1
  have hne : c ≠ ' ' := by
    rintro rfl
    exact absurd hge (by decide)
  unfold isspace
  rw [decide_eq_false_iff_not]
  rintro (hblank | hcontrol)
  · exact hne hblank
  · omega

/-- the value of each digit -/
def digitValues (s : CStr) : List ℕ := s.map fun c => c.toNat - '0'.toNat

theorem spanDigits_text {s : CStr} (hs : ∀ c ∈ s, c.isDigit = true) {rest : CStr}
    (hrest : ∀ c, rest.head? = some c → digitOf 10 c = none) :
    spanDigits 10 (s ++ rest) = (digitValues s, rest) := by
  induction s with
  | nil =>
    cases rest with
    | nil => rfl
    | cons c rest => simp only [List.nil_append, spanDigits, hrest c rfl, digitValues, List.map_nil]
  | cons c s ih =>
    have htail := ih fun d hd => hs d (List.mem_cons_of_mem _ hd)
    simp only [List.cons_append, spanDigits, digitOf_digit (hs c List.mem_cons_self), htail, digitValues,
      List.map_cons]

theorem ofDigits_values (s : CStr) : ofDigits 10 (digitValues s) = Nat.ofDigitChars 10 s 0 := by
  rw [ofDigits, digitValues, List.foldl_map]
  rfl

theorem digitValues_append (s t : CStr) : digitValues (s ++ t) = digitValues s ++ digitValues t := List.map_append

/-- a text that begins with a digit has neither blanks nor a sign in front -/
theorem spanSign_digit {c : Char} (h : c.isDigit = true) (s : CStr) :
    spanSign ((c :: s).dropWhile isspace) = (false, c :: s) := by
  rw [List.dropWhile_cons_of_neg (by rw [digit_not_space h]; exact Bool.false_ne_true)]
  have hge : 48 ≤ c.toNat := (isDigit_range h).1
  unfold spanSign
  split
  · rename_i heq
    cases heq
    exact absurd hge (by decide)
  · rename_i heq
    cases heq
    exact absurd hge (by decide)
  · rfl

/-! ## Integers -/

theorem strtol_natText {n : ℕ} (h : n < 2 ^ 63) : strtol (natText n) = some ((n : ℤ), false, []) := by
  obtain ⟨c, s, hcs⟩ := List.exists_cons_of_ne_nil (natText_ne_nil n)
  have hdigit : ∀ d ∈ c :: s, d.isDigit = true := fun d hd => natText_digit (hcs ▸ hd)
  have hspan : spanDigits 10 (c :: s ++ []) = (digitValues (c :: s), []) :=
    spanDigits_text hdigit (by intro d hd; cases hd)
  have hvalue : ofDigits 10 (digitValues (c :: s)) = n := by
    rw [ofDigits_values, ← hcs, natText_value]
  rw [List.append_nil] at hspan
  rw [hcs]
  unfold strtol
  simp only [spanSign_digit (hdigit c List.mem_cons_self), hspan]
  rw [digitValues, List.map_cons] at hvalue ⊢
  dsimp only
  rw [hvalue, if_neg (by omega), if_neg (by omega)]
  rfl

theorem parseInt_natText {n : ℕ} (h : n < 2 ^ 63) {min max : ℤ} (hmin : min ≤ n) (hmax : n ≤ max) :
    parseInt (natText n) min max = some (n : ℤ) := by
  unfold parseInt
  rw [if_neg (natText_ne_nil n), strtol_natText h]
  dsimp only
  rw [if_neg (by simp), if_neg (by omega)]

/-! ## Doubles -/

/-- a word with a letter that the text has not is not at its front -/
theorem stripWord_none {word s : CStr} {c : Char} (hc : c ∈ word) (hs : ∀ d ∈ s, d.toLower ≠ c) :
    stripWord word s = none := by
  unfold stripWord
  rw [if_neg]
  intro heq
  rw [← heq, List.mem_map] at hc
  obtain ⟨d, hd, hlower⟩ := hc
  exact hs d (List.mem_of_mem_take hd) hlower

theorem decimalText_lower {k m : ℕ} {c d : Char} (hc : c = 'i' ∨ c = 'n' ∨ c = 'x') (hd : d ∈ decimalText k m) :
    d.toLower ≠ c := by
  have hlower : d.toLower = d := by
    rcases decimalText_char hd with hdigit | rfl
    · have hle : d.toNat ≤ 57 := (isDigit_range hdigit).2
      unfold Char.toLower
      rw [dif_neg]
      rintro ⟨hA, -⟩
      have hge : 65 ≤ d.toNat := hA
      omega
    · rfl
  rw [hlower]
  rintro rfl
  rcases decimalText_char hd with hdigit | rfl
  · rcases hc with rfl | rfl | rfl <;> exact absurd hdigit (by decide)
  · exact absurd hc (by decide)

theorem spanNumeral_decimalText {k : ℕ} (hk : 0 < k) (m : ℕ) :
    spanNumeral 10 'e' 10 (decimalText k m) = some ((m : ℚ) / 10 ^ k, []) := by
  have hlen : (padText k (m % 10 ^ k)).length = k := padText_length hk (Nat.mod_lt _ (by positivity))
  have hwhole : spanDigits 10 (natText (m / 10 ^ k) ++ '.' :: padText k (m % 10 ^ k)) =
      (digitValues (natText (m / 10 ^ k)), '.' :: padText k (m % 10 ^ k)) :=
    spanDigits_text (fun c hc => natText_digit hc) (by intro c hc; cases hc; decide)
  have hfraction : spanDigits 10 (padText k (m % 10 ^ k)) = (digitValues (padText k (m % 10 ^ k)), []) := by
    have hspan : spanDigits 10 (padText k (m % 10 ^ k) ++ []) = (digitValues (padText k (m % 10 ^ k)), []) :=
      spanDigits_text (fun c hc => padText_digit hc) (by intro c hc; cases hc)
    rwa [List.append_nil] at hspan
  have hne : digitValues (natText (m / 10 ^ k)) ≠ [] := mt List.map_eq_nil_iff.1 (natText_ne_nil _)
  have hvalue : ofDigits 10 (digitValues (natText (m / 10 ^ k)) ++ digitValues (padText k (m % 10 ^ k))) = m := by
    rw [← digitValues_append, ofDigits_values, decimal_value hk]
  have hdigits : (digitValues (padText k (m % 10 ^ k))).length = k := by rw [digitValues, List.length_map, hlen]
  unfold spanNumeral decimalText
  rw [if_neg hk.ne', hwhole]
  simp [hfraction, hne, hvalue, hdigits, spanExponent]

theorem roundRange_small {x : ℚ} (hlow : x = 0 ∨ 1 / 2 ^ 1022 ≤ x) (hhigh : x < 2 ^ 1024 - 2 ^ 970) :
    roundRange x = (.fin x, false) := by
  unfold roundRange
  rw [if_neg (not_le.2 hhigh), if_neg]
  rintro ⟨hne, hlt, -⟩
  exact hlow.elim hne fun hle => absurd hlt (not_lt.2 hle)

/-- a nonzero number with at most 300 decimals is no subnormal -/
theorem decimal_normal {k m : ℕ} (hk : k ≤ 300) : (m : ℚ) / 10 ^ k = 0 ∨ 1 / 2 ^ 1022 ≤ (m : ℚ) / 10 ^ k := by
  rcases Nat.eq_zero_or_pos m with rfl | hm
  · left
    simp
  · right
    have hpow : (10 : ℚ) ^ k ≤ 2 ^ 1022 :=
      calc (10 : ℚ) ^ k ≤ 10 ^ (3 * 100) := pow_le_pow_right₀ (by norm_num) hk
        _ = (10 ^ 3) ^ 100 := pow_mul _ _ _
        _ ≤ (2 ^ 10) ^ 100 := pow_le_pow_left₀ (by norm_num) (by norm_num) 100
        _ = 2 ^ (10 * 100) := (pow_mul _ _ _).symm
        _ ≤ 2 ^ 1022 := pow_le_pow_right₀ (by norm_num) (by norm_num)
    calc 1 / 2 ^ 1022 ≤ 1 / (10 : ℚ) ^ k := one_div_le_one_div_of_le (by positivity) hpow
      _ ≤ (m : ℚ) / 10 ^ k := div_le_div_of_nonneg_right (by exact_mod_cast hm) (by positivity)

theorem strtod_decimalText {k : ℕ} (hk : 0 < k) (hk' : k ≤ 300) {m : ℕ} (hm : (m : ℚ) / 10 ^ k < 2 ^ 1024 - 2 ^ 970) :
    strtod (decimalText k m) = some (.fin ((m : ℚ) / 10 ^ k), false, []) := by
  have hnone : ∀ word : CStr, ('i' ∈ word ∨ 'n' ∈ word ∨ 'x' ∈ word) → stripWord word (decimalText k m) = none := by
    rintro word (hmem | hmem | hmem)
    · exact stripWord_none hmem fun d hd => decimalText_lower (Or.inl rfl) hd
    · exact stripWord_none hmem fun d hd => decimalText_lower (Or.inr (Or.inl rfl)) hd
    · exact stripWord_none hmem fun d hd => decimalText_lower (Or.inr (Or.inr rfl)) hd
  have hunsigned : strtodUnsigned (decimalText k m) = some (.fin ((m : ℚ) / 10 ^ k), false, []) := by
    unfold strtodUnsigned
    rw [hnone _ (by decide), hnone _ (by decide), hnone _ (by decide), hnone _ (by decide),
      spanNumeral_decimalText hk]
    simp [roundRange_small (decimal_normal hk') hm]
  obtain ⟨c, s, hcs⟩ := List.exists_cons_of_ne_nil (natText_ne_nil (m / 10 ^ k))
  have hfront : decimalText k m = c :: (s ++ '.' :: padText k (m % 10 ^ k)) := by
    rw [decimalText, if_neg hk.ne', hcs, List.cons_append]
  have hdigit : c.isDigit = true := natText_digit (hcs ▸ List.mem_cons_self)
  rw [hfront] at hunsigned ⊢
  unfold strtod
  simp only [spanSign_digit hdigit, hunsigned, Option.map_some]
  rfl

theorem bound_finite {x max : ℚ} (hx : x ≤ max) (hbound : max ≤ 2 ^ 100) : x < 2 ^ 1024 - 2 ^ 970 := by
  have hsplit : (2 : ℚ) ^ 1024 = 2 ^ 970 * 2 ^ 54 := by rw [← pow_add]
  have hlarge : (2 : ℚ) ^ 100 ≤ 2 ^ 970 := pow_le_pow_right₀ (by norm_num) (by norm_num)
  have hpos : (0 : ℚ) < 2 ^ 970 := by positivity
  rw [hsplit]
  generalize (2 : ℚ) ^ 970 = a at hlarge hpos ⊢
  linarith

/-- **A number written with `k` decimals is read back.** -/
theorem parseDouble_decimalText {k : ℕ} (hk : 0 < k) (hk' : k ≤ 300) {m : ℕ} {min max : ℚ}
    (hmin : min ≤ (m : ℚ) / 10 ^ k) (hmax : (m : ℚ) / 10 ^ k ≤ max) (hbound : max ≤ 2 ^ 100) :
    parseDouble (decimalText k m) min max = some (.fin ((m : ℚ) / 10 ^ k)) := by
  have hne : decimalText k m ≠ [] := by
    rw [decimalText, if_neg hk.ne']
    exact List.append_ne_nil_of_right_ne_nil _ (List.cons_ne_nil _ _)
  unfold parseDouble
  rw [if_neg hne, strtod_decimalText hk hk' (bound_finite hmax hbound)]
  dsimp only
  rw [if_neg (by simp), if_neg]
  rw [Dbl.fin_lt_fin, Dbl.fin_lt_fin, not_or]
  exact ⟨not_lt.2 hmin, not_lt.2 hmax⟩

/-- **What `printf` wrote with `%.kf` is read as the number rounded to `k` decimals.** -/
theorem parseDouble_fixedText {k : ℕ} (hk : 0 < k) (hk' : k ≤ 300) {x max : ℚ} {n : ℕ} (h0 : 0 ≤ x) (hmax : x ≤ max)
    (hn : max = n) (hbound : max ≤ 2 ^ 100) :
    parseDouble (fixedText k x) 0 max = some (.fin (roundDecimals k x)) := by
  obtain ⟨m, htext, hm⟩ := exists_decimalText k h0
  have hle : roundDecimals k x ≤ max := by
    rw [hn] at hmax ⊢
    exact roundDecimals_le (n := n) hmax
  rw [htext, ← hm]
  exact parseDouble_decimalText hk hk' (by positivity) (by rw [hm]; exact hle) hbound

end GpuHealth.NumberText
