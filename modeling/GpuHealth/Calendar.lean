/-
UTC time stamps: glibc's `gmtime_r` and `strftime` as the probe program uses them (`iso8601_now`,
`probe/gpu_health_probe.cu`), against `strptime` and `timegm` of the loaders (`State`).

`timegm_gmtime`: `timegm` undoes `gmtime` on every second from the epoch on. `parseIso8601_iso8601`: the exporter reads
the stamp of every second of the years 1970 to 9999 as that second, the first one apart (its 0 stands for failure).
`timegm_range` bounds the second of any stamp the exporter reads; it is negative before 1970.
-/
import GpuHealth.State
import GpuHealth.NumberText

namespace GpuHealth.Calendar

open GpuHealth.CText GpuHealth.State GpuHealth.Decimal GpuHealth.NumberText

/-! ## The calendar -/

/-- the day number of 1 January, counted from the epoch -/
def yearStart (y : ℕ) : ℤ := 365 * ((y : ℤ) - 1970) + (leapYears ((y : ℤ) - 1) - leapYears 1969)

/-- the last year that has begun -/
def yearOf (days : ℕ) : ℕ := Nat.findGreatest (fun y => yearStart y ≤ days) (1970 + days / 365)

/-- the last month that has begun on day `yday` of the year -/
def monthOf (year yday : ℕ) : ℕ := Nat.findGreatest (fun m => daysBefore year m ≤ yday) 12

/-- `gmtime_r`, from the epoch on -/
def gmtime (t : ℕ) : Tm :=
  let year := yearOf (t / 86400)
  let yday := t / 86400 - (yearStart year).toNat
  ⟨year, monthOf year yday, yday - daysBefore year (monthOf year yday) + 1, t % 86400 / 3600, t % 3600 / 60, t % 60⟩

/-- `strftime` with "%Y-%m-%dT%H:%M:%SZ" -/
def strftimeIso (tm : Tm) : CStr :=
  natText tm.year ++ '-' :: (padText 2 tm.mon ++ '-' :: (padText 2 tm.mday ++ 'T' :: (padText 2 tm.hour ++
    ':' :: (padText 2 tm.min ++ ':' :: (padText 2 tm.sec ++ ['Z'])))))

/-- `iso8601_now` at the time `t` -/
def iso8601 (t : ℕ) : CStr := strftimeIso (gmtime t)

example : iso8601 1773584520 = "2026-03-15T14:22:00Z".toList := by decide +kernel

theorem yearStart_succ (y : ℕ) : yearStart (y + 1) = yearStart y + 365 + if isLeap y then 1 else 0 := by
  have hleap : isLeap y = true ↔ y % 4 = 0 ∧ (y % 100 ≠ 0 ∨ y % 400 = 0) := by
    unfold isLeap
    exact decide_eq_true_iff
  unfold yearStart leapYears
  split_ifs with h
  · rw [hleap] at h
    push_cast
    omega
  · rw [hleap] at h
    push_cast
    omega

theorem yearStart_mono : Monotone yearStart := by
  refine monotone_nat_of_le_succ fun y => ?_
  rw [yearStart_succ]
  split_ifs <;> omega

theorem yearStart_lower (n : ℕ) : 365 * (n : ℤ) ≤ yearStart (1970 + n) := by
  induction n with
  | zero => decide
  | succ n ih =>
    rw [← Nat.add_assoc, yearStart_succ]
    push_cast
    split_ifs <;> omega

/-- the day lies in the year -/
theorem yearOf_spec (days : ℕ) : yearStart (yearOf days) ≤ days ∧ (days : ℤ) < yearStart (yearOf days + 1) := by
  refine ⟨?_, ?_⟩
  · have hfirst : yearStart 1970 ≤ (days : ℤ) := (by decide : yearStart 1970 = 0) ▸ Int.natCast_nonneg days
    exact Nat.findGreatest_spec (P := fun y => yearStart y ≤ (days : ℤ)) (by omega) hfirst
  · by_contra hnext
    have hlt : yearOf days < yearOf days + 1 := Nat.lt_succ_self _
    rcases Nat.lt_or_ge (1970 + days / 365) (yearOf days + 1) with hbeyond | hwithin
    · -- the years up to the bound have 365 days at least
      have hlower := yearStart_lower (days / 365 + 1)
      have hmono := yearStart_mono (show 1970 + (days / 365 + 1) ≤ yearOf days + 1 by omega)
      push_cast at hlower
      omega
    · exact Nat.findGreatest_is_greatest hlt hwithin (not_lt.1 hnext)

/-- the day lies in the month -/
theorem monthOf_spec (year yday : ℕ) :
    1 ≤ monthOf year yday ∧ monthOf year yday ≤ 12 ∧ daysBefore year (monthOf year yday) ≤ yday ∧
      (monthOf year yday < 12 → yday < daysBefore year (monthOf year yday + 1)) := by
  have hfirst : daysBefore year 1 ≤ yday := by
    have hzero : daysBefore year 1 = 0 := by simp [daysBefore]
    rw [hzero]
    exact Nat.zero_le _
  refine ⟨Nat.le_findGreatest (by norm_num) hfirst, Nat.findGreatest_le 12,
    Nat.findGreatest_spec (P := fun m => daysBefore year m ≤ yday) (by norm_num) hfirst, ?_⟩
  intro hlt
  by_contra hnext
  exact Nat.findGreatest_is_greatest (Nat.lt_succ_self _) hlt (not_lt.1 hnext)

/-- no month has more than 31 days -/
theorem daysBefore_step (year : ℕ) {m : ℕ} (h1 : 1 ≤ m) (h2 : m < 12) :
    daysBefore year (m + 1) ≤ daysBefore year m + 31 := by
  unfold daysBefore
  interval_cases m <;> simp <;> split_ifs <;> omega

theorem daysBefore_december (year : ℕ) : daysBefore year 12 = 334 + if isLeap year then 1 else 0 := by
  simp [daysBefore]

/-- the year of day `days` and the day in it -/
theorem yday_spec (days : ℕ) :
    yearStart (yearOf days) + (days - (yearStart (yearOf days)).toNat : ℕ) = days ∧
      (days - (yearStart (yearOf days)).toNat : ℕ) < 365 + if isLeap (yearOf days) then 1 else 0 := by
  obtain ⟨hstart, hnext⟩ := yearOf_spec days
  have hsince : 1970 ≤ yearOf days :=
    Nat.le_findGreatest (P := fun y => yearStart y ≤ (days : ℤ)) (by omega)
      ((by decide : yearStart 1970 = 0) ▸ Int.natCast_nonneg days)
  have hnonneg : 0 ≤ yearStart (yearOf days) := (by decide : yearStart 1970 = 0) ▸ yearStart_mono hsince
  rw [yearStart_succ] at hnext
  refine ⟨by omega, ?_⟩
  split_ifs at hnext ⊢ <;> omega

theorem gmtime_mday (t : ℕ) : (gmtime t).mday ≤ 31 := by
  obtain ⟨-, hin⟩ := yday_spec (t / 86400)
  unfold gmtime
  dsimp only
  set year := yearOf (t / 86400)
  set yday := t / 86400 - (yearStart year).toNat
  obtain ⟨hone, htwelve, -, hnext⟩ := monthOf_spec year yday
  rcases htwelve.lt_or_eq with hlt | heq
  · have hstep := daysBefore_step year hone hlt
    have hend := hnext hlt
    omega
  · rw [heq, daysBefore_december]
    omega

/-- **`timegm` undoes `gmtime`.** -/
theorem timegm_gmtime (t : ℕ) : timegm (gmtime t) = t := by
  obtain ⟨hday, -⟩ := yday_spec (t / 86400)
  unfold timegm gmtime
  dsimp only
  set year := yearOf (t / 86400)
  set yday := t / 86400 - (yearStart year).toNat
  obtain ⟨-, -, hmonth, -⟩ := monthOf_spec year yday
  unfold yearStart at hday
  push_cast [hmonth]
  omega

/-- the years of four digits -/
theorem gmtime_year {t : ℕ} (h : t ≤ 253402300799) : (gmtime t).year ≤ 9999 := by
  obtain ⟨hstart, -⟩ := yearOf_spec (t / 86400)
  change yearOf (t / 86400) ≤ 9999
  by_contra hlate
  have hmono := yearStart_mono (show 10000 ≤ yearOf (t / 86400) by omega)
  have hten : yearStart 10000 = 2932897 := by decide
  omega

/-! ## Reading a stamp -/

/-- digits are read up to the first character that is none -/
theorem getNumber_more {max : ℕ} {s : CStr} (hs : ∀ c ∈ s, c.isDigit = true) {n val : ℕ} (hlen : s.length ≤ n)
    (hmax : Nat.ofDigitChars 10 s val ≤ max) {c : Char} (hc : digitOf 10 c = none) (rest : CStr) :
    getNumber.more max n val (s ++ c :: rest) = (Nat.ofDigitChars 10 s val, c :: rest) := by
  induction s generalizing n val with
  | nil =>
    cases n with
    | zero => rfl
    | succ n => simp only [List.nil_append, getNumber.more, hc, Nat.ofDigitChars_nil]
  | cons d s ih =>
    cases n with
    | zero => exact absurd hlen (by simp)
    | succ n =>
      have hdigit := hs d List.mem_cons_self
      rw [Nat.ofDigitChars_cons] at hmax
      have hgrow : 10 * val + (d.toNat - '0'.toNat) ≤ max := by
        refine le_trans ?_ hmax
        rw [Nat.ofDigitChars_eq_ofDigitChars_zero]
        exact (Nat.le_mul_of_pos_left _ (by positivity)).trans (Nat.le_add_right _ _)
      have hfits : val * 10 ≤ max := by omega
      have htail : getNumber.more max n (val * 10 + (d.toNat - '0'.toNat)) (s ++ c :: rest) =
          (Nat.ofDigitChars 10 s (val * 10 + (d.toNat - '0'.toNat)), c :: rest) :=
        ih (fun e he => hs e (List.mem_cons_of_mem _ he)) (Nat.le_of_succ_le_succ hlen) (by rwa [mul_comm val 10])
      have hvalue : Nat.ofDigitChars 10 (d :: s) val = Nat.ofDigitChars 10 s (val * 10 + (d.toNat - '0'.toNat)) := by
        rw [Nat.ofDigitChars_cons, mul_comm 10 val]
      simp only [List.cons_append, getNumber.more, digitOf_digit hdigit, if_pos hfits, htail, hvalue]

theorem getNumber_text {min max n v : ℕ} {s : CStr} (hs : ∀ c ∈ s, c.isDigit = true) (hne : s ≠ [])
    (hlen : s.length ≤ n) (hv : Nat.ofDigitChars 10 s 0 = v) (hmin : min ≤ v) (hmax : v ≤ max) {c : Char}
    (hc : digitOf 10 c = none) (rest : CStr) : getNumber min max n (s ++ c :: rest) = some (v, c :: rest) := by
  obtain ⟨d, s, rfl⟩ := List.exists_cons_of_ne_nil hne
  have hdigit := hs d List.mem_cons_self
  rw [Nat.ofDigitChars_cons, mul_zero, zero_add] at hv
  have hshort : s.length ≤ n - 1 := by
    rw [List.length_cons] at hlen
    omega
  have hmore : getNumber.more max (n - 1) (d.toNat - '0'.toNat) (s ++ c :: rest) =
      (Nat.ofDigitChars 10 s (d.toNat - '0'.toNat), c :: rest) :=
    getNumber_more (fun e he => hs e (List.mem_cons_of_mem _ he)) hshort (by rwa [hv]) hc rest
  unfold getNumber
  rw [List.cons_append, List.dropWhile_cons_of_neg (by rw [digit_not_space hdigit]; exact Bool.false_ne_true)]
  simp only [digitOf_digit hdigit, hmore, hv]
  rw [if_neg (by omega)]

theorem getNumber_padText {min max v : ℕ} (hv : v < 10 ^ 2) (hmin : min ≤ v) (hmax : v ≤ max) {c : Char}
    (hc : digitOf 10 c = none) (rest : CStr) :
    getNumber min max 2 (padText 2 v ++ c :: rest) = some (v, c :: rest) := by
  have hlen : (padText 2 v).length = 2 := padText_length (by norm_num) hv
  have hne : padText 2 v ≠ [] := List.ne_nil_of_length_eq_add_one hlen
  exact getNumber_text (fun c hc => padText_digit hc) hne hlen.le (padText_value 2 v) hmin hmax hc rest

theorem strptimeIso_strftimeIso {tm : Tm} (hyear : tm.year ≤ 9999) (hmon : 1 ≤ tm.mon ∧ tm.mon ≤ 12)
    (hmday : 1 ≤ tm.mday ∧ tm.mday ≤ 31) (hhour : tm.hour ≤ 23) (hmin : tm.min ≤ 59) (hsec : tm.sec ≤ 61) :
    strptimeIso (strftimeIso tm) = some tm := by
  have hlen : (natText tm.year).length ≤ 4 :=
    (Nat.length_toDigits_le_iff (by norm_num) (by norm_num)).2 (Nat.lt_succ_of_le hyear)
  have hyears := fun rest => getNumber_text (fun c hc => natText_digit (n := tm.year) hc) (natText_ne_nil _) hlen
    (natText_value _) (Nat.zero_le _) hyear (c := '-') (by decide) rest
  have hmons := fun rest => getNumber_padText (by omega) hmon.1 hmon.2 (c := '-') (by decide) rest
  have hdays := fun rest => getNumber_padText (by omega) hmday.1 hmday.2 (c := 'T') (by decide) rest
  have hhours := fun rest => getNumber_padText (by omega) (Nat.zero_le _) hhour (c := ':') (by decide) rest
  have hmins := fun rest => getNumber_padText (by omega) (Nat.zero_le _) hmin (c := ':') (by decide) rest
  have hsecs := fun rest => getNumber_padText (by omega) (Nat.zero_le _) hsec (c := 'Z') (by decide) rest
  have hmatch : ∀ c rest, matchChar c (c :: rest) = some rest := fun c rest => if_pos rfl
  unfold strptimeIso strftimeIso
  simp only [Option.bind_eq_bind]
  -- one field after the other, each with its separator
  rw [hyears, Option.bind_some, hmatch, Option.bind_some]
  rw [hmons, Option.bind_some, hmatch, Option.bind_some]
  rw [hdays, Option.bind_some, hmatch, Option.bind_some]
  rw [hhours, Option.bind_some, hmatch, Option.bind_some]
  rw [hmins, Option.bind_some, hmatch, Option.bind_some]
  rw [hsecs, Option.bind_some, hmatch, Option.bind_some]
  rfl

/-- **A time stamp is read as the second it was written.** -/
theorem parseIso8601_iso8601 {t : ℕ} (hlast : t ≤ 253402300799) : (parseIso8601 (iso8601 t)).toNat = t := by
  obtain ⟨hone, htwelve, -, -⟩ := monthOf_spec (gmtime t).year (t / 86400 - (yearStart (gmtime t).year).toNat)
  have hmday : 1 ≤ (gmtime t).mday := Nat.le_add_left _ _
  have hread : strptimeIso (iso8601 t) = some (gmtime t) := by
    refine strptimeIso_strftimeIso (gmtime_year hlast) ⟨hone, htwelve⟩ ⟨hmday, gmtime_mday t⟩ ?_ ?_ ?_
    · change t % 86400 / 3600 ≤ 23
      omega
    · change t % 3600 / 60 ≤ 59
      omega
    · change t % 60 ≤ 61
      omega
  unfold parseIso8601
  rw [hread]
  dsimp only
  rw [timegm_gmtime, if_neg (by omega)]
  have hword := u64OfInt_toNat (n := (t : ℤ)) (Int.natCast_nonneg t) (by omega)
  exact_mod_cast hword

/-! ## The range of a stamp -/

theorem getNumber_range {min max n v : ℕ} {s rest : CStr} (h : getNumber min max n s = some (v, rest)) :
    min ≤ v ∧ v ≤ max := by
  simp only [getNumber] at h
  split at h
  · cases h
  · split at h
    · cases h
    · split_ifs at h with hrange
      obtain ⟨rfl, -⟩ := Prod.mk.inj (Option.some.inj h)
      omega

/-- the members `strptime` can leave in `tm` -/
theorem strptimeIso_range {s : CStr} {tm : Tm} (h : strptimeIso s = some tm) :
    tm.year ≤ 9999 ∧ (1 ≤ tm.mon ∧ tm.mon ≤ 12) ∧ (1 ≤ tm.mday ∧ tm.mday ≤ 31) ∧ tm.hour ≤ 23 ∧ tm.min ≤ 59 ∧
      tm.sec ≤ 61 := by
  unfold strptimeIso at h
  simp only [Option.bind_eq_bind, Option.bind_eq_some_iff] at h
  obtain ⟨⟨year, _⟩, hyear, _, _, ⟨mon, _⟩, hmon, _, _, ⟨mday, _⟩, hmday, _, _, ⟨hour, _⟩, hhour, _, _, ⟨min, _⟩, hmin,
    _, _, ⟨sec, _⟩, hsec, _, _, hend⟩ := h
  split_ifs at hend
  obtain rfl := Option.some.inj hend
  exact ⟨(getNumber_range hyear).2, getNumber_range hmon, getNumber_range hmday, (getNumber_range hhour).2,
    (getNumber_range hmin).2, (getNumber_range hsec).2⟩

theorem daysBefore_le (year mon : ℕ) : daysBefore year mon ≤ 335 := by
  have htable : [0, 31, 59, 90, 120, 151, 181, 212, 243, 273, 304, 334].getD (mon - 1) 0 ≤ 334 := by
    rw [List.getD_eq_getElem?_getD]
    cases hget : [0, 31, 59, 90, 120, 151, 181, 212, 243, 273, 304, 334][mon - 1]? with
    | none => exact Nat.zero_le _
    | some d =>
      have hall : ∀ d ∈ [0, 31, 59, 90, 120, 151, 181, 212, 243, 273, 304, 334], d ≤ 334 := by decide
      exact hall d (List.mem_of_getElem? hget)
  unfold daysBefore
  split_ifs <;> omega

/-- the seconds of the years 0 to 9999 fit 39 bits and a sign -/
theorem timegm_range {s : CStr} {tm : Tm} (h : strptimeIso s = some tm) :
    -(2 ^ 39) < timegm tm ∧ timegm tm < 2 ^ 39 := by
  obtain ⟨hyear, -, ⟨hfirst, hlast⟩, hhour, hmin, hsec⟩ := strptimeIso_range h
  have hdays := daysBefore_le tm.year tm.mon
  unfold timegm leapYears
  refine ⟨?_, ?_⟩ <;> dsimp only <;> omega

end GpuHealth.Calendar
