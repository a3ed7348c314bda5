/-
C text: the helpers of `src/util.c`, the libc calls behind them, and `split_kv` (`src/state.c`).

A C string is the list of its bytes before the NUL. `strtol` and `strtod` return the value, whether `errno` was set,
and the rest behind `end`; none is "no conversion" (`end == s`). The locale is "C". `strtod` is exact: a value is kept
as the rational the text denotes. `ERANGE` is set from the threshold at which rounding gives an infinity, and for a
nonzero value below the normal range that is no multiple of the least subnormal (tininess before rounding). So
`parseDouble` compares the exact number with its bounds: a text that lies behind a bound by less than half the distance
of two doubles is rejected here, where the source's `strtod` rounds it onto the bound and it is accepted.

`parseInt_range`, `parseDouble_range`: an accepted integer is in range; an accepted double is in range or is NaN,
which both comparisons of `parse_double` let through.
-/
import GpuHealth.Types
import Mathlib.Data.List.DropRight

namespace GpuHealth.CText

/-! ## libc -/

def isspace (c : Char) : Bool := c = ' ' ∨ (9 ≤ c.toNat ∧ c.toNat ≤ 13)

/-- the value of `c` as a digit of `base`, letters of either case above 9 -/
def digitOf (base : ℕ) (c : Char) : Option ℕ :=
  let v :=
    if '0' ≤ c ∧ c ≤ '9' then c.toNat - '0'.toNat
    else if 'a' ≤ c ∧ c ≤ 'z' then c.toNat - 'a'.toNat + 10
    else if 'A' ≤ c ∧ c ≤ 'Z' then c.toNat - 'A'.toNat + 10
    else base
  if v < base then some v else none

/-- the digits at the front, and the rest -/
def spanDigits (base : ℕ) : CStr → List ℕ × CStr
  | [] => ([], [])
  | c :: s =>
    match digitOf base c with
    | some d => let (ds, r) := spanDigits base s; (d :: ds, r)
    | none => ([], c :: s)

def ofDigits (base : ℕ) (ds : List ℕ) : ℕ := ds.foldl (fun n d => base * n + d) 0

/-- an optional sign, and the rest -/
def spanSign : CStr → Bool × CStr
  | '-' :: s => (true, s)
  | '+' :: s => (false, s)
  | s => (false, s)

/-- `strtol(s, &end, 10)` -/
def strtol (s : CStr) : Option (ℤ × Bool × CStr) :=
  let (negative, s) := spanSign (s.dropWhile isspace)
  match spanDigits 10 s with
  | ([], _) => none
  | (ds, rest) =>
    let v : ℤ := if negative then -(ofDigits 10 ds : ℤ) else ofDigits 10 ds
    if v < -2 ^ 63 then some (-2 ^ 63, true, rest)
    else if 2 ^ 63 - 1 < v then some (2 ^ 63 - 1, true, rest)
    else some (v, false, rest)

/-- the rest behind `word`, letters compared without case -/
def stripWord (word s : CStr) : Option CStr :=
  if (s.take word.length).map Char.toLower = word then some (s.drop word.length) else none

/-- the exponent after `mark`, taken only when it has a digit -/
def spanExponent (mark : Char) : CStr → ℤ × CStr
  | [] => (0, [])
  | c :: s =>
    if c.toLower = mark then
      let (negative, t) := spanSign s
      match spanDigits 10 t with
      | ([], _) => (0, c :: s)
      | (ds, rest) => (if negative then -(ofDigits 10 ds : ℤ) else ofDigits 10 ds, rest)
    else (0, c :: s)

/-- a numeral of `base` with a fraction and an exponent of `radix` after `mark` -/
def spanNumeral (base : ℕ) (mark : Char) (radix : ℚ) (s : CStr) : Option (ℚ × CStr) :=
  let (ip, r) := spanDigits base s
  let (fp, r) :=
    match r with
    | '.' :: t => if ip = [] ∧ (spanDigits base t).1 = [] then ([], r) else spanDigits base t
    | _ => ([], r)
  if ip = [] ∧ fp = [] then none
  else
    let (e, rest) := spanExponent mark r
    some ((ofDigits base (ip ++ fp) : ℚ) / base ^ fp.length * radix ^ e, rest)

/-- whether a finite value sets `errno`, and the value returned -/
def roundRange (x : ℚ) : Dbl ℚ × Bool :=
  if 2 ^ 1024 - 2 ^ 970 ≤ x then (.pinf, true)
  else if x ≠ 0 ∧ x < 1 / 2 ^ 1022 ∧ (x * 2 ^ 1074).den ≠ 1 then (.fin x, true)
  else (.fin x, false)

/-- `(n-char-sequence)` behind "nan" -/
def skipNanPayload (s : CStr) : CStr :=
  match s with
  | '(' :: t =>
    match t.dropWhile fun c => c.isAlphanum || c = '_' with
    | ')' :: rest => rest
    | _ => s
  | _ => s

/-- `strtod` behind blanks and sign -/
def strtodUnsigned (s : CStr) : Option (Dbl ℚ × Bool × CStr) :=
  match stripWord "infinity".toList s with
  | some rest => some (.pinf, false, rest)
  | none =>
    match stripWord "inf".toList s with
    | some rest => some (.pinf, false, rest)
    | none =>
      match stripWord "nan".toList s with
      | some rest => some (.nan, false, skipNanPayload rest)
      | none =>
        let hex := (stripWord "0x".toList s).bind (spanNumeral 16 'p' 2)
        match hex <|> spanNumeral 10 'e' 10 s with
        | some (x, rest) => some ((roundRange x).1, (roundRange x).2, rest)
        | none => none

def strtod (s : CStr) : Option (Dbl ℚ × Bool × CStr) :=
  let (negative, s) := spanSign (s.dropWhile isspace)
  (strtodUnsigned s).map fun (v, erange, rest) => (if negative then -v else v, erange, rest)

/-- the lines `fgets` with a buffer of `size` reads, each up to its first NUL -/
def fgetsLines (size : ℕ) (file : CStr) : List CStr := (go [] file).map fun l => l.takeWhile (· ≠ '\x00')
where
  /-- `cur` is the line so far, reversed -/
  go : CStr → CStr → List CStr
    | cur, [] => if cur = [] then [] else [cur.reverse]
    | cur, c :: s =>
      if c = '\n' ∨ cur.length + 2 = size then (c :: cur).reverse :: go [] s else go (c :: cur) s

/-! ## util.c -/

def safeStrncpy (src : CStr) (size : ℕ) : CStr := src.take (size - 1)

def strTrim (s : CStr) : CStr := (s.dropWhile isspace).rdropWhile isspace

def parseInt (s : CStr) (min max : ℤ) : Option ℤ :=
  if s = [] then none
  else
    match strtol s with
    | none => none
    | some (val, erange, rest) =>
      if erange = true ∨ rest ≠ [] then none
      else if val < min ∨ val > max then none
      else some val

def parseDouble (s : CStr) (min max : ℚ) : Option (Dbl ℚ) :=
  if s = [] then none
  else
    match strtod s with
    | none => none
    | some (val, erange, rest) =>
      if erange = true ∨ rest ≠ [] then none
      else if val < .fin min ∨ .fin max < val then none
      else some val

/-- the two sides of the first '=', trimmed; none for a blank line, a comment or a line without '=' -/
def splitKv (line : CStr) : Option (CStr × CStr) :=
  let p := strTrim line
  if p = [] ∨ p.head? = some '#' then none
  else if '=' ∈ p then
    some (strTrim (p.takeWhile (· ≠ '=')), strTrim ((p.dropWhile (· ≠ '=')).drop 1))
  else none

/-! ## Lines -/

/-- the content ends where a line ends -/
def AtLineEnd (s : CStr) : Prop := s = [] ∨ ∃ a, s = a ++ ['\n']

theorem fgetsLines_go_newline (size : ℕ) (cur a b : CStr) :
    fgetsLines.go size cur (a ++ '\n' :: b) = fgetsLines.go size cur (a ++ ['\n']) ++ fgetsLines.go size [] b := by
  induction a generalizing cur with
  | nil => simp [fgetsLines.go]
  | cons c a ih =>
    rw [List.cons_append, List.cons_append, fgetsLines.go, fgetsLines.go]
    split_ifs
    · rw [ih, List.cons_append]
    · exact ih (c :: cur)

/-- a file cut at the end of a line is read one part after the other -/
theorem fgetsLines_append (size : ℕ) {s : CStr} (h : AtLineEnd s) (rest : CStr) :
    fgetsLines size (s ++ rest) = fgetsLines size s ++ fgetsLines size rest := by
  rcases h with rfl | ⟨a, rfl⟩
  · rfl
  · rw [fgetsLines, List.append_assoc, List.singleton_append, fgetsLines_go_newline, List.map_append]
    rfl

theorem fgetsLines_go_short (size : ℕ) {line : CStr} (hline : '\n' ∉ line) (cur : CStr)
    (hlen : cur.length + line.length + 2 ≤ size) :
    fgetsLines.go size cur (line ++ ['\n']) = [cur.reverse ++ line ++ ['\n']] := by
  induction line generalizing cur with
  | nil => simp [fgetsLines.go]
  | cons c line ih =>
    rw [List.mem_cons, not_or] at hline
    rw [List.length_cons] at hlen
    have hfits : ¬ (c = '\n' ∨ cur.length + 2 = size) := not_or.2 ⟨Ne.symm hline.1, by omega⟩
    rw [List.cons_append, fgetsLines.go, if_neg hfits, ih hline.2 (c :: cur) (by rw [List.length_cons]; omega)]
    simp

/-- a line that fits the buffer is read whole -/
theorem fgetsLines_short {size : ℕ} {line : CStr} (hline : '\n' ∉ line) (hlen : line.length + 2 ≤ size) :
    fgetsLines size (line ++ ['\n']) = [(line ++ ['\n']).takeWhile (· ≠ '\x00')] := by
  rw [fgetsLines, fgetsLines_go_short size hline [] (by rw [List.length_nil]; omega)]
  rfl

/-- a line with its newline, read whole with a buffer of `size` -/
structure WholeLine (size : ℕ) (line : CStr) : Prop where
  ended : line.getLast? = some '\n'
  single : '\n' ∉ line.dropLast
  nul : '\x00' ∉ line
  fits : line.length < size

theorem WholeLine.mono {size size' : ℕ} {line : CStr} (h : WholeLine size line) (hle : size ≤ size') :
    WholeLine size' line := ⟨h.ended, h.single, h.nul, h.fits.trans_le hle⟩

theorem fgetsLines_whole {size : ℕ} {line : CStr} (h : WholeLine size line) (rest : CStr) :
    fgetsLines size (line ++ rest) = line :: fgetsLines size rest := by
  obtain ⟨text, rfl⟩ := List.getLast?_eq_some_iff.1 h.ended
  have hsingle : '\n' ∉ text := by simpa using h.single
  have hlen : text.length + 2 ≤ size := by
    have hfits := h.fits
    rw [List.length_append, List.length_singleton] at hfits
    omega
  have hkept : (text ++ ['\n']).takeWhile (· ≠ '\x00') = text ++ ['\n'] := by
    refine List.takeWhile_eq_self_iff.2 fun c hc => ?_
    rw [decide_eq_true_eq]
    rintro rfl
    exact h.nul hc
  rw [fgetsLines_append size (Or.inr ⟨text, rfl⟩), fgetsLines_short hsingle hlen, hkept]
  rfl

/-- a file of such lines is read line by line -/
theorem fgetsLines_flatten {size : ℕ} {lines : List CStr} (h : ∀ l ∈ lines, WholeLine size l) :
    fgetsLines size lines.flatten = lines := by
  induction lines with
  | nil => rfl
  | cons l lines ih =>
    rw [List.flatten_cons, fgetsLines_whole (h l List.mem_cons_self),
      ih fun m hm => h m (List.mem_cons_of_mem _ hm)]

/-! ## The two sides of a line -/

theorem takeWhile_split {key : CStr} (text : CStr) (h : '=' ∉ key) :
    (key ++ '=' :: text).takeWhile (· ≠ '=') = key ∧ (key ++ '=' :: text).dropWhile (· ≠ '=') = '=' :: text := by
  have hkey : ∀ c ∈ key, decide (c ≠ '=') = true := by
    intro c hc
    exact decide_eq_true (fun heq => h (heq ▸ hc))
  refine ⟨?_, ?_⟩
  · rw [List.takeWhile_append_of_pos hkey]
    simp
  · rw [List.dropWhile_append_of_pos hkey]
    simp

theorem splitKv_of_split {line key text : CStr} (hne : strTrim line ≠ []) (hhash : (strTrim line).head? ≠ some '#')
    (hsplit : strTrim line = key ++ '=' :: text) (hkey : '=' ∉ key) :
    splitKv line = some (strTrim key, strTrim text) := by
  have hmem : '=' ∈ strTrim line := by
    rw [hsplit]
    simp
  obtain ⟨htake, hdrop⟩ := takeWhile_split text hkey
  unfold splitKv
  dsimp only
  rw [if_neg (not_or.2 ⟨hne, hhash⟩), if_pos hmem, hsplit, htake, hdrop]
  rfl

/-- no blank at either end -/
def Trimmed (s : CStr) : Prop := s.head?.any isspace = false ∧ s.getLast?.any isspace = false

instance (s : CStr) : Decidable (Trimmed s) := inferInstanceAs (Decidable (_ ∧ _))

theorem dropWhile_trimmed {s : CStr} (h : s.head?.any isspace = false) : s.dropWhile isspace = s := by
  cases s with
  | nil => rfl
  | cons c s =>
    rw [List.head?_cons, Option.any_some] at h
    exact List.dropWhile_cons_of_neg (by rw [h]; exact Bool.false_ne_true)

theorem strTrim_trimmed {s : CStr} (h : Trimmed s) : strTrim s = s := by
  rw [strTrim, dropWhile_trimmed h.1, List.rdropWhile_eq_self_iff]
  intro hne
  have hlast := h.2
  rw [List.getLast?_eq_some_getLast hne, Option.any_some] at hlast
  rw [hlast]
  exact Bool.false_ne_true

theorem strTrim_newline {s : CStr} (h : Trimmed s) : strTrim (s ++ ['\n']) = s := by
  cases s with
  | nil => rfl
  | cons c s =>
    have hfront : (c :: s ++ ['\n']).dropWhile isspace = c :: s ++ ['\n'] := dropWhile_trimmed h.1
    have hback : (c :: s).rdropWhile isspace = c :: s := by
      have htrim := strTrim_trimmed h
      rwa [strTrim, dropWhile_trimmed h.1] at htrim
    rw [strTrim, hfront, List.rdropWhile_concat_pos isspace (c :: s) '\n' (by decide), hback]

/-- a line "key=val" splits into its key and its value -/
theorem splitKv_keyLine {key val : CStr} (hkey : Trimmed key) (hne : key ≠ []) (hhash : key.head? ≠ some '#')
    (hsign : '=' ∉ key) (hval : Trimmed val) : splitKv (key ++ '=' :: val ++ ['\n']) = some (key, val) := by
  obtain ⟨c, key, rfl⟩ := List.exists_cons_of_ne_nil hne
  have hends : Trimmed (c :: key ++ '=' :: val) := by
    refine ⟨hkey.1, ?_⟩
    rw [List.getLast?_append, List.getLast?_cons]
    cases hlast : val.getLast? with
    | none => rfl
    | some d => simpa [hlast] using hval.2
  have htrim := strTrim_newline hends
  have hsplit : splitKv (c :: key ++ '=' :: val ++ ['\n']) = some (strTrim (c :: key), strTrim val) :=
    splitKv_of_split (by rw [htrim]; simp) (by rw [htrim]; exact hhash) htrim hsign
  rw [hsplit, strTrim_trimmed hkey, strTrim_trimmed hval]

/-! ## What is accepted -/

theorem safeStrncpy_length (src : CStr) {size : ℕ} (h : 0 < size) : (safeStrncpy src size).length < size := by
  simp only [safeStrncpy, List.length_take]; omega

theorem parseInt_range {s : CStr} {min max v : ℤ} (h : parseInt s min max = some v) : min ≤ v ∧ v ≤ max := by
  unfold parseInt at h
  split_ifs at h
  split at h
  · exact absurd h (by simp)
  · split_ifs at h with _ hrange
    rw [Option.some.injEq] at h
    omega

theorem parseDouble_range {s : CStr} {min max : ℚ} {v : Dbl ℚ} (h : parseDouble s min max = some v) :
    v = .nan ∨ ∃ x, v = .fin x ∧ min ≤ x ∧ x ≤ max := by
  unfold parseDouble at h
  split_ifs at h
  split at h
  · exact absurd h (by simp)
  · split_ifs at h with _ hrange
    rw [Option.some.injEq] at h
    subst h
    rw [not_or] at hrange
    rename_i val _ _ _
    cases val with
    | nan => exact Or.inl rfl
    | ninf => exact absurd (Dbl.ninf_lt_fin min) hrange.1
    | pinf => exact absurd (Dbl.fin_lt_pinf max) hrange.2
    | fin x =>
      simp only [Dbl.fin_lt_fin, not_lt] at hrange
      exact Or.inr ⟨x, rfl, hrange.1, hrange.2⟩

example : parseDouble " 2.5e1".toList 0 30 = some (.fin 25) := by decide +kernel
example : parseDouble "nan".toList 0 30 = some .nan := by decide +kernel

end GpuHealth.CText
