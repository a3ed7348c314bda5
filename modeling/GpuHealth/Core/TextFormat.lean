/-
A reader of the Prometheus text format, version 0.0.4. General: nothing here names a program.

A text is read line by line: HELP and TYPE comments, other comments, and samples with a name, labels in braces, a value
and perhaps a timestamp, separated by blanks and tabs. A label value stands in double quotes, with backslash, quote and
newline escaped, and is UTF-8. The last line ends in a newline. A name has one HELP and one TYPE line, the TYPE before
its first sample. A character stands for a byte.

`parse_groups`: a page of families reads as their entries. `plain_of_read`: where the labels read from a text that was
written without escapes are those written, no label needed an escape.
-/
import GpuHealth.Core.Decimal
import GpuHealth.Core.Exposition

namespace GpuHealth.TextFormat

open GpuHealth.Decimal GpuHealth.Exposition

abbrev Labels := List (List Char × List Char)

/-! ## Tokens -/

def blank (c : Char) : Bool := c = ' ' ∨ c = '\t'

def skipBlanks (s : List Char) : List Char := s.dropWhile blank

/-- the token at the front, and the rest behind its blanks -/
def spanToken (s : List Char) : List Char × List Char :=
  (s.takeWhile fun c => !blank c, skipBlanks (s.dropWhile fun c => !blank c))

def labelChar (c : Char) : Bool := c.isAlphanum || c = '_'

def metricChar (c : Char) : Bool := labelChar c || c = ':'

/-- a name at the front, which does not begin with a digit, and the rest -/
def spanName (ok : Char → Bool) (s : List Char) : Option (List Char × List Char) :=
  if s.head?.any (fun c => ok c && !c.isDigit) then some (s.takeWhile ok, s.dropWhile ok) else none

/-- the rest behind the mark `c` -/
def expect (c : Char) (s : List Char) : Option (List Char) :=
  match skipBlanks s with
  | [] => none
  | d :: rest => if d = c then some rest else none

/-! ## UTF-8 -/

def between (low high : ℕ) (c : Char) : Bool := low ≤ c.toNat ∧ c.toNat ≤ high

/-- the ranges of the bytes behind a first byte -/
def following (c : Char) : Option (List (ℕ × ℕ)) :=
  if between 0x00 0x7f c then some []
  else if between 0xc2 0xdf c then some [(0x80, 0xbf)]
  else if between 0xe0 0xe0 c then some [(0xa0, 0xbf), (0x80, 0xbf)]
  else if between 0xed 0xed c then some [(0x80, 0x9f), (0x80, 0xbf)]
  else if between 0xe1 0xef c then some [(0x80, 0xbf), (0x80, 0xbf)]
  else if between 0xf0 0xf0 c then some [(0x90, 0xbf), (0x80, 0xbf), (0x80, 0xbf)]
  else if between 0xf1 0xf3 c then some [(0x80, 0xbf), (0x80, 0xbf), (0x80, 0xbf)]
  else if between 0xf4 0xf4 c then some [(0x80, 0x8f), (0x80, 0xbf), (0x80, 0xbf)]
  else none

/-- whether the bytes are UTF-8; `ranges` are those the next bytes have to be in -/
def utf8From : List (ℕ × ℕ) → List Char → Bool
  | [], [] => true
  | _ :: _, [] => false
  | [], c :: s =>
    match following c with
    | none => false
    | some ranges => utf8From ranges s
  | r :: ranges, c :: s => between r.1 r.2 c && utf8From ranges s

def utf8 (s : List Char) : Bool := utf8From [] s

theorem utf8_ascii {s : List Char} (h : ∀ c ∈ s, c.toNat < 128) : utf8 s = true := by
  unfold utf8
  induction s with
  | nil => rfl
  | cons c s ih =>
    have hc : following c = some [] := by
      have hlt := h c List.mem_cons_self
      have hascii : between 0x00 0x7f c = true := decide_eq_true ⟨Nat.zero_le _, Nat.le_of_lt_succ hlt⟩
      rw [following, if_pos hascii]
    rw [utf8From, hc]
    exact ih fun d hd => h d (List.mem_cons_of_mem _ hd)

/-! ## Numbers -/

def isDigits (s : List Char) : Bool := s ≠ [] && s.all Char.isDigit

def skipSign : List Char → List Char
  | '-' :: s => s
  | '+' :: s => s
  | s => s

/-- an exponent, or nothing -/
def isExponent : List Char → Bool
  | [] => true
  | c :: s => c.toLower = 'e' && isDigits (skipSign s)

/-- digits, perhaps a point and digits, perhaps an exponent -/
def isNumeral (s : List Char) : Bool :=
  let whole := s.takeWhile Char.isDigit
  match s.dropWhile Char.isDigit with
  | '.' :: t =>
    (whole ++ t.takeWhile Char.isDigit ≠ []) && isExponent (t.dropWhile Char.isDigit)
  | rest => whole ≠ [] && isExponent rest

/-- a decimal numeral or one of the special values -/
def isFloat (s : List Char) : Bool :=
  isNumeral (skipSign s) || (skipSign s).map Char.toLower ∈ [['i', 'n', 'f'], ['i', 'n', 'f', 'i', 'n', 'i', 't', 'y']] ||
    s.map Char.toLower = ['n', 'a', 'n']

/-! ## Lines -/

/-- a label value up to its closing quote, and the rest -/
def readValue : List Char → Option (List Char × List Char)
  | [] => none
  | '"' :: rest => some ([], rest)
  | ['\\'] => none
  | '\\' :: e :: s =>
    if e = 'n' then (readValue s).map fun p => ('\n' :: p.1, p.2)
    else if e = '"' ∨ e = '\\' then (readValue s).map fun p => (e :: p.1, p.2)
    else none
  | c :: s => (readValue s).map fun p => (c :: p.1, p.2)

/-- `name="value"` -/
def readLabel (s : List Char) : Option ((List Char × List Char) × List Char) :=
  (spanName labelChar s).bind fun (name, r) =>
    (expect '=' r).bind fun r =>
      (expect '"' r).bind fun r =>
        (readValue r).bind fun (value, r) => if utf8 value then some ((name, value), r) else none

/-- the labels behind the opening brace, and the rest behind the closing one -/
def readLabels : ℕ → List Char → Option (Labels × List Char)
  | 0, _ => none
  | fuel + 1, s =>
    match expect '\x7d' s with
    | some rest => some ([], rest)
    | none =>
      (readLabel (skipBlanks s)).bind fun (l, r) =>
        match expect ',' r with
        | some r => (readLabels fuel r).map fun p => (l :: p.1, p.2)
        | none => (expect '\x7d' r).map fun rest => ([l], rest)

inductive Entry where
  | help (name text : List Char)
  | type (name type : List Char)
  | sample (name : List Char) (labels : Labels) (value timestamp : List Char)
  /-- a comment or a blank line -/
  | other
deriving DecidableEq

/-- a value and perhaps a timestamp -/
def readNumbers (name : List Char) (labels : Labels) (s : List Char) : Option Entry :=
  let (value, rest) := spanToken (skipBlanks s)
  let (timestamp, rest) := spanToken rest
  if isFloat value ∧ (timestamp = [] ∨ isDigits (skipSign timestamp)) ∧ rest = [] then
    some (.sample name labels value timestamp)
  else none

def readSample (s : List Char) : Option Entry :=
  (spanName metricChar s).bind fun (name, r) =>
    match expect '\x7b' r with
    | none => readNumbers name [] r
    | some r => (readLabels (r.length + 1) r).bind fun (labels, r) => readNumbers name labels r

/-- whether a backslash stands only in front of another or of `n` -/
def helpEscaped : List Char → Bool
  | [] => true
  | ['\\'] => false
  | '\\' :: e :: s => (e = '\\' || e = 'n') && helpEscaped s
  | _ :: s => helpEscaped s

def types : List (List Char) :=
  ["counter".toList, "gauge".toList, "histogram".toList, "summary".toList, "untyped".toList]

/-- what stands behind a hash -/
def readComment (s : List Char) : Option Entry :=
  let (word, rest) := spanToken (skipBlanks s)
  if word = ['H', 'E', 'L', 'P'] then
    (spanName metricChar rest).bind fun (name, r) =>
      if r.head?.all blank ∧ helpEscaped (skipBlanks r) then some (.help name (skipBlanks r)) else none
  else if word = ['T', 'Y', 'P', 'E'] then
    (spanName metricChar rest).bind fun (name, r) =>
      if skipBlanks r ∈ types then some (.type name (skipBlanks r)) else none
  else some .other

def readLine (line : List Char) : Option Entry :=
  match skipBlanks line with
  | [] => some .other
  | c :: s => if c = '#' then readComment s else readSample (c :: s)

/-! ## Texts -/

/-- whether `b` may stand behind `a` -/
def compatible : Entry → Entry → Bool
  | .help name _, .help name' _ => name ≠ name'
  | .type name _, .type name' _ => name ≠ name'
  | .sample name _ _ _, .type name' _ => name ≠ name'
  | _, _ => true

/-- the entries of a text, none when it breaks the format -/
def parse (s : List Char) : Option (List Entry) :=
  if s.getLast?.all (· = '\n') then
    ((lines s).mapM readLine).bind fun es => if es.Pairwise (compatible · ·) then some es else none
  else none

/-- the labels of the samples of one name, in order -/
def labelsOf (name : List Char) (es : List Entry) : List Labels :=
  es.filterMap fun e =>
    match e with
    | .sample n labels _ _ => if n = name then some labels else none
    | _ => none

/-- the labels and the values of the samples of one name, in order -/
def samplesOf (name : List Char) (es : List Entry) : List (Labels × List Char) :=
  es.filterMap fun e =>
    match e with
    | .sample n labels value _ => if n = name then some (labels, value) else none
    | _ => none

theorem labelsOf_eq (name : List Char) (es : List Entry) : labelsOf name es = (samplesOf name es).map Prod.fst := by
  rw [labelsOf, samplesOf, List.map_filterMap]
  refine List.filterMap_congr fun e _ => ?_
  cases e with
  | sample n labels value timestamp =>
    dsimp only
    split_ifs <;> rfl
  | _ => rfl

/-! ## What is written -/

structure IsName (ok : Char → Bool) (name : List Char) : Prop where
  head : name.head?.any (fun c => ok c && !c.isDigit) = true
  chars : ∀ c ∈ name, ok c = true

/-- a label value that is written as it is -/
structure Plain (v : List Char) : Prop where
  quote : '"' ∉ v
  backslash : '\\' ∉ v
  newline : '\n' ∉ v
  utf8 : utf8 v = true

def labelText (l : List Char × List Char) : List Char := l.1 ++ '=' :: '"' :: (l.2 ++ ['"'])

/-- labels without escapes, and the closing brace -/
def labelsText : Labels → List Char
  | [] => ['\x7d']
  | [l] => labelText l ++ ['\x7d']
  | l :: ls => labelText l ++ ',' :: labelsText ls

structure Labelled (ls : Labels) : Prop where
  name : ∀ l ∈ ls, IsName labelChar l.1
  plain : ∀ l ∈ ls, Plain l.2

/-- a sample: its labels and its value -/
structure Point where
  labels : Labels
  value : List Char

def pointText (name : List Char) (p : Point) : List Char :=
  name ++ '\x7b' :: (labelsText p.labels ++ ' ' :: p.value)

/-! ## Reading names -/

theorem takeWhile_all {p : Char → Bool} {s : List Char} (h : ∀ c ∈ s, p c = true) (rest : List Char) :
    (s ++ rest).takeWhile p = s ++ rest.takeWhile p := List.takeWhile_append_of_pos h

theorem dropWhile_all {p : Char → Bool} {s : List Char} (h : ∀ c ∈ s, p c = true) (rest : List Char) :
    (s ++ rest).dropWhile p = rest.dropWhile p := List.dropWhile_append_of_pos h

theorem skipBlanks_cons {c : Char} (h : blank c = false) (s : List Char) : skipBlanks (c :: s) = c :: s :=
  List.dropWhile_cons_of_neg (by rw [h]; exact Bool.false_ne_true)

/-- a text behind a blank -/
theorem skipBlanks_behind {s : List Char} (h : s.head?.any blank = false) : skipBlanks (' ' :: s) = s := by
  rw [skipBlanks, List.dropWhile_cons_of_pos (by decide)]
  cases s with
  | nil => rfl
  | cons c s => exact skipBlanks_cons h s

theorem expect_cons {c d : Char} (h : blank d = false) (s : List Char) :
    expect c (d :: s) = if d = c then some s else none := by
  rw [expect, skipBlanks_cons h]

theorem spanName_append {ok : Char → Bool} {name : List Char} (h : IsName ok name) {rest : List Char}
    (hrest : rest.head?.any ok = false) : spanName ok (name ++ rest) = some (name, rest) := by
  have htake : rest.takeWhile ok = [] := by
    cases rest with
    | nil => rfl
    | cons c rest => exact List.takeWhile_cons_of_neg (by simpa using hrest)
  have hdrop : rest.dropWhile ok = rest := by
    cases rest with
    | nil => rfl
    | cons c rest => exact List.dropWhile_cons_of_neg (by simpa using hrest)
  have hhead : (name ++ rest).head?.any (fun c => ok c && !c.isDigit) = true := by
    cases name with
    | nil => exact absurd h.head Bool.false_ne_true
    | cons c name => exact h.head
  rw [spanName, if_pos hhead, takeWhile_all h.chars, dropWhile_all h.chars, htake, hdrop, List.append_nil]

theorem label_not_blank {c : Char} (h : labelChar c = true) : blank c = false := by
  rw [Bool.eq_false_iff]
  intro hblank
  rcases of_decide_eq_true hblank with rfl | rfl <;> exact absurd h (by decide)

theorem metric_not_blank {c : Char} (h : metricChar c = true) : blank c = false := by
  rw [Bool.eq_false_iff]
  intro hblank
  rcases of_decide_eq_true hblank with rfl | rfl <;> exact absurd h (by decide)

/-- a name has no blanks in front -/
theorem IsName.skipBlanks {ok : Char → Bool} (hok : ∀ c, ok c = true → blank c = false) {name : List Char}
    (h : IsName ok name) (rest : List Char) : skipBlanks (name ++ rest) = name ++ rest := by
  cases name with
  | nil => exact absurd h.head Bool.false_ne_true
  | cons c name => exact skipBlanks_cons (hok c (h.chars c List.mem_cons_self)) _

/-! ## Reading labels -/

theorem readValue_plain {v : List Char} (hquote : '"' ∉ v) (hback : '\\' ∉ v) (rest : List Char) :
    readValue (v ++ '"' :: rest) = some (v, rest) := by
  induction v with
  | nil => rfl
  | cons c v ih =>
    rw [List.mem_cons, not_or] at hquote hback
    rw [List.cons_append, readValue, ih hquote.2 hback.2]
    · rfl
    · exact fun h => hquote.1 h.symm
    · exact fun h => absurd h.symm hback.1
    · exact fun e s h => absurd h.symm hback.1

theorem readLabel_text {l : List Char × List Char} (hname : IsName labelChar l.1) (hvalue : Plain l.2)
    (rest : List Char) : readLabel (labelText l ++ rest) = some (l, rest) := by
  have hsplit : labelText l ++ rest = l.1 ++ '=' :: '"' :: (l.2 ++ '"' :: rest) := by
    simp [labelText]
  rw [hsplit, readLabel, spanName_append hname (by rfl), Option.bind_some]
  dsimp only
  rw [expect_cons (by decide), if_pos rfl, Option.bind_some, expect_cons (by decide), if_pos rfl, Option.bind_some,
    readValue_plain hvalue.quote hvalue.backslash, Option.bind_some]
  dsimp only
  rw [if_pos hvalue.utf8]

/-- no label begins with the closing brace -/
theorem expect_label {l : List Char × List Char} (hname : IsName labelChar l.1) (rest : List Char) :
    expect '\x7d' (labelText l ++ rest) = none := by
  obtain ⟨name, value⟩ := l
  cases name with
  | nil => exact absurd hname.head Bool.false_ne_true
  | cons c name =>
    have hc := hname.chars c List.mem_cons_self
    rw [labelText, List.cons_append, List.cons_append, expect_cons (label_not_blank hc), if_neg]
    rintro rfl
    exact absurd hc (by decide)

theorem readLabels_text {ls : Labels} (h : Labelled ls) {fuel : ℕ} (hfuel : ls.length < fuel) (rest : List Char) :
    readLabels fuel (labelsText ls ++ rest) = some (ls, rest) := by
  induction ls generalizing fuel with
  | nil =>
    obtain ⟨fuel, rfl⟩ := Nat.exists_eq_add_of_lt hfuel
    rfl
  | cons l ls ih =>
    obtain ⟨fuel, rfl⟩ := Nat.exists_eq_add_one_of_ne_zero (Nat.ne_of_gt (Nat.zero_lt_of_lt hfuel))
    have hname := h.name l List.mem_cons_self
    have hread := readLabel_text hname (h.plain l List.mem_cons_self)
    have hblanks : ∀ t, skipBlanks (labelText l ++ t) = labelText l ++ t := by
      intro t
      rw [labelText, List.append_assoc]
      exact hname.skipBlanks (fun _ => label_not_blank) _
    cases ls with
    | nil =>
      rw [labelsText, List.append_assoc, readLabels, expect_label hname]
      dsimp only
      rw [hblanks, hread, Option.bind_some]
      rfl
    | cons m ls =>
      have hrest := ih ⟨fun k hk => h.name k (List.mem_cons_of_mem _ hk), fun k hk => h.plain k (List.mem_cons_of_mem _ hk)⟩
        (Nat.lt_of_succ_lt_succ hfuel)
      rw [labelsText, List.append_assoc, readLabels, expect_label hname]
      · dsimp only
        rw [hblanks, hread, Option.bind_some]
        dsimp only
        rw [List.cons_append, expect_cons (by decide), if_pos rfl]
        dsimp only
        rw [hrest]
        rfl
      · exact fun h => nomatch h

/-! ## Reading samples -/

theorem labels_length (ls : Labels) : ls.length < (labelsText ls).length := by
  induction ls with
  | nil => exact Nat.one_pos
  | cons l ls ih =>
    cases ls with
    | nil =>
      simp only [labelsText, labelText, List.length_append, List.length_cons, List.length_nil]
      omega
    | cons m ls =>
      have hstep : labelsText (l :: m :: ls) = labelText l ++ ',' :: labelsText (m :: ls) := rfl
      rw [hstep, List.length_append]
      simp only [List.length_cons] at ih ⊢
      omega

theorem isDigits_of {s : List Char} (h : Digits s) (hne : s ≠ []) : isDigits s = true := by
  rw [isDigits, Bool.and_eq_true, List.all_eq_true]
  exact ⟨by simpa using hne, h⟩

theorem isExponent_of {s : List Char} (h : IsExponent s) : isExponent s = true := by
  cases h with
  | none => rfl
  | some hmark hd hne =>
    have hskip := isDigits_of hd hne
    rcases hmark with rfl | rfl <;> simpa [isExponent, skipSign] using hskip

/-- what follows the digits of a numeral is no digit -/
theorem exponent_head {s : List Char} (h : IsExponent s) : s.takeWhile Char.isDigit = [] := by
  cases h with
  | none => rfl
  | some => rfl

theorem dropWhile_of_takeWhile {p : Char → Bool} {s : List Char} (h : s.takeWhile p = []) : s.dropWhile p = s := by
  have hsplit := s.takeWhile_append_dropWhile (p := p)
  rwa [h, List.nil_append] at hsplit

theorem isNumeral_of {n : ℕ} {fraction exponent : List Char} (hf : IsFraction fraction) (he : IsExponent exponent) :
    isNumeral (natText n ++ (fraction ++ exponent)) = true := by
  have hdigits := natText_digits n
  have hexponent := isExponent_of he
  have htake := exponent_head he
  have hdrop := dropWhile_of_takeWhile htake
  unfold isNumeral
  rw [takeWhile_all hdigits, dropWhile_all hdigits]
  cases hf with
  | none =>
    rw [List.nil_append, htake, hdrop, List.append_nil]
    cases he with
    | none => simp [natText_ne_nil, isExponent]
    | some hmark hd hne' => simp [natText_ne_nil, hexponent]
  | some hd =>
    rw [List.cons_append, List.takeWhile_cons_of_neg (by decide), List.dropWhile_cons_of_neg (by decide)]
    simp only [takeWhile_all hd, dropWhile_all hd, htake, hdrop, hexponent]
    simp [natText_ne_nil]

theorem isFloat_numeral {s : List Char} (h : Numeral s) : isFloat s = true := by
  obtain ⟨negative, n, hf, he⟩ := h
  have hnumeral := isNumeral_of (n := n) hf he
  have hskip : ∀ t, skipSign (signText negative ++ (natText n ++ t)) = natText n ++ t := by
    intro t
    unfold signText
    split_ifs
    · rfl
    · obtain ⟨c, s, hcs⟩ := List.exists_cons_of_ne_nil (natText_ne_nil n)
      have hc : c.isDigit = true := natText_digit (n := n) (hcs ▸ List.mem_cons_self)
      rw [hcs, List.nil_append, List.cons_append]
      unfold skipSign
      split
      · rename_i heq
        cases heq
        exact absurd hc (by decide)
      · rename_i heq
        cases heq
        exact absurd hc (by decide)
      · rfl
  rw [isFloat, hskip, hnumeral, Bool.true_or, Bool.true_or]

/-- a value with one of the blanks in it is no number -/
structure IsValue (v : List Char) : Prop where
  float : isFloat v = true
  blank : ∀ c ∈ v, blank c = false

theorem numeral_value {s : List Char} (h : Numeral s) : IsValue s := by
  refine ⟨isFloat_numeral h, ?_⟩
  intro c hc
  rw [Bool.eq_false_iff]
  intro hblank
  rcases h.char hc with hdigit | hmark
  · rcases of_decide_eq_true hblank with rfl | rfl <;> exact absurd hdigit (by decide)
  · rcases of_decide_eq_true hblank with rfl | rfl <;> exact absurd hmark (by decide)

theorem spanToken_all {s : List Char} (h : ∀ c ∈ s, blank c = false) : spanToken s = (s, []) := by
  have hall : ∀ c ∈ s, (fun c => !blank c) c = true := fun c hc => by simp [h c hc]
  rw [spanToken, ← List.append_nil s, takeWhile_all hall, dropWhile_all hall]
  simp [skipBlanks]

theorem readNumbers_value (name : List Char) (labels : Labels) {v : List Char} (hv : IsValue v) :
    readNumbers name labels (' ' :: v) = some (.sample name labels v []) := by
  have hskip : skipBlanks (' ' :: v) = v := by
    refine skipBlanks_behind ?_
    cases v with
    | nil => rfl
    | cons c v => exact hv.blank c List.mem_cons_self
  have hempty : spanToken [] = ([], []) := rfl
  rw [readNumbers, hskip, spanToken_all hv.blank]
  dsimp only
  rw [hempty]
  dsimp only
  rw [if_pos ⟨hv.float, Or.inl rfl, rfl⟩]

theorem readSample_text {name : List Char} (hname : IsName metricChar name) {p : Point} (hlabels : Labelled p.labels)
    (hvalue : IsValue p.value) : readSample (pointText name p) = some (.sample name p.labels p.value []) := by
  have hfuel : p.labels.length < (labelsText p.labels ++ ' ' :: p.value).length + 1 := by
    have := labels_length p.labels
    rw [List.length_append]
    omega
  rw [readSample, pointText, spanName_append hname (by rfl), Option.bind_some]
  dsimp only
  rw [expect_cons (by decide), if_pos rfl]
  dsimp only
  rw [readLabels_text hlabels hfuel, Option.bind_some]
  exact readNumbers_value name p.labels hvalue

/-! ## Reading comments -/

theorem spanToken_word {word : List Char} (h : ∀ c ∈ word, blank c = false) (rest : List Char) :
    spanToken (word ++ ' ' :: rest) = (word, skipBlanks rest) := by
  have hall : ∀ c ∈ word, (fun c => !blank c) c = true := fun c hc => by simp [h c hc]
  rw [spanToken, takeWhile_all hall, dropWhile_all hall, List.takeWhile_cons_of_neg (by decide),
    List.dropWhile_cons_of_neg (by decide), List.append_nil]
  rw [skipBlanks, List.dropWhile_cons_of_pos (by decide)]
  rfl

theorem readLine_comment (s : List Char) : readLine ('#' :: ' ' :: s) = readComment (' ' :: s) := by
  rw [readLine, skipBlanks_cons (by decide)]
  rfl

/-- a family, its samples as points -/
structure Group where
  name : List Char
  help : List Char
  type : List Char
  points : List Point

def Group.family (g : Group) : Family := ⟨g.name, g.help, g.type, g.points.map (pointText g.name)⟩

def Group.entries (g : Group) : List Entry :=
  .help g.name g.help :: .type g.name g.type :: g.points.map fun p => .sample g.name p.labels p.value []

/-- a family whose header and values keep to the format -/
structure Group.Good (g : Group) : Prop where
  name : IsName metricChar g.name
  help : '\\' ∉ g.help ∧ g.help.head?.any blank = false
  type : g.type ∈ types
  labels : ∀ p ∈ g.points, ∀ l ∈ p.labels, IsName labelChar l.1
  value : ∀ p ∈ g.points, IsValue p.value

theorem helpEscaped_plain {s : List Char} (h : '\\' ∉ s) : helpEscaped s = true := by
  induction s with
  | nil => rfl
  | cons c s ih =>
    rw [List.mem_cons, not_or] at h
    rw [helpEscaped, ih h.2]
    · exact fun heq => absurd heq.symm h.1
    · exact fun e t heq => absurd heq.symm h.1

theorem readLine_help {g : Group} (hg : g.Good) : readLine g.family.helpLine = some (.help g.name g.help) := by
  have hsplit : g.family.helpLine = '#' :: ' ' :: (['H', 'E', 'L', 'P'] ++ ' ' :: (g.name ++ ' ' :: g.help)) := by
    simp [Family.helpLine, helpFront, Group.family]
  have hskip : skipBlanks (' ' :: (['H', 'E', 'L', 'P'] ++ ' ' :: (g.name ++ ' ' :: g.help))) =
      ['H', 'E', 'L', 'P'] ++ ' ' :: (g.name ++ ' ' :: g.help) := rfl
  have hhelp := skipBlanks_behind hg.help.2
  rw [hsplit, readLine_comment, readComment, hskip, spanToken_word (by simp [blank]),
    hg.name.skipBlanks fun _ => metric_not_blank]
  dsimp only
  rw [if_pos rfl, spanName_append hg.name (by rfl), Option.bind_some]
  dsimp only
  rw [hhelp, if_pos ⟨rfl, helpEscaped_plain hg.help.1⟩]

theorem types_head : ∀ t ∈ types, t.head?.any blank = false := by decide

theorem readLine_type {g : Group} (hg : g.Good) : readLine g.family.typeLine = some (.type g.name g.type) := by
  have hsplit : g.family.typeLine = '#' :: ' ' :: (['T', 'Y', 'P', 'E'] ++ ' ' :: (g.name ++ ' ' :: g.type)) := by
    simp [Family.typeLine, typeFront, Group.family]
  have hskip : skipBlanks (' ' :: (['T', 'Y', 'P', 'E'] ++ ' ' :: (g.name ++ ' ' :: g.type))) =
      ['T', 'Y', 'P', 'E'] ++ ' ' :: (g.name ++ ' ' :: g.type) := rfl
  have htype := skipBlanks_behind (types_head g.type hg.type)
  rw [hsplit, readLine_comment, readComment, hskip, spanToken_word (by simp [blank]),
    hg.name.skipBlanks fun _ => metric_not_blank]
  dsimp only
  rw [if_neg (by decide), if_pos rfl, spanName_append hg.name (by rfl), Option.bind_some]
  dsimp only
  rw [htype, if_pos hg.type]

theorem readLine_name {name : List Char} (hname : IsName metricChar name) (rest : List Char) :
    readLine (name ++ rest) = readSample (name ++ rest) := by
  rw [readLine, hname.skipBlanks fun _ => metric_not_blank]
  cases name with
  | nil => exact absurd hname.head Bool.false_ne_true
  | cons c name =>
    have hc := hname.chars c List.mem_cons_self
    rw [List.cons_append]
    dsimp only
    rw [if_neg]
    rintro rfl
    exact absurd hc (by decide)

theorem readLine_point {name : List Char} (hname : IsName metricChar name) {p : Point} (hlabels : Labelled p.labels)
    (hvalue : IsValue p.value) : readLine (pointText name p) = some (.sample name p.labels p.value []) := by
  rw [← readSample_text hname hlabels hvalue, pointText, readLine_name hname]

/-! ## Reading pages -/

theorem mapM_map_some {α β γ : Type} {f : β → Option γ} {g : α → β} {h : α → γ} {l : List α}
    (hl : ∀ a ∈ l, f (g a) = some (h a)) : (l.map g).mapM f = some (l.map h) := by
  induction l with
  | nil => rfl
  | cons a l ih =>
    rw [List.map_cons, List.mapM_cons, hl a List.mem_cons_self, ih fun b hb => hl b (List.mem_cons_of_mem _ hb)]
    rfl

theorem mapM_flatMap_some {α β γ : Type} {f : β → Option γ} {g : α → List β} {h : α → List γ} {l : List α}
    (hl : ∀ a ∈ l, (g a).mapM f = some (h a)) : (l.flatMap g).mapM f = some (l.flatMap h) := by
  induction l with
  | nil => rfl
  | cons a l ih =>
    rw [List.flatMap_cons, List.flatMap_cons, List.mapM_append, hl a List.mem_cons_self,
      ih fun b hb => hl b (List.mem_cons_of_mem _ hb)]
    rfl

/-- no label of the family needs an escape -/
def Group.Plain (g : Group) : Prop := ∀ p ∈ g.points, ∀ l ∈ p.labels, TextFormat.Plain l.2

theorem group_lines {g : Group} (hg : g.Good) (hplain : g.Plain) :
    g.family.lines.mapM readLine = some g.entries := by
  have hpoints : (g.points.map (pointText g.name)).mapM readLine =
      some (g.points.map fun p => Entry.sample g.name p.labels p.value []) :=
    mapM_map_some fun p hp => readLine_point hg.name ⟨hg.labels p hp, hplain p hp⟩ (hg.value p hp)
  have hlines : g.family.lines = g.family.helpLine :: g.family.typeLine :: g.points.map (pointText g.name) := rfl
  rw [hlines, List.mapM_cons, List.mapM_cons, readLine_help hg, readLine_type hg, hpoints]
  rfl

def Entry.name : Entry → List Char
  | .help name _ => name
  | .type name _ => name
  | .sample name _ _ _ => name
  | .other => []

theorem compatible_of_ne {a b : Entry} (h : a.name ≠ b.name) : compatible a b = true := by
  cases a <;> cases b <;> simp_all [compatible, Entry.name]

theorem entries_name {g : Group} {e : Entry} (he : e ∈ g.entries) : e.name = g.name := by
  rcases List.mem_cons.1 he with rfl | hrest
  · rfl
  · rcases List.mem_cons.1 hrest with rfl | hpoint
    · rfl
    · obtain ⟨p, -, rfl⟩ := List.mem_map.1 hpoint
      rfl

theorem entries_compatible (g : Group) : g.entries.Pairwise (compatible · ·) := by
  refine List.pairwise_cons.2 ⟨?_, List.pairwise_cons.2 ⟨?_, ?_⟩⟩
  · intro e he
    rcases List.mem_cons.1 he with rfl | hpoint
    · rfl
    · obtain ⟨p, -, rfl⟩ := List.mem_map.1 hpoint
      rfl
  · intro e he
    obtain ⟨p, -, rfl⟩ := List.mem_map.1 he
    rfl
  · rw [List.pairwise_map]
    exact List.pairwise_of_forall fun _ _ => rfl

section Groups

variable {gs : List Group} (hnames : (gs.map Group.name).Nodup)
include hnames

theorem groups_compatible : (gs.flatMap Group.entries).Pairwise (compatible · ·) := by
  rw [List.pairwise_flatMap]
  refine ⟨fun g _ => entries_compatible g, ?_⟩
  rw [List.Nodup, List.pairwise_map] at hnames
  refine hnames.imp ?_
  intro g h hne a ha b hb
  refine compatible_of_ne ?_
  rwa [entries_name ha, entries_name hb]

/-- the samples of one family -/
theorem samplesOf_groups {g : Group} (hg : g ∈ gs) :
    samplesOf g.name (gs.flatMap Group.entries) = g.points.map fun p => (p.labels, p.value) := by
  have hself : samplesOf g.name g.entries = g.points.map fun p => (p.labels, p.value) := by
    have hentries : g.entries = .help g.name g.help :: .type g.name g.type ::
      g.points.map fun p => .sample g.name p.labels p.value [] := rfl
    rw [hentries, samplesOf, List.filterMap_cons, List.filterMap_cons, List.filterMap_map]
    dsimp only
    rw [← List.filterMap_eq_map]
    refine List.filterMap_congr fun p _ => ?_
    exact if_pos rfl
  rw [← hself, samplesOf, List.filterMap_flatMap]
  refine flatMap_single (List.Nodup.of_map _ hnames) hg ?_
  intro h hh hne
  rw [List.filterMap_eq_nil_iff]
  intro e he
  have hname := entries_name he
  cases e with
  | sample n labels value timestamp =>
    refine if_neg ?_
    rintro rfl
    exact hne (List.inj_on_of_nodup_map hnames hh hg hname.symm)
  | _ => rfl

/-- the labels of one family -/
theorem labelsOf_groups {g : Group} (hg : g ∈ gs) :
    labelsOf g.name (gs.flatMap Group.entries) = g.points.map Point.labels := by
  rw [labelsOf_eq, samplesOf_groups hnames hg, List.map_map]
  rfl

end Groups

theorem parse_of_lines {s : List Char} (hend : s.getLast?.all (· = '\n') = true) {es : List Entry}
    (hes : (lines s).mapM readLine = some es) (hcompatible : es.Pairwise (compatible · ·)) : parse s = some es := by
  rw [parse, if_pos hend, hes, Option.bind_some, if_pos hcompatible]

/-- what a text that is read is made of -/
theorem lines_of_parse {s : List Char} {es : List Entry} (h : parse s = some es) :
    s.getLast?.all (· = '\n') = true ∧ (lines s).mapM readLine = some es := by
  unfold parse at h
  split_ifs at h with hend
  obtain ⟨es', hread, hsome⟩ := Option.bind_eq_some_iff.1 h
  split_ifs at hsome
  cases hsome
  exact ⟨hend, hread⟩

/-- the page of the families -/
def groupsText (gs : List Group) : List Char := page (gs.flatMap fun g => g.family.lines)

theorem groups_newline {gs : List Group} (hlines : ∀ g ∈ gs, ∀ line ∈ g.family.lines, '\n' ∉ line) :
    ∀ line ∈ gs.flatMap fun g => g.family.lines, '\n' ∉ line := by
  intro line hline
  obtain ⟨g, hg, hmem⟩ := List.mem_flatMap.1 hline
  exact hlines g hg line hmem

/-- **A page of families reads as their entries.** -/
theorem parse_groups {gs : List Group} (hgood : ∀ g ∈ gs, g.Good) (hplain : ∀ g ∈ gs, g.Plain)
    (hnames : (gs.map Group.name).Nodup) (hlines : ∀ g ∈ gs, ∀ line ∈ g.family.lines, '\n' ∉ line) :
    parse (groupsText gs) = some (gs.flatMap Group.entries) := by
  have hall := groups_newline hlines
  refine parse_of_lines ?_ ?_ (groups_compatible hnames)
  · rcases eq_or_ne (gs.flatMap fun g => g.family.lines) [] with hnil | hne
    · rw [groupsText, hnil]
      rfl
    · rw [groupsText, page_getLast hne]
      rfl
  · rw [groupsText, lines_page hall]
    exact mapM_flatMap_some fun g hg => group_lines (hgood g hg) (hplain g hg)

theorem mapM_take_some {β γ : Type} {f : β → Option γ} {l : List β} {r : List γ} (h : l.mapM f = some r) (k : ℕ) :
    (l.take k).mapM f = some (r.take k) := by
  induction l generalizing r k with
  | nil =>
    rw [List.mapM_nil] at h
    cases h
    rw [List.take_nil, List.take_nil]
    rfl
  | cons b l ih =>
    rw [List.mapM_cons] at h
    obtain ⟨c, hc, h⟩ := Option.bind_eq_some_iff.1 h
    obtain ⟨r', hr, h⟩ := Option.bind_eq_some_iff.1 h
    cases h
    cases k with
    | zero => rfl
    | succ k =>
      rw [List.take_succ_cons, List.take_succ_cons, List.mapM_cons, hc, ih hr]
      rfl

theorem mapM_length_some {β γ : Type} {f : β → Option γ} {l : List β} {r : List γ} (h : l.mapM f = some r) :
    l.length = r.length := by
  induction l generalizing r with
  | nil =>
    rw [List.mapM_nil] at h
    cases h
    rfl
  | cons b l ih =>
    rw [List.mapM_cons] at h
    obtain ⟨c, -, h⟩ := Option.bind_eq_some_iff.1 h
    obtain ⟨r', hr, h⟩ := Option.bind_eq_some_iff.1 h
    cases h
    rw [List.length_cons, List.length_cons, ih hr]

/-- what is cut from a page and read has lost its last entries -/
theorem parse_cut {gs : List Group} (hgood : ∀ g ∈ gs, g.Good) (hplain : ∀ g ∈ gs, g.Plain)
    (hlines : ∀ g ∈ gs, ∀ line ∈ g.family.lines, '\n' ∉ line) {m : ℕ} (hpos : 0 < m)
    (hm : m < (groupsText gs).length) {es : List Entry} (h : parse ((groupsText gs).take m) = some es) :
    ∃ k < (gs.flatMap Group.entries).length, es = (gs.flatMap Group.entries).take k := by
  have hall := groups_newline hlines
  have hread : (gs.flatMap fun g => g.family.lines).mapM readLine = some (gs.flatMap Group.entries) :=
    mapM_flatMap_some fun g hg => group_lines (hgood g hg) (hplain g hg)
  obtain ⟨hend, hes⟩ := lines_of_parse h
  have hne : (groupsText gs).take m ≠ [] := by
    rw [Ne, List.take_eq_nil_iff, not_or]
    exact ⟨hpos.ne', List.ne_nil_of_length_pos (by omega)⟩
  have hlast : ((groupsText gs).take m).getLast? = some '\n' := by
    rw [List.getLast?_eq_some_getLast hne] at hend ⊢
    exact congrArg some (of_decide_eq_true hend)
  obtain ⟨k, hk, hcut⟩ := take_page hall hm hlast
  refine ⟨k, mapM_length_some hread ▸ hk, ?_⟩
  rw [groupsText, hcut, lines_page fun line hline => hall line (List.mem_of_mem_take hline), mapM_take_some hread k] at hes
  exact (Option.some.inj hes).symm

theorem labelsOf_append (name : List Char) (es es' : List Entry) :
    labelsOf name (es ++ es') = labelsOf name es ++ labelsOf name es' := List.filterMap_append

/-- a text that begins with a page of families: the text behind it, and its entries -/
theorem parse_behind {gs : List Group} (hgood : ∀ g ∈ gs, g.Good) (hplain : ∀ g ∈ gs, g.Plain)
    (hlines : ∀ g ∈ gs, ∀ line ∈ g.family.lines, '\n' ∉ line) {t : List Char} {es : List Entry}
    (h : parse (groupsText gs ++ t) = some es) : t.getLast?.all (· = '\n') = true ∧
      ∃ es', (lines t).mapM readLine = some es' ∧ es = gs.flatMap Group.entries ++ es' := by
  have hfront : (gs.flatMap fun g => g.family.lines).mapM readLine = some (gs.flatMap Group.entries) :=
    mapM_flatMap_some fun g hg => group_lines (hgood g hg) (hplain g hg)
  obtain ⟨hend, hes⟩ := lines_of_parse h
  refine ⟨?_, ?_⟩
  · cases t with
    | nil => rfl
    | cons c t => rwa [List.getLast?_append_of_ne_nil _ (List.cons_ne_nil _ _)] at hend
  · rw [groupsText, lines_page_append (groups_newline hlines), List.mapM_append, hfront] at hes
    obtain ⟨front, hsome, hes⟩ := Option.bind_eq_some_iff.1 hes
    obtain ⟨es', hrest, hes⟩ := Option.bind_eq_some_iff.1 hes
    cases hsome
    cases hes
    exact ⟨es', hrest, rfl⟩

/-- without its last entry, a sample, a list has fewer samples of that name -/
theorem labelsOf_take {es : List Entry} {n v t : List Char} {ls : Labels} (hlast : es.getLast? = some (.sample n ls v t))
    {k : ℕ} (hk : k < es.length) : labelsOf n (es.take k) ≠ labelsOf n es := by
  intro heq
  have hsplit := congrArg (labelsOf n) (List.take_append_drop k es)
  rw [labelsOf_append, heq] at hsplit
  have hnone := List.append_right_eq_self.1 hsplit
  have hmem : Entry.sample n ls v t ∈ es.drop k := by
    refine List.mem_of_getLast? ?_
    rw [List.getLast?_drop, if_neg (by omega), hlast]
  have hread := List.filterMap_eq_nil_iff.1 hnone _ hmem
  dsimp only at hread
  rw [if_pos rfl] at hread
  cases hread

/-! ## What was written -/

/-- how a value is read: the quote, a character that stands for itself, an escape -/
inductive ReadsValue : List Char → List Char → List Char → Prop
  | quote (r : List Char) : ReadsValue ('"' :: r) [] r
  | plain {x v r : List Char} {c : Char} (hquote : c ≠ '"') (hback : c ≠ '\\') (h : readValue x = some (v, r)) :
      ReadsValue (c :: x) (c :: v) r
  | escape {x v r : List Char} {e d : Char} (hd : d = '\\' → e = '\\') (h : readValue x = some (v, r)) :
      ReadsValue ('\\' :: e :: x) (d :: v) r

theorem readValue_reads {x v r : List Char} (h : readValue x = some (v, r)) : ReadsValue x v r := by
  unfold readValue at h
  split at h
  · cases h
  · cases h
    exact .quote r
  · cases h
  · rename_i e s
    split_ifs at h with hn hmark
    · obtain ⟨p, hp, heq⟩ := Option.map_eq_some_iff.1 h
      cases heq
      exact .escape (fun h => absurd h (by decide)) hp
    · obtain ⟨p, hp, heq⟩ := Option.map_eq_some_iff.1 h
      cases heq
      exact .escape (fun h => h) hp
  · rename_i c s hquote hend hback
    obtain ⟨p, hp, heq⟩ := Option.map_eq_some_iff.1 h
    cases heq
    refine .plain hquote ?_ hp
    rintro rfl
    cases s with
    | nil => exact hend rfl rfl
    | cons e s => exact hback e s rfl rfl

/-- What is read stands at least one backslash before what is written: each one read took two, so that the text read
runs on for ever. The induction is on the text written. -/
theorem readValue_shift {u x r tail : List Char} {k : ℕ} (hx : x <+: u ++ '"' :: tail)
    (h : readValue x = some (List.replicate (k + 1) '\\' ++ u, r)) : False := by
  induction hn : u.length using Nat.strong_induction_on generalizing u x k with
  | _ n ih =>
    rw [List.replicate_succ, List.cons_append] at h
    generalize hv : '\\' :: (List.replicate k '\\' ++ u) = v at h
    cases readValue_reads h with
    | quote r => cases hv
    | plain hquote hback => exact hback (List.cons.inj hv).1.symm
    | escape hd hread =>
      obtain ⟨rfl, rfl⟩ := List.cons.inj hv
      obtain rfl := hd rfl
      -- the two backslashes stand in the text written
      rcases u with _ | ⟨a, _ | ⟨b, u⟩⟩
      · exact absurd (List.cons_prefix_cons.1 hx).1 (by decide)
      · exact absurd (List.cons_prefix_cons.1 (List.cons_prefix_cons.1 hx).2).1 (by decide)
      · obtain ⟨rfl, hsecond⟩ := List.cons_prefix_cons.1 hx
        obtain ⟨rfl, hrest⟩ := List.cons_prefix_cons.1 hsecond
        have hmore : List.replicate k '\\' ++ '\\' :: '\\' :: u = List.replicate (k + 1 + 1) '\\' ++ u := by
          rw [List.replicate_add, List.replicate_add, List.append_assoc, List.append_assoc]
          rfl
        rw [hmore] at hread
        exact ih u.length (by rw [← hn]; simp) hrest hread rfl

/-- a text that reads as itself up to a quote has no character to escape -/
theorem readValue_own {s x r tail : List Char} (hx : x <+: s ++ '"' :: tail) (hline : '\n' ∉ x)
    (h : readValue x = some (s, r)) : ('"' ∉ s ∧ '\\' ∉ s ∧ '\n' ∉ s) ∧ x = s ++ '"' :: r ∧ r <+: tail := by
  induction s generalizing x with
  | nil =>
    cases readValue_reads h with
    | quote => exact ⟨by simp, rfl, (List.cons_prefix_cons.1 hx).2⟩
  | cons c s ih =>
    cases readValue_reads h with
    | plain hquote hback hread =>
      rw [List.mem_cons, not_or] at hline
      obtain ⟨⟨h1, h2, h3⟩, rfl, hr⟩ := ih (List.cons_prefix_cons.1 hx).2 hline.2 hread
      simp only [List.mem_cons, not_or]
      exact ⟨⟨⟨Ne.symm hquote, h1⟩, ⟨Ne.symm hback, h2⟩, ⟨hline.1, h3⟩⟩, rfl, hr⟩
    | escape hd hread =>
      obtain ⟨rfl, hsecond⟩ := List.cons_prefix_cons.1 hx
      obtain rfl := hd rfl
      exfalso
      cases s with
      | nil => exact absurd (List.cons_prefix_cons.1 hsecond).1 (by decide)
      | cons d s =>
        obtain ⟨rfl, hrest⟩ := List.cons_prefix_cons.1 hsecond
        exact readValue_shift (k := 0) hrest hread

/-- so has a mark -/
theorem expect_own {c d : Char} (hc : blank c = false) {x r tail : List Char} (hx : x <+: c :: tail)
    (h : expect d x = some r) : c = d ∧ x = c :: r ∧ r <+: tail := by
  cases x with
  | nil => cases h
  | cons b x =>
    obtain ⟨rfl, hrest⟩ := List.cons_prefix_cons.1 hx
    rw [expect_cons hc] at h
    split_ifs at h with heq
    cases h
    exact ⟨heq, rfl, hrest⟩

theorem spanName_split {ok : Char → Bool} {x name r : List Char} (h : spanName ok x = some (name, r)) :
    x = name ++ r := by
  unfold spanName at h
  split_ifs at h
  cases h
  exact List.takeWhile_append_dropWhile.symm

theorem readLabel_own {l : List Char × List Char} {x r tail : List Char} (hx : x <+: labelText l ++ tail)
    (hline : '\n' ∉ x) (h : readLabel x = some (l, r)) : Plain l.2 ∧ x = labelText l ++ r ∧ r <+: tail := by
  obtain ⟨⟨name, r1⟩, hname, h⟩ := Option.bind_eq_some_iff.1 h
  obtain ⟨r2, hequals, h⟩ := Option.bind_eq_some_iff.1 h
  obtain ⟨r3, hquote, h⟩ := Option.bind_eq_some_iff.1 h
  obtain ⟨⟨value, r4⟩, hvalue, h⟩ := Option.bind_eq_some_iff.1 h
  dsimp only at hequals hquote hvalue h
  split_ifs at h with hutf8
  cases h
  obtain rfl := spanName_split hname
  have htext : labelText (name, value) ++ tail = name ++ '=' :: '"' :: (value ++ '"' :: tail) := by
    simp [labelText]
  rw [htext, List.prefix_append_right_inj] at hx
  obtain ⟨-, rfl, hx1⟩ := expect_own (by decide) hx hequals
  obtain ⟨-, rfl, hx2⟩ := expect_own (by decide) hx1 hquote
  have hrest : '\n' ∉ r3 := fun hmem => hline (by simp [hmem])
  obtain ⟨⟨h1, h2, h3⟩, rfl, hr⟩ := readValue_own hx2 hrest hvalue
  exact ⟨⟨h1, h2, h3, hutf8⟩, by simp [labelText], hr⟩

theorem skipBlanks_label {l : List Char × List Char} (hname : IsName labelChar l.1) {x tail : List Char}
    (hx : x <+: labelText l ++ tail) : skipBlanks x = x := by
  obtain ⟨name, value⟩ := l
  cases name with
  | nil => exact absurd hname.head Bool.false_ne_true
  | cons c name =>
    cases x with
    | nil => rfl
    | cons b x =>
      obtain ⟨rfl, -⟩ := List.cons_prefix_cons.1 hx
      exact skipBlanks_cons (label_not_blank (hname.chars b List.mem_cons_self)) x

theorem readLabels_own {ls : Labels} (hnames : ∀ l ∈ ls, IsName labelChar l.1) {fuel : ℕ} {x r tail : List Char}
    (hx : x <+: labelsText ls ++ tail) (hline : '\n' ∉ x) (h : readLabels fuel x = some (ls, r)) :
    (∀ l ∈ ls, Plain l.2) ∧ x = labelsText ls ++ r ∧ r <+: tail := by
  induction ls generalizing fuel x with
  | nil =>
    cases fuel with
    | zero => cases h
    | succ fuel =>
      rw [readLabels] at h
      split at h
      · rename_i rest hend
        cases h
        obtain ⟨-, rfl, hr⟩ := expect_own (by decide) hx hend
        exact ⟨fun l hl => absurd hl List.not_mem_nil, rfl, hr⟩
      · obtain ⟨⟨l, r1⟩, -, h⟩ := Option.bind_eq_some_iff.1 h
        dsimp only at h
        split at h
        · obtain ⟨p, -, heq⟩ := Option.map_eq_some_iff.1 h
          cases heq
        · obtain ⟨p, -, heq⟩ := Option.map_eq_some_iff.1 h
          cases heq
  | cons l ls ih =>
    have hfront : ∃ t, labelsText (l :: ls) ++ tail = labelText l ++ t := by
      cases ls with
      | nil => exact ⟨_, List.append_assoc _ _ _⟩
      | cons m ls => exact ⟨_, List.append_assoc _ _ _⟩
    obtain ⟨t, ht⟩ := hfront
    have hblanks := skipBlanks_label (hnames l List.mem_cons_self) (ht ▸ hx)
    cases fuel with
    | zero => cases h
    | succ fuel =>
      rw [readLabels] at h
      split at h
      · cases h
      · rw [hblanks] at h
        obtain ⟨⟨l', r1⟩, hlabel, h⟩ := Option.bind_eq_some_iff.1 h
        dsimp only at h
        split at h
        · rename_i r2 hcomma
          obtain ⟨⟨ls', r'⟩, hrest, heq⟩ := Option.map_eq_some_iff.1 h
          obtain ⟨⟨rfl, rfl⟩, rfl⟩ : (l = l' ∧ ls = ls') ∧ r = r' := by simpa using heq.symm
          obtain ⟨hplain, rfl, hr1⟩ := readLabel_own (ht ▸ hx) hline hlabel
          cases ls with
          | nil =>
            rw [labelsText, List.append_assoc, List.append_cancel_left_eq] at ht
            subst ht
            exact absurd (expect_own (by decide) hr1 hcomma).1 (by decide)
          | cons m ls =>
            have htext : labelsText (l :: m :: ls) = labelText l ++ ',' :: labelsText (m :: ls) := rfl
            rw [htext, List.append_assoc, List.append_cancel_left_eq] at ht
            subst ht
            obtain ⟨-, rfl, hr2⟩ := expect_own (by decide) hr1 hcomma
            have hline' : '\n' ∉ r2 := fun hmem => hline (by simp [hmem])
            obtain ⟨hmore, rfl, hr⟩ := ih (fun k hk => hnames k (List.mem_cons_of_mem _ hk)) hr2 hline' hrest
            refine ⟨List.forall_mem_cons.2 ⟨hplain, hmore⟩, ?_, hr⟩
            rw [htext, List.append_assoc]
            rfl
        · obtain ⟨rest, hend, heq⟩ := Option.map_eq_some_iff.1 h
          cases heq
          obtain ⟨hplain, rfl, hr1⟩ := readLabel_own (ht ▸ hx) hline hlabel
          rw [labelsText, List.append_assoc, List.append_cancel_left_eq] at ht
          subst ht
          obtain ⟨-, rfl, hr⟩ := expect_own (by decide) hr1 hend
          refine ⟨List.forall_mem_cons.2 ⟨hplain, fun k hk => absurd hk List.not_mem_nil⟩, ?_, hr⟩
          rw [labelsText, List.append_assoc]
          rfl

/-- a first line covers what begins the text without a newline -/
theorem line_covers {line a b c : List Char} (hb : '\n' ∉ b) (h : line ++ '\n' :: a = b ++ c) :
    ∃ x, line = b ++ x ∧ x ++ '\n' :: a = c := by
  rcases List.append_eq_append_iff.1 h with ⟨x, rfl, hx⟩ | ⟨x, rfl, hx⟩
  · cases x with
    | nil => exact ⟨[], by simp, hx⟩
    | cons d x =>
      obtain rfl := (List.cons.inj hx).1
      exact absurd (List.mem_append_right line List.mem_cons_self) hb
  · exact ⟨x, rfl, hx.symm⟩

/-- the first sample of the name, and the text behind its line -/
theorem readLine_own {name : List Char} (hname : IsName metricChar name) (hline : '\n' ∉ name) {p : Point}
    (hlabels : ∀ l ∈ p.labels, IsName labelChar l.1) (hvalue : '\n' ∉ p.value) {line t more : List Char}
    (hnewline : '\n' ∉ line) (ht : line ++ '\n' :: t <+: pointText name p ++ '\n' :: more) {e : Entry}
    (he : readLine line = some e) :
    ∃ labels v ts, e = .sample name labels v ts ∧
      (labels = p.labels → (∀ l ∈ p.labels, Plain l.2) ∧ t <+: more) := by
  obtain ⟨u, hu⟩ := ht
  have htext : line ++ '\n' :: (t ++ u) =
      (name ++ ['\x7b']) ++ (labelsText p.labels ++ (' ' :: p.value ++ '\n' :: more)) := by
    rw [pointText] at hu
    simpa using hu
  have hfront : '\n' ∉ name ++ ['\x7b'] := by simp [hline]
  obtain ⟨x, rfl, hx⟩ := line_covers hfront htext
  rw [List.append_assoc, readLine_name hname, readSample, spanName_append hname (by rfl), Option.bind_some] at he
  dsimp only at he
  rw [List.singleton_append, expect_cons (by decide), if_pos rfl] at he
  obtain ⟨⟨labels, r⟩, hread, hnumbers⟩ := Option.bind_eq_some_iff.1 he
  dsimp only at hnumbers
  unfold readNumbers at hnumbers
  dsimp only at hnumbers
  split_ifs at hnumbers
  cases hnumbers
  refine ⟨labels, _, _, rfl, ?_⟩
  rintro rfl
  have hxline : '\n' ∉ x := fun hmem => hnewline (List.mem_append_right _ hmem)
  obtain ⟨hplain, rfl, -⟩ := readLabels_own hlabels ⟨_, hx⟩ hxline hread
  refine ⟨hplain, u, ?_⟩
  rw [List.append_assoc, List.append_cancel_left_eq] at hx
  have hr : '\n' ∉ r := fun hmem => hxline (List.mem_append_right _ hmem)
  have hv : '\n' ∉ ' ' :: p.value := by simp [hvalue]
  exact (mark_inj hr hv hx).2

/-- **What reads as written needed no escape.** The samples of `name` stand at the front of a text, perhaps cut short,
and read as the labels written. -/
theorem plain_of_read {name : List Char} (hname : IsName metricChar name) (hline : '\n' ∉ name) {ps : List Point}
    (hlabels : ∀ p ∈ ps, ∀ l ∈ p.labels, IsName labelChar l.1) (hvalue : ∀ p ∈ ps, '\n' ∉ p.value)
    {t more : List Char} (ht : t <+: page (ps.map (pointText name)) ++ more)
    (hend : t.getLast?.all (· = '\n') = true) {es : List Entry} (hes : (lines t).mapM readLine = some es)
    (hread : labelsOf name es = ps.map Point.labels) : ∀ p ∈ ps, ∀ l ∈ p.labels, Plain l.2 := by
  induction ps generalizing t es with
  | nil => exact fun p hp => absurd hp List.not_mem_nil
  | cons p ps ih =>
    have hne : t ≠ [] := by
      rintro rfl
      rw [lines, linesFrom, List.mapM_nil] at hes
      cases hes
      cases hread
    have hmem : '\n' ∈ t := by
      rw [List.getLast?_eq_some_getLast hne] at hend
      exact of_decide_eq_true hend ▸ List.getLast_mem hne
    obtain ⟨line, t, rfl, hnewline⟩ := List.eq_append_cons_of_mem hmem
    rw [lines_cons hnewline, List.mapM_cons] at hes
    obtain ⟨e, he, hes⟩ := Option.bind_eq_some_iff.1 hes
    obtain ⟨es', hrest, hes⟩ := Option.bind_eq_some_iff.1 hes
    cases hes
    rw [List.map_cons, page_cons, List.append_assoc, List.cons_append] at ht
    obtain ⟨labels, v, ts, rfl, hown⟩ := readLine_own hname hline (hlabels p List.mem_cons_self)
      (hvalue p List.mem_cons_self) hnewline ht he
    have hfirst : labelsOf name (.sample name labels v ts :: es') = labels :: labelsOf name es' := by
      rw [labelsOf, List.filterMap_cons]
      dsimp only
      rw [if_pos rfl]
      rfl
    rw [hfirst, List.map_cons] at hread
    obtain ⟨hsame, hmore⟩ := List.cons.inj hread
    obtain ⟨hplain, ht⟩ := hown hsame
    have hend' : t.getLast?.all (· = '\n') = true := by
      cases t with
      | nil => rfl
      | cons c t =>
        rwa [List.getLast?_append_of_ne_nil _ (List.cons_ne_nil _ _), List.getLast?_cons_cons] at hend
    refine List.forall_mem_cons.2 ⟨hplain, ?_⟩
    exact ih (fun q hq => hlabels q (List.mem_cons_of_mem _ hq)) (fun q hq => hvalue q (List.mem_cons_of_mem _ hq)) ht
      hend' hrest hmore

end GpuHealth.TextFormat
