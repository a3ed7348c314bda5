/-
A reader of HTTP messages that are framed by their Content-Length. General: nothing here names a program.

`readMessage` takes a start line, the fields up to the empty line, and a body of as many characters as the one
Content-Length says; the stream may go on behind it. It is none when what has arrived is not such a message, or not all
of it.

- `readMessage_text`: a message is read as it was written, whatever follows it.
- `readMessage_cut`: a message cut off anywhere is not read.
-/
import Mathlib.Data.List.DropRight
import Mathlib.Tactic

namespace GpuHealth.HttpReader

/-! ## The reader -/

/-- the text up to a CRLF, and what is behind it -/
def readLine : List Char → Option (List Char × List Char)
  | [] => none
  | c :: s =>
    if c = '\r' ∧ s.head? = some '\n' then some ([], s.drop 1)
    else (readLine s).map fun r => (c :: r.1, r.2)

/-- the lines up to an empty one, and what is behind it -/
def readLines : ℕ → List Char → Option (List (List Char) × List Char)
  | 0, _ => none
  | fuel + 1, s =>
    (readLine s).bind fun r =>
      if r.1 = [] then some ([], r.2) else (readLines fuel r.2).map fun rs => (r.1 :: rs.1, rs.2)

def blank (c : Char) : Bool := c = ' ' || c = '\t'

/-- the name and the value of a field, without the blanks around it -/
def readField (line : List Char) : Option (List Char × List Char) :=
  if ':' ∈ line then
    some (line.takeWhile (· ≠ ':'), (((line.dropWhile (· ≠ ':')).drop 1).dropWhile blank).rdropWhile blank)
  else none

structure Message where
  start : List Char
  fields : List (List Char × List Char)
  body : List Char
deriving DecidableEq, Repr

/-- names of fields are compared in lower case -/
def contentLengths (fields : List (List Char × List Char)) : List (List Char) :=
  fields.filterMap fun f => if f.1.map Char.toLower = "content-length".toList then some f.2 else none

/-- the length that the fields say -/
def bodyLength (fields : List (List Char × List Char)) : Option ℕ :=
  match contentLengths fields with
  | [v] => if v ≠ [] ∧ v.all Char.isDigit then some (Nat.ofDigitChars 10 v 0) else none
  | _ => none

def readMessage (s : List Char) : Option Message :=
  match readLines (s.length + 1) s with
  | some (start :: lines, rest) =>
    (lines.mapM readField).bind fun fields =>
      (bodyLength fields).bind fun n => if n ≤ rest.length then some ⟨start, fields, rest.take n⟩ else none
  | _ => none

/-! ## What is written -/

def crlf : List Char := ['\r', '\n']

def fieldLine (f : List Char × List Char) : List Char := f.1 ++ ':' :: ' ' :: f.2

def Message.lines (m : Message) : List (List Char) := m.start :: m.fields.map fieldLine

def Message.text (m : Message) : List Char := m.lines.flatMap (· ++ crlf) ++ crlf ++ m.body

structure FieldWellFormed (f : List Char × List Char) : Prop where
  name : ':' ∉ f.1 ∧ '\r' ∉ f.1
  value : '\r' ∉ f.2
  front : f.2.head?.any blank = false
  back : f.2.getLast?.any blank = false

structure Message.WellFormed (m : Message) : Prop where
  start : m.start ≠ [] ∧ '\r' ∉ m.start
  fields : ∀ f ∈ m.fields, FieldWellFormed f
  length : bodyLength m.fields = some m.body.length

/-! ## Lines -/

theorem readLine_line {line : List Char} (h : '\r' ∉ line) (rest : List Char) :
    readLine (line ++ crlf ++ rest) = some (line, rest) := by
  induction line with
  | nil => rfl
  | cons c line ih =>
    rw [List.mem_cons, not_or] at h
    rw [List.cons_append, List.cons_append, readLine, if_neg fun hc => h.1 hc.1.symm, ih h.2]
    rfl

/-- more behind a line that is there whole -/
theorem readLine_more {s line rest : List Char} (h : readLine s = some (line, rest)) (t : List Char) :
    readLine (s ++ t) = some (line, rest ++ t) := by
  induction s generalizing line rest with
  | nil => cases h
  | cons c s ih =>
    cases s with
    | nil =>
      rw [readLine, if_neg (by simp)] at h
      cases h
    | cons d s =>
      have hhead : (d :: s ++ t).head? = (d :: s).head? := rfl
      rw [readLine] at h
      rw [List.cons_append, readLine, hhead]
      by_cases hc : c = '\r' ∧ (d :: s).head? = some '\n'
      · rw [if_pos hc] at h
        obtain ⟨rfl, rfl⟩ := Prod.mk.inj (Option.some.inj h)
        rw [if_pos hc]
        rfl
      · rw [if_neg hc] at h
        obtain ⟨⟨line', rest'⟩, hr, hline⟩ := Option.map_eq_some_iff.1 h
        obtain ⟨rfl, rfl⟩ := Prod.mk.inj hline
        rw [if_neg hc, ih hr]
        rfl

theorem readLines_more {fuel fuel' : ℕ} (hle : fuel ≤ fuel') {s : List Char} {ls : List (List Char)} {rest : List Char}
    (h : readLines fuel s = some (ls, rest)) (t : List Char) : readLines fuel' (s ++ t) = some (ls, rest ++ t) := by
  induction fuel generalizing fuel' s ls rest with
  | zero => cases h
  | succ fuel ih =>
    obtain ⟨fuel', rfl⟩ := Nat.exists_eq_succ_of_ne_zero (Nat.ne_zero_of_lt hle)
    rw [readLines] at h ⊢
    obtain ⟨⟨line, behind⟩, hline, h⟩ := Option.bind_eq_some_iff.1 h
    rw [readLine_more hline t, Option.bind_some]
    dsimp only at h ⊢
    split_ifs at h ⊢ with hempty
    · obtain ⟨rfl, rfl⟩ := Prod.mk.inj (Option.some.inj h)
      rfl
    · obtain ⟨⟨ls', rest'⟩, hrest, heq⟩ := Option.map_eq_some_iff.1 h
      obtain ⟨rfl, rfl⟩ := Prod.mk.inj heq
      rw [ih (Nat.le_of_succ_le_succ hle) hrest]
      rfl

theorem readLines_text {ls : List (List Char)} (h : ∀ line ∈ ls, line ≠ [] ∧ '\r' ∉ line) {fuel : ℕ}
    (hfuel : ls.length < fuel) (body : List Char) :
    readLines fuel (ls.flatMap (· ++ crlf) ++ crlf ++ body) = some (ls, body) := by
  induction ls generalizing fuel with
  | nil =>
    obtain ⟨fuel, rfl⟩ := Nat.exists_eq_succ_of_ne_zero (Nat.ne_zero_of_lt hfuel)
    rfl
  | cons line ls ih =>
    obtain ⟨fuel, rfl⟩ := Nat.exists_eq_succ_of_ne_zero (Nat.ne_zero_of_lt hfuel)
    obtain ⟨⟨hne, hcr⟩, hrest⟩ := List.forall_mem_cons.1 h
    have hmore := ih hrest (Nat.lt_of_succ_lt_succ hfuel)
    rw [List.flatMap_cons, List.append_assoc, List.append_assoc, readLines, readLine_line hcr, Option.bind_some]
    dsimp only
    rw [if_neg hne, ← List.append_assoc, hmore]
    rfl

/-! ## Messages -/

theorem readField_line {f : List Char × List Char} (h : FieldWellFormed f) : readField (fieldLine f) = some f := by
  obtain ⟨name, value⟩ := f
  have hname : name.takeWhile (· ≠ ':') = name :=
    List.takeWhile_eq_self_iff.2 fun c hc => by simpa using ne_of_mem_of_not_mem hc h.name.1
  have hfront : value.dropWhile blank = value := by
    cases value with
    | nil => rfl
    | cons c value =>
      have hc : blank c = false := by simpa using h.front
      rw [List.dropWhile_cons_of_neg (by rw [hc]; exact Bool.false_ne_true)]
  have hback : value.rdropWhile blank = value := by
    rw [List.rdropWhile_eq_self_iff]
    intro hne
    have hlast := h.back
    rw [List.getLast?_eq_some_getLast hne, Option.any_some] at hlast
    rw [hlast]
    exact Bool.false_ne_true
  have hblank : (' ' :: value).dropWhile blank = value := by
    rw [List.dropWhile_cons_of_pos rfl, hfront]
  have htake : (name ++ ':' :: ' ' :: value).takeWhile (· ≠ ':') = name := by
    rw [List.takeWhile_append_of_pos (List.takeWhile_eq_self_iff.1 hname)]
    simp
  have hdrop : ((name ++ ':' :: ' ' :: value).dropWhile (· ≠ ':')).drop 1 = ' ' :: value := by
    rw [List.dropWhile_append_of_pos (List.takeWhile_eq_self_iff.1 hname)]
    simp
  rw [readField, fieldLine, if_pos (List.mem_append_right _ List.mem_cons_self), htake, hdrop, hblank, hback]

theorem readFields {fields : List (List Char × List Char)} (h : ∀ f ∈ fields, FieldWellFormed f) :
    (fields.map fieldLine).mapM readField = some fields := by
  induction fields with
  | nil => rfl
  | cons f fields ih =>
    obtain ⟨hf, hrest⟩ := List.forall_mem_cons.1 h
    rw [List.map_cons, List.mapM_cons, readField_line hf, ih hrest]
    rfl

variable {m : Message}

theorem Message.WellFormed.lines_good (h : m.WellFormed) : ∀ line ∈ m.lines, line ≠ [] ∧ '\r' ∉ line := by
  refine List.forall_mem_cons.2 ⟨h.start, fun line hline => ?_⟩
  obtain ⟨f, hf, rfl⟩ := List.mem_map.1 hline
  obtain ⟨⟨-, hname⟩, hvalue, -, -⟩ := h.fields f hf
  refine ⟨by simp [fieldLine], ?_⟩
  simp [fieldLine, hname, hvalue]

theorem lines_length_le (ls : List (List Char)) (rest : List Char) :
    ls.length < (ls.flatMap (· ++ crlf) ++ crlf ++ rest).length + 1 := by
  have hsum : ls.length ≤ (ls.flatMap (· ++ crlf)).length := by
    induction ls with
    | nil => exact Nat.le_refl _
    | cons line ls ih =>
      simp only [List.flatMap_cons, List.length_append, List.length_cons, crlf, List.length_nil] at ih ⊢
      omega
  simp only [List.length_append]
  omega

theorem readLines_message (h : m.WellFormed) : readLines (m.text.length + 1) m.text = some (m.lines, m.body) :=
  readLines_text h.lines_good (lines_length_le m.lines m.body) m.body

/-- **A message is read as it was written**, whatever follows it. -/
theorem readMessage_text (h : m.WellFormed) (rest : List Char) : readMessage (m.text ++ rest) = some m := by
  have hle : m.text.length + 1 ≤ (m.text ++ rest).length + 1 := by simp
  have hbody : m.body.length ≤ (m.body ++ rest).length := by simp
  rw [readMessage, readLines_more hle (readLines_message h) rest]
  dsimp only [Message.lines]
  rw [readFields h.fields, Option.bind_some, h.length, Option.bind_some, if_pos hbody, List.take_left]

/-- **A message cut off anywhere is not read.** -/
theorem readMessage_cut (h : m.WellFormed) {p : List Char} (hp : p <+: m.text) (hne : p ≠ m.text) :
    readMessage p = none := by
  obtain ⟨t, ht⟩ := hp
  rw [readMessage]
  split
  · next start lines rest hlines =>
    have hle : p.length + 1 ≤ m.text.length + 1 := by rw [← ht, List.length_append]; omega
    have hall := readLines_more hle hlines t
    rw [ht, readLines_message h, Option.some.injEq, Prod.mk.injEq, Message.lines, List.cons.injEq] at hall
    obtain ⟨⟨-, rfl⟩, hbody⟩ := hall
    rw [readFields h.fields, Option.bind_some, h.length, Option.bind_some, if_neg]
    intro hlen
    have hnone : t = [] := by
      have hsum := congrArg List.length hbody
      rw [List.length_append] at hsum
      exact List.length_eq_zero_iff.1 (by omega)
    rw [hnone, List.append_nil] at ht
    exact hne ht
  · rfl

end GpuHealth.HttpReader
