/-
Request-line parsing, whatever the packets.

`request_exact`: on a plain connection, for every byte stream of a client (NULs included), cut into `read` results in
any way, with interrupted calls anywhere and an end or an error behind any byte, and for every buffer of at least one
byte with any content: `read_request_line` is `requestLine`, a function of the stream alone. It succeeds exactly when a
newline is among the first cap - 1 bytes and the text in front of the first newline, without a CR at its end and cut at
its first NUL, has a space; the method is what is in front of that space, the path what is behind it up to the next one.
No access leaves the buffer, and the bytes behind the first newline do not matter.
Witness `request_exact_ready`: a request in two pieces.

The loop's invariant (`RequestInv`): the buffer begins with the bytes seen, at most cap - 1 of them, and the break has
been taken exactly when a newline is among them.
-/
import GpuHealth.HttpConn

namespace GpuHealth.RequestLine

open GpuHealth.Framing GpuHealth.Streams GpuHealth.Buffer GpuHealth.HttpConn

variable {cap : ℕ}

/-! ## The property -/

def dropCr (line : CStr) : CStr := if line.getLast? = some '\r' then line.dropLast else line

/-- the text in front of the first newline, without its CR, cut at its first NUL -/
def requestText (stream : CStr) : CStr := (dropCr (stream.takeWhile (· ≠ '\n'))).takeWhile (· ≠ '\x00')

def methodAndPath (text : CStr) : Option (CStr × CStr) :=
  if ' ' ∈ text then some (text.takeWhile (· ≠ ' '), ((text.dropWhile (· ≠ ' ')).drop 1).takeWhile (· ≠ ' ')) else none

/-- the request line of a stream, in a buffer of `cap` bytes -/
def requestLine (cap : ℕ) (stream : CStr) : Option (CStr × CStr) :=
  if '\n' ∈ stream.take (cap - 1) then methodAndPath (requestText stream) else none

structure RequestExact (cap : ℕ) (buf : Frame Char cap) (src : List (Event Char)) : Prop where
  /-- no fault, and the result is the stream's -/
  result : readRequestLine buf src = some (requestLine cap (arriving src))
  /-- the bytes behind a newline do not matter -/
  tail : ∀ (buf' : Frame Char cap) (src' : List (Event Char)) (line rest rest' : CStr),
    arriving src = line ++ '\n' :: rest → arriving src' = line ++ '\n' :: rest' →
      readRequestLine buf' src' = readRequestLine buf src

/-! ## Cutting the buffer -/

theorem cutCr_text {buf : Frame Char cap} {line rest : CStr} (h : buf.val = line ++ '\x00' :: rest) :
    ∃ buf' rest', cutCr buf line.length = some buf' ∧ buf'.val = dropCr line ++ '\x00' :: rest' := by
  rcases List.eq_nil_or_concat line with rfl | ⟨front, c, rfl⟩
  · exact ⟨buf, rest, rfl, h⟩
  · rw [List.concat_eq_append] at h ⊢
    have hat : buf.val = front ++ c :: '\x00' :: rest := by rw [h, List.append_assoc, List.singleton_append]
    have hlast : (front ++ [c]).length - 1 = front.length := by simp
    have hpeek : peek buf front.length = some c := by
      rw [peek, hat, List.getElem?_append_right le_rfl, Nat.sub_self, List.getElem?_cons_zero]
    have hdrop : dropCr (front ++ [c]) = if c = '\r' then front else front ++ [c] := by simp [dropCr]
    rw [cutCr, if_pos (by simp), hlast, hpeek, hdrop]
    by_cases hc : c = '\r'
    · obtain ⟨buf', hstore, hval⟩ := store_at hat '\x00'
      refine ⟨buf', '\x00' :: rest, ?_, by rw [if_pos hc, hval]⟩
      simp [hc, hstore]
    · exact ⟨buf, rest, by simp [hc], by rw [if_neg hc, h]⟩

/-- a text ends at its first NUL -/
theorem cut_nul (text rest : CStr) :
    ∃ rest', text ++ '\x00' :: rest = text.takeWhile (· ≠ '\x00') ++ '\x00' :: rest' := by
  by_cases hnul : '\x00' ∈ text
  · obtain ⟨a, b, rfl, ha⟩ := List.eq_append_cons_of_mem hnul
    exact ⟨b ++ '\x00' :: rest, by rw [takeWhile_append ha, List.append_assoc, List.cons_append]⟩
  · exact ⟨rest, by rw [takeWhile_absent hnul]⟩

theorem cutSp2_text {buf : Frame Char cap} {front text rest : CStr} (h : buf.val = front ++ text ++ '\x00' :: rest)
    (hnul : '\x00' ∉ text) :
    ∃ buf' rest', cutSp2 buf front.length = some buf' ∧
      buf'.val = front ++ text.takeWhile (· ≠ ' ') ++ '\x00' :: rest' := by
  rw [cutSp2, strchr_text h hnul (by decide)]
  by_cases hsp : ' ' ∈ text
  · obtain ⟨a, b, rfl, ha⟩ := List.eq_append_cons_of_mem hsp
    have hat : buf.val = (front ++ a) ++ ' ' :: (b ++ '\x00' :: rest) := by simp [h]
    obtain ⟨buf', hstore, hval⟩ := store_at hat '\x00'
    refine ⟨buf', b ++ '\x00' :: rest, ?_, by rw [hval, takeWhile_append ha]⟩
    rw [List.length_append] at hstore
    simp [idxOf?_append ha, hstore]
  · exact ⟨buf, rest, by simp [List.idxOf?_eq_none_iff.2 hsp], by rw [h, takeWhile_absent hsp]⟩

theorem cutSpaces_text {buf : Frame Char cap} {text rest : CStr} (h : buf.val = text ++ '\x00' :: rest)
    (hnul : '\x00' ∉ text) : cutSpaces buf = some (methodAndPath text) := by
  have hscan := strchr_text (a := []) h hnul (c := ' ') (by decide)
  rw [List.length_nil] at hscan
  rw [cutSpaces, hscan]
  by_cases hsp : ' ' ∈ text
  · obtain ⟨method, tail, rfl, hmethod⟩ := List.eq_append_cons_of_mem hsp
    rw [List.mem_append, List.mem_cons, not_or, not_or] at hnul
    obtain ⟨hnulM, -, hnulT⟩ := hnul
    have hat : buf.val = method ++ ' ' :: (tail ++ '\x00' :: rest) := by rw [h, List.append_assoc, List.cons_append]
    obtain ⟨buf1, hstore, hval⟩ := store_at hat '\x00'
    -- the path begins behind the first terminator
    have hpath : buf1.val = (method ++ ['\x00']) ++ tail ++ '\x00' :: rest := by simp [hval]
    obtain ⟨buf2, rest', hcut, hval'⟩ := cutSp2_text hpath hnulT
    have hlen : (method ++ ['\x00']).length = method.length + 1 := by simp
    rw [hlen] at hcut
    have hnulP : '\x00' ∉ tail.takeWhile (· ≠ ' ') := fun hin => hnulT (List.takeWhile_subset _ hin)
    have hfront : buf2.val = [] ++ method ++ '\x00' :: (tail.takeWhile (· ≠ ' ') ++ '\x00' :: rest') := by simp [hval']
    have hreadM : cstring '\x00' buf2 0 = some method := cstring_text hfront hnulM
    have hreadP : cstring '\x00' buf2 (method.length + 1) = some (tail.takeWhile (· ≠ ' ')) :=
      hlen ▸ cstring_text hval' hnulP
    rw [methodAndPath, if_pos hsp, takeWhile_append hmethod, dropWhile_append hmethod]
    simp [idxOf?_append hmethod, hstore, hcut, hreadM, hreadP]
  · rw [methodAndPath, if_neg hsp]
    simp [List.idxOf?_eq_none_iff.2 hsp]

/-- **The parse of a buffer that begins with `seen`.** -/
theorem parseRequest_seen {buf : Frame Char cap} {seen : CStr} (h : buf.val.take seen.length = seen)
    (hroom : seen.length < cap) :
    parseRequest buf seen.length = some (if '\n' ∈ seen then methodAndPath (requestText seen) else none) := by
  obtain ⟨x, rest, hbuf⟩ : ∃ x rest, buf.val = seen ++ x :: rest := by
    have hsplit := List.take_append_drop seen.length buf.val
    rw [h] at hsplit
    cases hdrop : buf.val.drop seen.length with
    | nil =>
      rw [List.drop_eq_nil_iff, buf.property] at hdrop
      omega
    | cons x rest => exact ⟨x, rest, by rw [← hsplit, hdrop]⟩
  obtain ⟨buf1, hend, hval⟩ := store_at hbuf '\x00'
  rw [parseRequest, hend]
  by_cases hlf : '\n' ∈ seen
  · obtain ⟨line, tail, rfl, hline⟩ := List.eq_append_cons_of_mem hlf
    have hat : buf1.val = line ++ '\n' :: (tail ++ '\x00' :: rest) := by rw [hval, List.append_assoc, List.cons_append]
    have hfind : memchr buf1 '\n' (line ++ '\n' :: tail).length = some (some line.length) :=
      memchr_at hat hline (by simp) hroom.le
    obtain ⟨buf2, hstore, hval2⟩ := store_at hat '\x00'
    obtain ⟨buf3, rest3, hcr, hval3⟩ := cutCr_text hval2
    obtain ⟨rest4, hcut⟩ := cut_nul (dropCr line) rest3
    have htext : requestText (line ++ '\n' :: tail) = (dropCr line).takeWhile (· ≠ '\x00') := by
      rw [requestText, takeWhile_append hline]
    have hnul : '\x00' ∉ (dropCr line).takeWhile (· ≠ '\x00') := by
      intro hin
      simpa using List.mem_takeWhile_imp hin
    rw [if_pos hlf, htext, ← cutSpaces_text (hval3.trans hcut) hnul]
    simp only [Option.bind_eq_bind, Option.bind_some, hfind, hstore, hcr]
  · have hnone : memchr buf1 '\n' seen.length = some none :=
      memchr_absent (by rwa [hval, List.take_left' rfl]) hroom.le
    rw [if_neg hlf]
    simp only [Option.bind_eq_bind, Option.bind_some, hnone]

/-! ## The loop -/

structure RequestInv (v : RequestVars cap) (seen : CStr) : Prop where
  pos : v.pos = seen.length
  le : v.pos ≤ cap - 1
  stored : v.buf.val.take v.pos = seen
  brk : v.brk = true ↔ '\n' ∈ seen

theorem requestGot_inv {v : RequestVars cap} {seen bs : CStr} (h : RequestInv v seen) (hne : bs ≠ [])
    (hfits : bs.length ≤ requestRoom v) : ∃ v', requestGot v bs = some v' ∧ RequestInv v' (seen ++ bs) := by
  obtain ⟨hpos, hle, hstored, -⟩ := h
  have hsome : 0 < bs.length := List.length_pos_iff.2 hne
  unfold requestRoom at hfits
  split_ifs at hfits with hgo
  · obtain ⟨buf, hstore, hval⟩ := store_inside v.buf v.pos bs (by omega)
    have hfront : buf.val.take (v.pos + bs.length) = seen ++ bs := by
      rw [hval, hstored, hpos, ← List.length_append, List.take_left' rfl]
    have hfind : memchr buf '\n' (v.pos + bs.length) = some ((seen ++ bs).idxOf? '\n') := by
      rw [memchr, if_pos (by omega), hfront]
    refine ⟨⟨buf, v.pos + bs.length, ((seen ++ bs).idxOf? '\n').isSome⟩, by simp [requestGot, hstore, hfind], ?_, ?_,
      hfront, ?_⟩
    · simp [hpos]
    · dsimp only
      omega
    · dsimp only
      rw [Option.isSome_iff_ne_none, Ne, List.idxOf?_eq_none_iff, not_not]
  · omega

/-- a newline among the bytes seen is one among the first cap - 1, and the first line is the stream's -/
theorem requestLine_seen {seen rest : CStr} (hle : seen.length ≤ cap - 1)
    (hfull : '\n' ∉ seen → seen.length = cap - 1) :
    requestLine cap (seen ++ rest) = if '\n' ∈ seen then methodAndPath (requestText seen) else none := by
  have hmem : '\n' ∈ (seen ++ rest).take (cap - 1) ↔ '\n' ∈ seen := by
    rw [List.take_append, List.take_of_length_le hle, List.mem_append, or_iff_left_of_imp]
    intro hin
    by_contra hno
    rw [hfull hno, Nat.sub_self, List.take_zero] at hin
    cases hin
  unfold requestLine
  simp only [hmem]
  split_ifs with hlf
  · obtain ⟨line, tail, rfl, hline⟩ := List.eq_append_cons_of_mem hlf
    rw [requestText, requestText, List.append_assoc, List.cons_append, takeWhile_append hline, takeWhile_append hline]
  · rfl

theorem readRequestLine_eq (hcap : 0 < cap) (buf : Frame Char cap) (src : List (Event Char)) :
    readRequestLine buf src = some (requestLine cap (arriving src)) := by
  have hstart : RequestInv (⟨buf, 0, false⟩ : RequestVars cap) [] := ⟨rfl, Nat.zero_le _, rfl, by simp⟩
  have hgot : ∀ (v : RequestVars cap) seen bs, RequestInv v seen → bs ≠ [] → bs.length ≤ requestRoom v →
      ∃ v', requestGot v bs = some v' ∧ RequestInv v' (seen ++ bs) := fun _ _ _ hI hne hfits =>
    requestGot_inv hI hne hfits
  rcases readLoop_rule hgot hstart src with
    ⟨v, seen, rest, hdone, hI, hroom, hall⟩ | ⟨v, hfailed, hI, hroom⟩
  · obtain ⟨hpos, hle, hstored, hbrk⟩ := hI
    rw [List.nil_append] at hall
    have hfull : '\n' ∉ seen → seen.length = cap - 1 := by
      intro hno
      have hgo : v.brk = false := Bool.eq_false_iff.2 (mt hbrk.1 hno)
      unfold requestRoom at hroom
      split_ifs at hroom with hcond
      · omega
      · have hstop : ¬ v.pos < cap - 1 := fun hlt => hcond ⟨hgo, hlt⟩
        omega
    rw [hpos] at hstored hle
    rw [readRequestLine, hdone]
    dsimp only
    rw [hpos, parseRequest_seen hstored (by omega), ← hall, requestLine_seen hle hfull]
  · obtain ⟨hpos, hle, -, hbrk⟩ := hI
    rw [List.nil_append] at hbrk
    -- the loop goes on, so no newline has arrived
    have hno : '\n' ∉ arriving src := by
      intro hlf
      exact hroom (if_neg fun hgo => absurd (hbrk.2 hlf) (by rw [hgo.1]; exact Bool.noConfusion))
    rw [readRequestLine, hfailed, requestLine, if_neg fun hin => hno (List.take_subset _ _ hin)]

/-! ## The theorem -/

/-- the request line does not depend on what is behind a newline -/
theorem requestLine_tail (line rest rest' : CStr) :
    requestLine cap (line ++ '\n' :: rest') = requestLine cap (line ++ '\n' :: rest) := by
  -- up to the first newline the two streams are the same
  have hmore : '\n' ∈ line ++ ['\n'] := List.mem_append_right line (List.mem_singleton_self '\n')
  obtain ⟨first, more, hline, hfirst⟩ := List.eq_append_cons_of_mem hmore
  have hsplit : ∀ r : CStr, line ++ '\n' :: r = first ++ '\n' :: (more ++ r) := by
    intro r
    rw [← List.singleton_append, ← List.append_assoc, hline, List.append_assoc, List.cons_append]
  have hmem : ∀ r : CStr, '\n' ∈ (first ++ '\n' :: r).take (cap - 1) ↔ first.length < cap - 1 := by
    intro r
    rw [List.take_append, List.mem_append]
    rcases Nat.lt_or_ge first.length (cap - 1) with hlt | hge
    · obtain ⟨k, hk⟩ := Nat.exists_eq_add_of_lt hlt
      refine iff_of_true (Or.inr ?_) hlt
      rw [show cap - 1 - first.length = k + 1 by omega, List.take_succ_cons]
      exact List.mem_cons_self
    · refine iff_of_false (fun hin => ?_) (not_lt.2 hge)
      rw [Nat.sub_eq_zero_of_le hge, List.take_zero] at hin
      exact hfirst (List.take_subset _ _ (hin.resolve_right List.not_mem_nil))
  rw [hsplit rest, hsplit rest']
  simp only [requestLine, hmem, requestText, takeWhile_append hfirst]

/-- **Parsing is independent of the packets**, for every stream, every way to cut it, and every buffer. -/
theorem request_exact (hcap : 0 < cap) (buf : Frame Char cap) (src : List (Event Char)) : RequestExact cap buf src := by
  refine ⟨readRequestLine_eq hcap buf src, fun buf' src' line rest rest' hsrc hsrc' => ?_⟩
  rw [readRequestLine_eq hcap, readRequestLine_eq hcap, hsrc, hsrc', requestLine_tail]

/-- "GET /ready HTTP/1.1" in two pieces and an interrupted call between them -/
theorem request_exact_ready :
    readRequestLine (⟨List.replicate reqBufSize '?', List.length_replicate⟩ : Frame Char reqBufSize)
      [.piece 'G' "ET /re".toList, .eintr, .piece 'a' "dy HTTP/1.1\r\nHost: x".toList] =
      some (some ("GET".toList, "/ready".toList)) := by
  rw [(request_exact (by decide) _ _).result]
  decide +kernel

end GpuHealth.RequestLine
