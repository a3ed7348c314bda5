/-
Loops over `read` and `write` on a stream. General: nothing here names a program.

The bytes of a peer arrive at a reader as `Event`s: a piece of one or more bytes, an interrupted call, or an error;
after the last event the stream is at its end. `read` is one call: it delivers of the next piece what fits into the
reader's room, and the rest of the piece stays for the next call. `arriving` is what the peer's stream has in front of
its first error.

A `readLoop` calls `read` until it has no room left, and stores what it gets in its variables `σ`; a store outside the
buffer is a fault, and a call at the end of the stream or with an error makes the loop fail.
- `readLoop_rule` is the invariant rule, for an invariant that relates the variables to the bytes seen: the loop does not
  fault; it ends with what it has seen taken off the stream, or it fails having seen the whole stream.

A writer's calls are answered by `Answer`s: up to so many bytes are accepted, or the call is interrupted, or it fails.
`writeLoop` is the loop that writes a buffer in pieces.
- `writeLoop_spec`: what it puts on the wire is a prefix of the buffer, and all of it exactly when it succeeds.
-/
import Mathlib.Tactic

namespace GpuHealth.Streams

variable {β σ : Type}

/-! ## Reading -/

inductive Event (β : Type) where
  | piece (b : β) (bs : List β)
  | eintr
  | error

/-- the bytes in front of the first error -/
def arriving : List (Event β) → List β
  | [] => []
  | .piece b bs :: src => b :: bs ++ arriving src
  | .eintr :: src => arriving src
  | .error :: _ => []

inductive ReadRet (β : Type) where
  | got (bs : List β)
  | eof
  | eintr
  | error

/-- the rest of a piece stays in front -/
def unread : List β → List (Event β) → List (Event β)
  | [], src => src
  | b :: bs, src => .piece b bs :: src

/-- `read` into a buffer with `room` bytes left -/
def read (room : ℕ) : List (Event β) → ReadRet β × List (Event β)
  | [] => (.eof, [])
  | .piece b bs :: src => (.got ((b :: bs).take room), unread ((b :: bs).drop room) src)
  | .eintr :: src => (.eintr, src)
  | .error :: src => (.error, src)

/-- the calls a source can still answer, at most -/
def weight : List (Event β) → ℕ
  | [] => 0
  | .piece _ bs :: src => bs.length + 1 + weight src
  | .eintr :: src => weight src + 1
  | .error :: src => weight src + 1

theorem weight_unread (bs : List β) (src : List (Event β)) : weight (unread bs src) = bs.length + weight src := by
  cases bs with
  | nil => simp [unread]
  | cons b bs => simp [unread, weight]

theorem arriving_unread (bs : List β) (src : List (Event β)) : arriving (unread bs src) = bs ++ arriving src := by
  cases bs <;> rfl

/-- a call that delivers bytes delivers one at least, and no more than fit -/
theorem read_got {room : ℕ} (hroom : room ≠ 0) {src src' : List (Event β)} {bs : List β}
    (h : read room src = (.got bs, src')) :
    bs ≠ [] ∧ bs.length ≤ room ∧ bs ++ arriving src' = arriving src ∧ weight src' < weight src := by
  cases src with
  | nil => cases h
  | cons e src =>
    cases e with
    | eintr => cases h
    | error => cases h
    | piece b rest =>
      obtain ⟨hbs, rfl⟩ := Prod.mk.inj h
      obtain rfl := ReadRet.got.inj hbs
      obtain ⟨n, rfl⟩ := Nat.exists_eq_succ_of_ne_zero hroom
      refine ⟨by simp, List.length_take_le _ _, ?_, ?_⟩
      · rw [arriving_unread, ← List.append_assoc, List.take_append_drop]
        rfl
      · rw [weight_unread, weight, List.length_drop, List.length_cons]
        omega

theorem read_eintr {room : ℕ} {src src' : List (Event β)} (h : read room src = (.eintr, src')) :
    arriving src' = arriving src ∧ weight src' < weight src := by
  cases src with
  | nil => cases h
  | cons e src =>
    cases e with
    | eintr =>
      obtain ⟨-, rfl⟩ := Prod.mk.inj h
      exact ⟨rfl, Nat.lt_succ_self _⟩
    | error => cases h
    | piece b rest => cases h

/-- a call that delivers none is made when nothing is left to arrive -/
theorem read_stop {room : ℕ} {src src' : List (Event β)}
    (h : read room src = (.eof, src') ∨ read room src = (.error, src')) :
    arriving src = [] := by
  cases src with
  | nil => rfl
  | cons e src =>
    cases e with
    | error => rfl
    | eintr => rcases h with h | h <;> cases h
    | piece b rest => rcases h with h | h <;> cases h

inductive LoopRes (σ β : Type) where
  | fault
  | failed
  | done (s : σ) (rest : List (Event β))

/-- read until there is no room left -/
def readLoop (room : σ → ℕ) (got : σ → List β → Option σ) (s : σ) (src : List (Event β)) : LoopRes σ β :=
  if _hroom : room s = 0 then .done s src
  else
    match _hread : read (room s) src with
    | (.eof, _) => .failed
    | (.error, _) => .failed
    | (.eintr, src') => readLoop room got s src'
    | (.got bs, src') =>
      match got s bs with
      | none => .fault
      | some s' => readLoop room got s' src'
termination_by weight src
decreasing_by
  · exact (read_eintr _hread).2
  · exact (read_got _hroom _hread).2.2.2

/-- **The invariant rule.** `I s seen`: with the variables `s` the loop has seen these bytes. -/
theorem readLoop_rule {room : σ → ℕ} {got : σ → List β → Option σ} {I : σ → List β → Prop}
    (hgot : ∀ s seen bs, I s seen → bs ≠ [] → bs.length ≤ room s → ∃ s', got s bs = some s' ∧ I s' (seen ++ bs))
    {s : σ} {seen : List β} (hI : I s seen) (src : List (Event β)) :
    (∃ s' seen' rest, readLoop room got s src = .done s' rest ∧ I s' seen' ∧ room s' = 0 ∧
      seen' ++ arriving rest = seen ++ arriving src) ∨
    (∃ s', readLoop room got s src = .failed ∧ I s' (seen ++ arriving src) ∧ room s' ≠ 0) := by
  induction hw : weight src using Nat.strong_induction_on generalizing s seen src with
  | _ w ih =>
    subst hw
    rw [readLoop]
    by_cases hroom : room s = 0
    · rw [dif_pos hroom]
      exact Or.inl ⟨s, seen, src, rfl, hI, hroom, rfl⟩
    · rw [dif_neg hroom]
      have hstop : arriving src = [] → I s (seen ++ arriving src) := by
        intro hnone
        rwa [hnone, List.append_nil]
      split
      · next src' hread => exact Or.inr ⟨s, rfl, hstop (read_stop (Or.inl hread)), hroom⟩
      · next src' hread => exact Or.inr ⟨s, rfl, hstop (read_stop (Or.inr hread)), hroom⟩
      · next src' hread =>
        obtain ⟨harr, hlt⟩ := read_eintr hread
        rw [← harr]
        exact ih _ hlt hI src' rfl
      · next bs src' hread =>
        obtain ⟨hne, hle, harr, hlt⟩ := read_got hroom hread
        obtain ⟨s', hs', hI'⟩ := hgot s seen bs hI hne hle
        rw [hs', ← harr, ← List.append_assoc]
        exact ih _ hlt hI' src' rfl

/-! ## Reading without a retry -/

/-- a loop that takes an interrupted call for an error -/
def readOnceLoop (room : σ → ℕ) (got : σ → List β → Option σ) (s : σ) (src : List (Event β)) : LoopRes σ β :=
  if _hroom : room s = 0 then .done s src
  else
    match _hread : read (room s) src with
    | (.got bs, src') =>
      match got s bs with
      | none => .fault
      | some s' => readOnceLoop room got s' src'
    | _ => .failed
termination_by weight src
decreasing_by exact (read_got _hroom _hread).2.2.2

theorem readLoop_got {room : σ → ℕ} {got : σ → List β → Option σ} {s : σ} {src src' : List (Event β)} {bs : List β}
    (hroom : room s ≠ 0) (hread : read (room s) src = (.got bs, src')) :
    readLoop room got s src = match got s bs with
      | none => .fault
      | some s' => readLoop room got s' src' := by
  rw [readLoop, dif_neg hroom]
  split
  · next heq => rw [hread] at heq; cases heq
  · next heq => rw [hread] at heq; cases heq
  · next heq => rw [hread] at heq; cases heq
  · next heq =>
    rw [hread] at heq
    cases heq
    rfl

/-- it fails, or makes what the other loop makes -/
theorem readOnceLoop_cases (room : σ → ℕ) (got : σ → List β → Option σ) (s : σ) (src : List (Event β)) :
    readOnceLoop room got s src = .failed ∨ readOnceLoop room got s src = readLoop room got s src := by
  induction hw : weight src using Nat.strong_induction_on generalizing s src with
  | _ w ih =>
    subst hw
    rw [readOnceLoop]
    by_cases hroom : room s = 0
    · rw [dif_pos hroom, readLoop, dif_pos hroom]
      exact Or.inr rfl
    · rw [dif_neg hroom]
      split
      · next bs src' hread =>
        rw [readLoop_got hroom hread]
        cases got s bs with
        | none => exact Or.inr rfl
        | some s' => exact ih _ (read_got hroom hread).2.2.2 s' src' rfl
      · exact Or.inl rfl

theorem unread_append (bs : List β) (a b : List (Event β)) : unread bs (a ++ b) = unread bs a ++ b := by
  cases bs <;> rfl

/-- where enough arrives before the first interrupted call, it does not fail -/
theorem readOnceLoop_enough {room : σ → ℕ} {got : σ → List β → Option σ}
    (hgot : ∀ s s' bs, got s bs = some s' → bs.length ≤ room s → room s' + bs.length = room s) (a b : List (Event β)) (s : σ)
    (ha : .eintr ∉ a) (hroom : room s ≤ (arriving a).length) : readOnceLoop room got s (a ++ b) ≠ .failed := by
  induction hw : weight a using Nat.strong_induction_on generalizing s a with
  | _ w ih =>
    subst hw
    rw [readOnceLoop]
    by_cases hzero : room s = 0
    · rw [dif_pos hzero]
      exact nofun
    · rw [dif_neg hzero]
      cases a with
      | nil => exact absurd (Nat.le_zero.1 hroom) hzero
      | cons e a =>
        cases e with
        | eintr => exact absurd List.mem_cons_self ha
        | error => exact absurd (Nat.le_zero.1 hroom) hzero
        | piece x xs =>
          have hread : read (room s) (.piece x xs :: a) =
              (.got ((x :: xs).take (room s)), unread ((x :: xs).drop (room s)) a) := rfl
          obtain ⟨-, hfits, harr, hlt⟩ := read_got hzero hread
          rw [List.cons_append, read, unread_append]
          dsimp only
          cases hs : got s ((x :: xs).take (room s)) with
          | none => exact nofun
          | some s' =>
            refine ih _ hlt _ s' ?_ ?_ rfl
            · intro hmem
              cases hrest : (x :: xs).drop (room s) with
              | nil =>
                rw [hrest] at hmem
                exact ha (List.mem_cons_of_mem _ hmem)
              | cons y ys =>
                rw [hrest, unread, List.mem_cons] at hmem
                rcases hmem with hhead | htail
                · cases hhead
                · exact ha (List.mem_cons_of_mem _ htail)
            · have hleft := hgot s s' _ hs hfits
              rw [← harr, List.length_append] at hroom
              omega

/-! ## Writing -/

inductive Answer where
  /-- up to `n + 1` bytes are accepted -/
  | accept (n : ℕ)
  | eintr
  | fail

/-- the bytes put on the wire, whether the loop succeeded, and the answers it has not used -/
structure WriteRes (β : Type) where
  wire : List β
  ok : Bool
  rest : List Answer

/-- the bytes of `data` that `write` is handed: `len` from `buf` on, none when that reaches outside -/
def load (data : List β) (buf len : ℕ) : Option (List β) :=
  if buf + len ≤ data.length then some ((data.drop buf).take len) else none

/-- write `len` bytes of `data` from `buf` on; with no more answers the connection is gone -/
def writeLoop (data : List β) : List Answer → ℕ → ℕ → Option (WriteRes β)
  | answers, _, 0 => some ⟨[], true, answers⟩
  | [], _, _ + 1 => some ⟨[], false, []⟩
  | .accept n :: answers, buf, len + 1 => do
    let bytes ← load data buf (len + 1)
    let written := min (n + 1) (len + 1)
    let r ← writeLoop data answers (buf + written) (len + 1 - written)
    some { r with wire := bytes.take written ++ r.wire }
  | .eintr :: answers, buf, len + 1 => writeLoop data answers buf (len + 1)
  | .fail :: answers, _, _ + 1 => some ⟨[], false, answers⟩

theorem range_ne_nil {data : List β} {buf len : ℕ} (h : buf + (len + 1) ≤ data.length) :
    [] ≠ (data.drop buf).take (len + 1) := by
  intro hnil
  have hlen := congrArg List.length hnil
  simp only [List.length_nil, List.length_take, List.length_drop] at hlen
  omega

/-- **What is on the wire is a prefix of the range**, and all of it exactly when the loop succeeds. -/
theorem writeLoop_spec (data : List β) (answers : List Answer) {buf len : ℕ} (h : buf + len ≤ data.length) :
    ∃ r, writeLoop data answers buf len = some r ∧ r.wire <+: (data.drop buf).take len ∧
      (r.ok = true ↔ r.wire = (data.drop buf).take len) := by
  induction answers generalizing buf len with
  | nil =>
    cases len with
    | zero => exact ⟨_, rfl, by simp, by simp⟩
    | succ len =>
      exact ⟨_, rfl, List.nil_prefix, iff_of_false Bool.false_ne_true (range_ne_nil h)⟩
  | cons a answers ih =>
    cases len with
    | zero => exact ⟨_, rfl, by simp, by simp⟩
    | succ len =>
      cases a with
      | fail => exact ⟨_, rfl, List.nil_prefix, iff_of_false Bool.false_ne_true (range_ne_nil h)⟩
      | eintr => exact ih h
      | accept n =>
        set written := min (n + 1) (len + 1) with hwritten
        have hrest : buf + written + (len + 1 - written) ≤ data.length := by omega
        obtain ⟨r, hr, hfront, hok⟩ := ih hrest
        -- the range is what this call takes and what is left of it
        set range := (data.drop buf).take (len + 1) with hrange
        have hsplit : range = range.take written ++ (data.drop (buf + written)).take (len + 1 - written) := by
          have htail : (data.drop (buf + written)).take (len + 1 - written) = range.drop written := by
            rw [hrange, List.drop_take, List.drop_drop]
          rw [htail, List.take_append_drop]
        refine ⟨{ r with wire := range.take written ++ r.wire }, ?_, ?_, ?_⟩
        · rw [writeLoop, load, if_pos h]
          simp only [Option.bind_eq_bind, Option.bind_some, ← hwritten, hr]
          rfl
        · have hwire := (List.prefix_append_right_inj (range.take written)).2 hfront
          rwa [← hsplit] at hwire
        · rw [hok]
          refine ⟨fun hall => ?_, fun hall => List.append_cancel_left (hall.trans hsplit)⟩
          change range.take written ++ r.wire = range
          rw [hall]
          exact hsplit.symm

end GpuHealth.Streams
