/-
`bprintf` of `src/http.c` on the memory it writes.

The buffer is at the front of a memory (`Frame`); `pos` and `cap` are `size_t`s, and every store is checked against the
memory. `vsnprintf` is given the formatted text: it stores what fits into `size - 1` bytes, and a NUL behind it, and
returns the length of the whole text, or -1 when that is no `int`.

`Accumulated` is what a sequence of calls keeps, `bprintf_accumulated` its step.
-/
import GpuHealth.Core.Buffer
import GpuHealth.Render

namespace GpuHealth.PrintBuffer

open GpuHealth.Framing GpuHealth.Buffer

variable {n : ℕ}

/-! ## The code -/

def intMax : ℕ := 2 ^ 31 - 1

/-- `vsnprintf(mem + s, size, ...)` -/
def vsnprintf (mem : Frame Char n) (s size : ℕ) (text : CStr) : Option (Frame Char n × ℤ) :=
  let ret : ℤ := if text.length ≤ intMax then text.length else -1
  if size = 0 then some (mem, ret)
  else (store mem s (text.take (size - 1) ++ ['\x00'])).map fun mem => (mem, ret)

/-- `buf` and `*pos` -/
structure PrintState (n : ℕ) where
  buf : Frame Char n
  pos : UInt64

def bprintf (cap : UInt64) (st : PrintState n) (text : CStr) : Option (PrintState n) :=
  if st.pos ≥ cap - 1 then some st
  else do
    let (buf, ret) ← vsnprintf st.buf st.pos.toNat (cap - st.pos).toNat text
    if ret > 0 then
      let written := UInt64.ofInt ret
      let written := if written > cap - st.pos - 1 then cap - st.pos - 1 else written
      some ⟨buf, st.pos + written⟩
    else some ⟨buf, st.pos⟩

/-- a sequence of calls on a buffer with any content -/
def bprintfs (cap : UInt64) (mem : Frame Char n) (texts : List CStr) : Option (PrintState n) :=
  texts.foldlM (bprintf cap) ⟨mem, 0⟩

/-- no call of `vsnprintf` reports an error -/
def NoError (texts : List CStr) : Prop := ∀ text ∈ texts, text.length ≤ intMax

/-! ## What the calls keep -/

/-- the buffer after the calls with `texts`, from `mem` -/
structure Accumulated (cap : UInt64) (mem : Frame Char n) (texts : List CStr) (st : PrintState n) : Prop where
  pos : st.pos.toNat = min texts.flatten.length (cap.toNat - 1)
  front : st.buf.val.take st.pos.toNat = texts.flatten.take st.pos.toNat
  /-- nothing is written at `cap` or behind it -/
  beyond : st.buf.val.drop cap.toNat = mem.val.drop cap.toNat
  /-- a buffer of one byte is never written -/
  untouched : cap = 1 → st.buf = mem
  /-- in a larger one the first call writes, and from then on `buf[pos]` is the NUL -/
  terminated : cap ≠ 1 → texts ≠ [] → st.buf.val[st.pos.toNat]? = some '\x00'

theorem accumulated_nil (cap : UInt64) (mem : Frame Char n) : Accumulated cap mem [] ⟨mem, 0⟩ := by
  refine ⟨by simp, by simp, rfl, fun _ => rfl, fun _ hne => absurd rfl hne⟩

/-- a full buffer stays as it is -/
theorem accumulated_full {cap : UInt64} (hcap : 1 ≤ cap.toNat) {mem : Frame Char n} {texts : List CStr}
    {st : PrintState n} (h : Accumulated cap mem texts st) (hfull : cap.toNat - 1 ≤ st.pos.toNat) (text : CStr) :
    Accumulated cap mem (texts ++ [text]) st := by
  have hpos := h.pos
  have hlen : (texts ++ [text]).flatten.length = texts.flatten.length + text.length := by simp
  refine ⟨by omega, ?_, h.beyond, h.untouched, fun hne _ => h.terminated hne ?_⟩
  · rw [h.front, List.flatten_append, List.take_append_of_le_length (by omega)]
  · rintro rfl
    -- with nothing printed the buffer is full at its one byte
    have hone : cap.toNat = 1 := by
      rw [List.flatten_nil, List.length_nil] at hpos
      omega
    exact hne (UInt64.toNat_inj.1 hone)

theorem sub_one_toNat {x : UInt64} (h : 1 ≤ x.toNat) : (x - 1).toNat = x.toNat - 1 :=
  UInt64.toNat_sub_of_le x 1 (UInt64.le_iff_toNat_le.2 h)

/-- the position behind a text, of which `room - 1` characters fit -/
theorem written_toNat {room : UInt64} (hroom : 1 < room.toNat) {len : ℕ} (hlen : len ≤ intMax) :
    (if UInt64.ofInt len > room - 1 then room - 1 else UInt64.ofInt len).toNat = min len (room.toNat - 1) := by
  have hroom' := room.toNat_lt
  have hone := sub_one_toNat hroom.le
  have hret : ((UInt64.ofInt len).toNat : ℤ) = len := u64OfInt_toNat (by omega) (by unfold intMax at hlen; omega)
  by_cases hbig : UInt64.ofInt len > room - 1
  · have hlt := UInt64.lt_iff_toNat_lt.1 hbig
    rw [if_pos hbig, hone]
    omega
  · have hle := UInt64.le_iff_toNat_le.1 (UInt64.not_lt.1 hbig)
    rw [if_neg hbig]
    omega

/-- a call that is not full stores the text and its NUL, and moves on by what fits -/
theorem bprintf_stores {cap : UInt64} (hfits : cap.toNat ≤ n) {st : PrintState n}
    (hroom : st.pos.toNat < cap.toNat - 1) {text : CStr} (hlen : text.length ≤ intMax) :
    ∃ st', bprintf cap st text = some st' ∧
      st'.pos.toNat = st.pos.toNat + min text.length (cap.toNat - st.pos.toNat - 1) ∧
      st'.buf.val = st.buf.val.take st.pos.toNat ++ (text.take (cap.toNat - st.pos.toNat - 1) ++ ['\x00']) ++
        st.buf.val.drop (st'.pos.toNat + 1) := by
  have hcap := cap.toNat_lt
  have hone : (cap - 1).toNat = cap.toNat - 1 := sub_one_toNat (by omega)
  have hleft : (cap - st.pos).toNat = cap.toNat - st.pos.toNat :=
    UInt64.toNat_sub_of_le _ _ (by rw [UInt64.le_iff_toNat_le]; omega)
  have hgo : ¬ st.pos ≥ cap - 1 := by
    rw [ge_iff_le, UInt64.le_iff_toNat_le, hone]
    omega
  have hwritten := written_toNat (show 1 < (cap - st.pos).toNat by rw [hleft]; omega) hlen
  rw [hleft] at hwritten
  obtain ⟨buf, hstore, hval⟩ := store_inside st.buf st.pos.toNat (text.take (cap.toNat - st.pos.toNat - 1) ++ ['\x00'])
    (by simp only [List.length_append, List.length_take, List.length_singleton]; omega)
  have hprint : vsnprintf st.buf st.pos.toNat (cap - st.pos).toNat text = some (buf, (text.length : ℤ)) := by
    unfold vsnprintf
    rw [hleft, if_pos hlen, if_neg (by omega), hstore]
    rfl
  have hbehind : st.pos.toNat + (text.take (cap.toNat - st.pos.toNat - 1) ++ ['\x00']).length =
      st.pos.toNat + min text.length (cap.toNat - st.pos.toNat - 1) + 1 := by
    simp only [List.length_append, List.length_take, List.length_singleton]
    omega
  rw [hbehind] at hval
  unfold bprintf
  rw [if_neg hgo, hprint]
  simp only [Option.bind_eq_bind, Option.bind_some]
  by_cases hempty : (text.length : ℤ) > 0
  · rw [if_pos hempty]
    have hpos : (st.pos + if UInt64.ofInt text.length > cap - st.pos - 1 then cap - st.pos - 1 else
        UInt64.ofInt text.length).toNat = st.pos.toNat + min text.length (cap.toNat - st.pos.toNat - 1) := by
      rw [UInt64.toNat_add, hwritten, Nat.mod_eq_of_lt (by omega)]
    exact ⟨_, rfl, hpos, by rw [hpos]; exact hval⟩
  · rw [if_neg hempty]
    have hnone : min text.length (cap.toNat - st.pos.toNat - 1) = 0 := by omega
    rw [hnone, Nat.add_zero] at hval ⊢
    exact ⟨_, rfl, rfl, hval⟩

/-- **One call.** -/
theorem bprintf_accumulated {cap : UInt64} (hcap : 1 ≤ cap.toNat) (hfits : cap.toNat ≤ n) {mem : Frame Char n}
    {texts : List CStr} {st : PrintState n} (h : Accumulated cap mem texts st) {text : CStr}
    (hlen : text.length ≤ intMax) :
    ∃ st', bprintf cap st text = some st' ∧ Accumulated cap mem (texts ++ [text]) st' := by
  have hpos := h.pos
  rcases Nat.lt_or_ge st.pos.toNat (cap.toNat - 1) with hroom | hfull
  · obtain ⟨st', hst', hnew, hval⟩ := bprintf_stores hfits hroom hlen
    have hflat : (texts ++ [text]).flatten = texts.flatten ++ text := by simp
    -- all that was printed before stands in front
    have hbefore : st.buf.val.take st.pos.toNat = texts.flatten := by
      rw [h.front, List.take_of_length_le (by omega)]
    set k := cap.toNat - st.pos.toNat - 1 with hk
    have hfront : (texts.flatten ++ text.take k).length = st'.pos.toNat := by
      rw [List.length_append, List.length_take, hnew]
      omega
    have hsplit : st'.buf.val = texts.flatten ++ text.take k ++ '\x00' :: st.buf.val.drop (st'.pos.toNat + 1) := by
      rw [hval, hbefore, ← List.append_assoc, List.append_assoc _ ['\x00']]
      rfl
    refine ⟨st', hst', ?_, ?_, ?_, ?_, ?_⟩
    · rw [hflat, List.length_append, hnew]
      omega
    · have hall : texts.flatten.take st'.pos.toNat = texts.flatten := List.take_of_length_le (by omega)
      have hpart : text.take (st'.pos.toNat - texts.flatten.length) = text.take k := by
        rw [List.take_eq_take_iff]
        omega
      rw [hsplit, List.take_left' hfront, hflat, List.take_append, hall, hpart]
    · rw [← h.beyond, hsplit, List.drop_append, List.drop_of_length_le (by omega), hfront, List.nil_append]
      obtain ⟨d, hd⟩ := Nat.exists_eq_add_of_lt (show st'.pos.toNat < cap.toNat by omega)
      rw [show cap.toNat - st'.pos.toNat = d + 1 by omega, List.drop_succ_cons, List.drop_drop]
      congr 1
      omega
    · rintro rfl
      exact absurd hroom (Nat.not_lt_zero _)
    · intro _ _
      rw [hsplit, List.getElem?_append_right (by omega), hfront, Nat.sub_self, List.getElem?_cons_zero]
  · have hgo : st.pos ≥ cap - 1 := by
      rw [ge_iff_le, UInt64.le_iff_toNat_le, sub_one_toNat hcap]
      exact hfull
    exact ⟨st, by rw [bprintf, if_pos hgo], accumulated_full hcap h hfull text⟩

/-- **Any sequence of calls.** -/
theorem bprintfs_accumulated {cap : UInt64} (hcap : 1 ≤ cap.toNat) (hfits : cap.toNat ≤ n) (mem : Frame Char n)
    {texts : List CStr} (hok : NoError texts) :
    ∃ st, bprintfs cap mem texts = some st ∧ Accumulated cap mem texts st := by
  induction texts using List.reverseRecOn with
  | nil => exact ⟨_, rfl, accumulated_nil cap mem⟩
  | append_singleton texts text ih =>
    obtain ⟨st, hst, hacc⟩ := ih fun t ht => hok t (List.mem_append_left _ ht)
    obtain ⟨st', hst', hacc'⟩ := bprintf_accumulated hcap hfits hacc (hok text (List.mem_append_right _ (by simp)))
    refine ⟨st', ?_, hacc'⟩
    unfold bprintfs at hst ⊢
    rw [List.foldlM_append, hst]
    simp [hst']

/-! ## The page -/

/-- what stands in front of `pos` is what `Render.bprintf` leaves -/
theorem Accumulated.text {cap : UInt64} {mem : Frame Char n} {texts : List CStr} {st : PrintState n}
    (h : Accumulated cap mem texts st) :
    st.buf.val.take st.pos.toNat = texts.foldl (Render.bprintf cap.toNat) [] := by
  have hfold := Render.foldl_bprintf cap.toNat texts []
  rw [List.take_nil, List.nil_append] at hfold
  rw [hfold, h.front, h.pos, List.take_eq_take_iff]
  omega

/-- **`render_metrics` in memory**: the page stands at the front of the buffer. -/
theorem renderMetrics_printed {cap : UInt64} (hcap : 1 ≤ cap.toNat) (hfits : cap.toNat ≤ n) (mem : Frame Char n)
    (slots : List (HttpChild.HttpSlot ℚ)) (hok : NoError (Render.pageTexts slots)) :
    ∃ st, bprintfs cap mem (Render.pageTexts slots) = some st ∧
      st.buf.val.take st.pos.toNat = Render.renderMetrics cap.toNat (some slots) := by
  obtain ⟨st, hst, hacc⟩ := bprintfs_accumulated hcap hfits mem hok
  exact ⟨st, hst, hacc.text⟩

end GpuHealth.PrintBuffer
