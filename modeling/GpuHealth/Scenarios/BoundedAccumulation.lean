/-
The page buffer never overflows and never loses its NUL.

`bounded_accumulation`: for every `cap` of at least one byte, every content of the buffer and of the memory behind it,
and every sequence of `bprintf` calls in which `vsnprintf` reports no error, after each call: `pos` is the length of the
text so far, or `cap - 1` where that is less; the first `pos` bytes are those of the text; nothing is written at `cap`
or behind it; and once a call has written anything `buf[pos]` is NUL. That is `Accumulated` (`PrintBuffer`), with the
two cases of the last part: a buffer of one byte is never written, a larger one from the first call on.
Witness `bounded_accumulation_four`: a buffer of four bytes, filled by the third call.
-/
import GpuHealth.PrintBuffer

namespace GpuHealth.BoundedAccumulation

open GpuHealth.Framing GpuHealth.PrintBuffer

/-- the state after each of the calls -/
def AfterEachCall {n : ℕ} (cap : UInt64) (mem : Frame Char n) (texts : List CStr) : Prop :=
  ∀ k ≤ texts.length, ∃ st, bprintfs cap mem (texts.take k) = some st ∧ Accumulated cap mem (texts.take k) st

/-- **Printing is bounded by the buffer and complete up to it.** -/
theorem bounded_accumulation {n : ℕ} {cap : UInt64} (hcap : 1 ≤ cap.toNat) (hfits : cap.toNat ≤ n) (mem : Frame Char n)
    {texts : List CStr} (hok : NoError texts) : AfterEachCall cap mem texts := by
  intro k _
  exact bprintfs_accumulated hcap hfits mem fun text htext => hok text (List.take_subset k texts htext)

/-- "ab", the empty text and "cde" in four bytes -/
theorem bounded_accumulation_four :
    (∀ text ∈ ["ab".toList, [], "cde".toList], text.length ≤ intMax) ∧
    AfterEachCall 4 (⟨"?????".toList, rfl⟩ : Frame Char 5) ["ab".toList, [], "cde".toList] := by
  have hok : ∀ text ∈ ["ab".toList, [], "cde".toList], text.length ≤ intMax := by decide
  exact ⟨hok, bounded_accumulation (by decide) (by decide) _ hok⟩

example : (bprintfs 4 (⟨"?????".toList, rfl⟩ : Frame Char 5) ["ab".toList, [], "cde".toList]).map (·.buf.val) =
    some "abc\x00?".toList := by decide +kernel

end GpuHealth.BoundedAccumulation
