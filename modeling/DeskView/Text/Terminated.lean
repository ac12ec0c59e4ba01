/-!
# Texts that end at a zero

A foreign function is handed only the place at which a text begins, and reads bytes from there up to
the first zero.  `Terminated` is a text as it is handed over: its bytes with no zero among them, and a
zero after them (`Terminated.block`).  A text with a zero inside has no such form
(`Terminated.ofString?`), for it would be read as a shorter one.
-/

namespace DeskView.Text

/-- Only the NUL is encoded with a zero: where a character takes several bytes, each has a bit set. -/
theorem zero_mem_utf8EncodeChar_iff {c : Char} : 0 ∈ String.utf8EncodeChar c ↔ c = '\x00' := by
  have hset : ∀ {x k : UInt8}, k ≠ 0 → 0 ≠ x ||| k := fun hk h => hk (UInt8.or_eq_zero_iff.mp h.symm).2
  refine ⟨fun hmem => ?_, ?_⟩
  · rcases c.utf8Size_eq with hsize | hsize | hsize | hsize
    · rw [String.utf8EncodeChar_eq_singleton hsize, List.mem_singleton] at hmem
      have hval : c.val.toNat ≤ 127 := Char.utf8Size_eq_one_iff.mp hsize
      have hzero : 0 = c.val.toNat % 256 := congrArg UInt8.toNat hmem
      exact Char.ext (UInt32.toNat_inj.mp (show c.val.toNat = 0 by omega))
    · simp [String.utf8EncodeChar_eq_cons_cons hsize, hset] at hmem
    · simp [String.utf8EncodeChar_eq_cons_cons_cons hsize, hset] at hmem
    · simp [String.utf8EncodeChar_eq_cons_cons_cons_cons hsize, hset] at hmem
  · rintro rfl
    decide

/-- The encoded text has a zero exactly if the text has a NUL. -/
theorem zero_mem_toUTF8_iff {s : String} : 0 ∈ s.toUTF8.data.toList ↔ '\x00' ∈ s.toList := by
  have hbytes : s.toUTF8.data.toList = s.toList.flatMap String.utf8EncodeChar := by
    rw [String.toUTF8, ← String.utf8Encode_toList, List.utf8Encode, List.toList_data_toByteArray]
  rw [hbytes, List.mem_flatMap]
  simp [zero_mem_utf8EncodeChar_iff]

/-- The bytes of a text, none of them zero, so that a zero can end it. -/
structure Terminated where
  bytes : List UInt8
  zero_notMem : 0 ∉ bytes
deriving Repr, DecidableEq

namespace Terminated

/-- The encoded text, unless it has a zero inside. -/
def ofString? (s : String) : Option Terminated :=
  if h : 0 ∈ s.toUTF8.data.toList then none else some ⟨s.toUTF8.data.toList, h⟩

/-- What is written to memory: the bytes, and the zero that ends them. -/
def block (t : Terminated) : List UInt8 := t.bytes ++ [0]

/-- What is read from memory at a place where a text begins: all bytes up to the first zero. -/
def read (memory : List UInt8) : List UInt8 := memory.takeWhile (· ≠ 0)

/-- Whatever lies beyond the zero, the bytes are what is read. -/
theorem read_block_append (t : Terminated) (beyond : List UInt8) :
    read (t.block ++ beyond) = t.bytes := by
  have hbytes : ∀ b ∈ t.bytes, decide (b ≠ 0) = true := fun b hb =>
    decide_eq_true fun hzero => t.zero_notMem (hzero ▸ hb)
  rw [block, List.append_assoc, read, List.takeWhile_append_of_pos hbytes, List.singleton_append,
    List.takeWhile_cons_of_neg (by decide), List.append_nil]

/-- Whatever lies beyond its zero, a text is read as the bytes of `s`. -/
def Reads (t : Terminated) (s : String) : Prop :=
  ∀ beyond : List UInt8, read (t.block ++ beyond) = s.toUTF8.data.toList

theorem ofString?_eq_none_iff {s : String} : ofString? s = none ↔ '\x00' ∈ s.toList := by
  rw [← zero_mem_toUTF8_iff]
  unfold ofString?
  split
  · exact iff_of_true rfl ‹_›
  · exact iff_of_false (by simp) ‹_›

theorem reads_of_ofString? {s : String} {t : Terminated} (h : ofString? s = some t) : t.Reads s := by
  unfold ofString? at h
  split at h
  · cases h
  · cases h
    exact read_block_append _

end Terminated

end DeskView.Text
