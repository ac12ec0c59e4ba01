import DeskView.Frame.Image

/-!
# Pixels of four bytes

The pixels that some bytes make up, four bytes to a pixel.  Bytes without a partial pixel at the end are
determined by their pixels (`eq_of_pixelBytes_eq`).
-/

namespace DeskView

/-- The bytes of pixel number `p`. -/
def pixelBytes (bytes : Array UInt8) (p : Nat) : Array UInt8 := bytes.extract (p * 4) (p * 4 + 4)

/-- The whole pixels of some bytes, in their order. -/
def wholePixels (bytes : Array UInt8) : List (Array UInt8) :=
  (List.range (bytes.size / 4)).map (pixelBytes bytes)

variable {bytes bytes' pixel : Array UInt8} {n p : Nat}

/-- A whole pixel, byte by byte. -/
theorem pixelBytes_eq_getD (h : p * 4 + 4 ≤ bytes.size) :
    pixelBytes bytes p = #[bytes.getD (p * 4 + 0) 0, bytes.getD (p * 4 + 1) 0,
      bytes.getD (p * 4 + 2) 0, bytes.getD (p * 4 + 3) 0] := by
  unfold pixelBytes
  apply Array.ext
  · rw [Array.size_extract]
    simp only [List.size_toArray, List.length_cons, List.length_nil]
    omega
  · intro k hk hk'
    rw [Array.getElem_extract]
    obtain rfl | rfl | rfl | rfl : k = 0 ∨ k = 1 ∨ k = 2 ∨ k = 3 := by
      simp only [List.size_toArray, List.length_cons, List.length_nil] at hk'
      omega
    all_goals exact Array.getElem_eq_getD 0

theorem exists_pixelBytes_eq (h : p < bytes.size / 4) :
    ∃ b₀ b₁ b₂ b₃, pixelBytes bytes p = #[b₀, b₁, b₂, b₃] :=
  ⟨_, _, _, _, pixelBytes_eq_getD (by omega)⟩

/-- Bytes are determined by the pixels that they make up. -/
theorem eq_of_pixelBytes_eq (h : bytes.size = n * 4) (h' : bytes'.size = n * 4)
    (heq : ∀ p, p < n → pixelBytes bytes p = pixelBytes bytes' p) : bytes = bytes' := by
  refine Array.ext (h.trans h'.symm) fun i hi hi' => ?_
  have hbyte := congrArg (·[i % 4]?) (heq (i / 4) (by omega))
  unfold pixelBytes at hbyte
  rw [Array.getElem?_extract_of_lt (by omega), Array.getElem?_extract_of_lt (by omega)] at hbyte
  simpa only [Nat.div_add_mod', Option.some.injEq] using hbyte

/-- Bytes without the end of them still have the pixels before it. -/
theorem pixelBytes_extract (h : p < n) (bytes : Array UInt8) :
    pixelBytes (bytes.extract 0 (n * 4)) p = pixelBytes bytes p := by
  unfold pixelBytes
  rw [Array.extract_extract, Nat.zero_add, Nat.zero_add, Nat.min_eq_left (by omega)]

theorem pixelBytes_append_of_le (h : p * 4 + 4 ≤ bytes.size) (rest : Array UInt8) :
    pixelBytes (bytes ++ rest) p = pixelBytes bytes p := by
  have hrest : rest.extract (p * 4 - bytes.size) (p * 4 + 4 - bytes.size) = #[] :=
    Array.extract_eq_empty_of_le (by omega)
  unfold pixelBytes
  rw [Array.extract_append, hrest, Array.append_empty]

theorem pixelBytes_append_self (h : bytes.size = p * 4) (hpixel : pixel.size = 4) :
    pixelBytes (bytes ++ pixel) p = pixel := by
  unfold pixelBytes
  rw [← h, Array.extract_append_right, ← hpixel, Array.extract_size]

end DeskView
