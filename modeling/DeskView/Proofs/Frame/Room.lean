import DeskView.Proofs.Frame.Buffer
import Mathlib.Algebra.GroupWithZero.Nat
import Mathlib.Data.List.Induction

/-!
# Making room

`FrameBuffer.makeRoom` works in words of the machine: it multiplies with a check, and it may ask for more
memory than there is.  What it comes to is said in natural numbers by `makeRoom_cases`, which reduces it to
`FrameBuffer.fit`; on the sizes that an engine can report the two are one (`makeRoom_of_geometry?`).

The main statement is about every buffer that can be reached (`FrameBuffer.run`): room is made exactly if
the frame has its bytes and they fit into a block of memory, and otherwise nothing changes at all
(`makeRoom_all_or_nothing`).
-/

namespace DeskView

/-! ### Products of words -/

theorem Memory.product?_of_lt {m n : UInt64} (h : m.toNat * n.toNat < UInt64.size) :
    ∃ p, product? m n = some p ∧ p.toNat = m.toNat * n.toNat := by
  refine ⟨m * n, if_pos h, ?_⟩
  rw [UInt64.toNat_mul]
  exact Nat.mod_eq_of_lt h

theorem Memory.product?_of_le {m n : UInt64} (h : UInt64.size ≤ m.toNat * n.toNat) :
    product? m n = none := if_neg (Nat.not_lt.mpr h)

namespace FrameBuffer

variable {b b' : FrameBuffer} {g : Geometry} {r : Replaced}

/-- The checked products come to the bytes of the picture, unless these are too many for a word. -/
theorem needed?_cases (b : FrameBuffer) (width height : UInt32) :
    (∃ needed, b.needed? width height = some needed ∧
      needed.toNat = Image.byteLength width height b.format) ∨
    (b.needed? width height = none ∧ UInt64.size ≤ Image.byteLength width height b.format) := by
  -- the pixels can always be counted, since width and height are only half as long as a word
  have hpixels : width.toUInt64.toNat * height.toUInt64.toNat < UInt64.size := by
    rw [UInt32.toNat_toUInt64, UInt32.toNat_toUInt64]
    calc width.toNat * height.toNat
        ≤ (2 ^ 32 - 1) * (2 ^ 32 - 1) :=
          Nat.mul_le_mul (Nat.le_pred_of_lt width.toNat_lt) (Nat.le_pred_of_lt height.toNat_lt)
      _ < UInt64.size := by decide
  obtain ⟨pixels, hproduct, hcount⟩ := Memory.product?_of_lt hpixels
  have hlength : pixels.toNat * (UInt64.ofNat b.format.bytesPerPixel).toNat =
      Image.byteLength width height b.format := by
    have hbytes : (UInt64.ofNat b.format.bytesPerPixel).toNat = b.format.bytesPerPixel := by
      cases b.format <;> rfl
    rw [hcount, hbytes, UInt32.toNat_toUInt64, UInt32.toNat_toUInt64]
    rfl
  have hneeded : b.needed? width height =
      Memory.product? pixels (.ofNat b.format.bytesPerPixel) := by
    unfold needed?
    rw [hproduct]
    rfl
  rw [hneeded, ← hlength]
  by_cases hroom : pixels.toNat * (UInt64.ofNat b.format.bytesPerPixel).toNat < UInt64.size
  · exact .inl (Memory.product?_of_lt hroom)
  · exact .inr ⟨Memory.product?_of_le (Nat.not_lt.mp hroom), Nat.not_lt.mp hroom⟩

/-! ### Making room and fitting -/

/-- What making room comes to: what `fit` comes to, except that it is fatal to ask for a new block of
bytes that is larger than any. -/
theorem makeRoom_cases (b : FrameBuffer) (size : UInt64) (width height : UInt32) :
    (∃ e, b.fit ⟨size.toNat, width, height⟩ = .error e ∧
      b.makeRoom size width height = (.error e, b)) ∨
    (∃ r b', b.fit ⟨size.toNat, width, height⟩ = .ok (r, b') ∧
      ((b.bytes.size ≠ size.toNat ∧ Memory.largestBlock < size.toNat ∧
          b.makeRoom size width height = (.panic, b)) ∨
        ((b.bytes.size = size.toNat ∨ size.toNat ≤ Memory.largestBlock) ∧
          b.makeRoom size width height = (.ok r, b')))) := by
  rcases needed?_cases b width height with ⟨needed, hneeded, hlength⟩ | ⟨hneeded, hlength⟩
  · by_cases hshort : size < needed
    · have hlt : size.toNat < Image.byteLength width height b.format := by
        rw [← hlength]
        exact UInt64.lt_iff_toNat_lt.mp hshort
      have hmin : min (Image.byteLength width height b.format) maxCount = needed.toNat := by
        have := needed.toNat_lt
        unfold maxCount UInt64.size
        omega
      refine .inl ⟨.tooShort needed.toNat size.toNat, ?_, ?_⟩
      · rw [fit_of_lt hlt, hmin]
      · unfold makeRoom
        simp only [hneeded, if_pos hshort]
    · have hle : Image.byteLength width height b.format ≤ size.toNat := by
        rw [← hlength]
        exact Nat.not_lt.mp fun h => hshort (UInt64.lt_iff_toNat_lt.mpr h)
      refine .inr ⟨_, _, fit_of_le hle, ?_⟩
      by_cases hbeyond : b.bytes.size ≠ size.toNat ∧ Memory.largestBlock < size.toNat
      · refine .inl ⟨hbeyond.1, hbeyond.2, ?_⟩
        unfold makeRoom
        simp only [hneeded, if_neg hshort]
        refine if_pos ?_
        simp [Memory.canHold, hbeyond]
      · refine .inr ⟨by omega, ?_⟩
        unfold makeRoom
        simp only [hneeded, if_neg hshort]
        refine if_neg ?_
        simp only [Memory.canHold, Nat.mul_one, Bool.and_eq_true, bne_iff_ne, Bool.not_eq_true',
          decide_eq_false_iff_not, Nat.not_le]
        exact hbeyond
  · -- more bytes are needed than a word can count, so no size is enough
    have hlt : size.toNat < Image.byteLength width height b.format :=
      Nat.lt_of_lt_of_le size.toNat_lt hlength
    have hmin : min (Image.byteLength width height b.format) maxCount = maxCount := by
      unfold maxCount
      omega
    refine .inl ⟨.tooShort maxCount size.toNat, ?_, ?_⟩
    · rw [fit_of_lt hlt, hmin]
    · unfold makeRoom
      simp only [hneeded]

/-- A frame that is reported never asks for too much memory: to make room for it is to fit it. -/
theorem makeRoom_of_geometry? {reported : Reported} (h : reported.geometry? = some g) :
    b.makeRoom (.ofNat g.size) g.width g.height =
      match b.fit g with
      | .ok (r, b') => (.ok r, b')
      | .error e => (.error e, b) := by
  have hsize : g.size < 2 ^ 31 := by
    unfold Reported.geometry? at h
    split at h
    · cases h
      have hmax : reported.size.toInt < 2 ^ 31 := reported.size.toInt_lt
      dsimp only
      omega
    · cases h
  have hword : (UInt64.ofNat g.size).toNat = g.size := by
    apply UInt64.toNat_ofNat_of_lt'
    unfold UInt64.size
    omega
  rcases makeRoom_cases b (.ofNat g.size) g.width g.height with ⟨e, hfit, hmade⟩ |
    ⟨r, b', hfit, ⟨-, hbeyond, -⟩ | ⟨-, hmade⟩⟩ <;> rw [hword] at *
  · rw [hmade, hfit]
  · have hlargest : Memory.largestBlock = 2 ^ 63 - 1 := rfl
    omega
  · rw [hmade, hfit]

/-! ### Using a buffer -/

/-- Something that is done with a frame buffer. -/
inductive Use where
  /-- Room is made for a frame. -/
  | room (size : UInt64) (width height : UInt32)
  /-- A frame is fetched. -/
  | fill (f : Engine.Fetch)
  /-- The frame is staged. -/
  | stage

/-- What a use is answered. -/
inductive Reply where
  | room (outcome : Outcome FrameError Replaced)
  | fill (outcome : Outcome FrameError Unit)
  | stage (result : Except FrameError Image)
deriving DecidableEq

/-- A use: its reply, and the buffer afterwards. -/
def step (b : FrameBuffer) : Use → Reply × FrameBuffer
  | .room size width height =>
    let (outcome, b') := b.makeRoom size width height
    (.room outcome, b')
  | .fill f =>
    let (outcome, b') := b.fill f
    (.fill outcome, b')
  | .stage =>
    match b.stage with
    | .ok (image, b') => (.stage (.ok image), b')
    | .error e => (.stage (.error e), b)

/-- The buffer after some uses. -/
def run (b : FrameBuffer) (uses : List Use) : FrameBuffer := uses.foldl (fun b u => (b.step u).2) b

theorem run_concat (b : FrameBuffer) (uses : List Use) (u : Use) :
    b.run (uses ++ [u]) = ((b.run uses).step u).2 := by
  unfold run
  rw [List.foldl_append, List.foldl_cons, List.foldl_nil]

/-- What every use keeps: a buffer is sound and of its format, and its bytes are in a block of memory. -/
structure InMemory (b : FrameBuffer) (format : PixelFormat) : Prop where
  sound : b.Sound
  format : b.format = format
  capacity : b.bytes.size ≤ Memory.largestBlock

theorem InMemory.room {format : PixelFormat} (h : b.InMemory format) (size : UInt64)
    (width height : UInt32) : (b.makeRoom size width height).2.InMemory format := by
  rcases makeRoom_cases b size width height with ⟨e, -, hmade⟩ |
    ⟨r, b', hfit, ⟨-, -, hmade⟩ | ⟨hroom, hmade⟩⟩ <;> rw [hmade]
  · exact h
  · exact h
  · obtain ⟨hformat, -, -, hsize, -⟩ := fit_spec h.sound hfit
    have hcapacity := h.capacity
    exact ⟨h.sound.fit hfit, hformat.trans h.format, by dsimp only at hsize ⊢; omega⟩

theorem InMemory.step {format : PixelFormat} (h : b.InMemory format) (u : Use) :
    (b.step u).2.InMemory format := by
  cases u with
  | room size width height => exact h.room size width height
  | fill f =>
    refine ⟨h.sound.fill f, (format_fill b f).trans h.format, ?_⟩
    change (b.fill f).2.bytes.size ≤ Memory.largestBlock
    rw [bytes_fill, Engine.Fetch.size_paint]
    exact h.capacity
  | stage =>
    unfold FrameBuffer.step
    dsimp only
    cases hstage : b.stage with
    | error e => exact h
    | ok done =>
      obtain ⟨image, b'⟩ := done
      have hb' := eq_of_stage hstage
      refine ⟨h.sound.stage hstage, (format_stage hstage).trans h.format, ?_⟩
      dsimp only
      rw [hb']
      exact h.capacity

theorem inMemory_run (format : PixelFormat) (uses : List Use) :
    (run { format } uses).InMemory format := by
  induction uses using List.reverseRecOn with
  | nil => exact ⟨sound_new format, rfl, Nat.zero_le _⟩
  | append_singleton uses u ih =>
    rw [run_concat]
    exact ih.step u

/-! ### What is made and what is kept -/

/-- What there is once room was made for a frame, and what of it is new: the bytes exactly if their
number was another, and then no fetch has filled them; the staged image exactly if there was none of
that shape. -/
structure Refitted (b : FrameBuffer) (g : Geometry) (r : Replaced) (b' : FrameBuffer) : Prop where
  format : b'.format = b.format
  capacity : b'.bytes.size = g.size
  width : b'.width = g.width
  height : b'.height = g.height
  bytes : r.bytes = true ↔ b.bytes.size ≠ g.size
  bytes_new : r.bytes = true →
    b'.bytes = Array.replicate g.size 0 ∧ b'.filled = false ∧ b'.generation = b.generation + 1
  bytes_kept : r.bytes = false →
    b'.bytes = b.bytes ∧ b'.filled = b.filled ∧ b'.generation = b.generation
  image : r.image = true ↔
    ∀ image, b.staged = some image → image.width ≠ g.width ∨ image.height ≠ g.height
  image_new : r.image = true → b'.staged = some ⟨g.width, g.height, b.format,
    Array.replicate (g.width.toNat * g.height.toNat * b.format.bytesPerPixel) 0⟩
  image_kept : r.image = false → b'.staged = b.staged

theorem isStagedAs_eq_false_iff {width height : UInt32} :
    b.isStagedAs width height = false ↔
      ∀ image, b.staged = some image → image.width ≠ width ∨ image.height ≠ height := by
  unfold isStagedAs
  cases b.staged with
  | none => simp
  | some image => simp only [Bool.and_eq_false_iff, decide_eq_false_iff_not, Option.some.injEq,
      forall_eq', ne_eq]

theorem refitted_of_fit (h : b.fit g = .ok (r, b')) : b.Refitted g r b' := by
  obtain ⟨-, rfl, rfl⟩ := fit_eq_ok_iff.mp h
  have hbytes : (b.bytes.size != g.size) = true ↔ b.bytes.size ≠ g.size := bne_iff_ne
  have himage : (!b.isStagedAs g.width g.height) = true ↔ b.isStagedAs g.width g.height = false := by
    rw [Bool.not_eq_true']
  -- the staged image is looked at after the bytes were replaced, which it is no part of
  have hstaged : ((b.resize g.size).reshape g.width g.height).staged =
      if b.isStagedAs g.width g.height then b.staged
      else some (.blank g.width g.height b.format) := by
    unfold reshape isStagedAs
    simp only [staged_resize, format_resize]
  constructor
  case format => exact format_resize b g.size
  case capacity => exact size_bytes_resize b g.size
  case width => rfl
  case height => rfl
  case bytes => exact hbytes
  case bytes_new =>
    intro hnew
    have hresize : b.resize g.size = _ := if_neg (hbytes.mp hnew)
    unfold reshape
    rw [hresize]
    exact ⟨rfl, rfl, rfl⟩
  case bytes_kept =>
    intro hkept
    have hsame : b.bytes.size = g.size := by simpa using hkept
    have hresize : b.resize g.size = b := if_pos hsame
    unfold reshape
    rw [hresize]
    exact ⟨rfl, rfl, rfl⟩
  case image => exact himage.trans isStagedAs_eq_false_iff
  case image_new =>
    intro hnew
    rw [hstaged, himage.mp hnew]
    rfl
  case image_kept =>
    intro hkept
    have hsame : b.isStagedAs g.width g.height = true := by simpa using hkept
    rw [hstaged, hsame, if_pos rfl]

/-- A frame that is refused has fewer bytes than it needs, and the error names these or the largest
word. -/
theorem eq_tooShort_of_fit {e : FrameError} (h : b.fit g = .error e) :
    g.size < Image.byteLength g.width g.height b.format ∧
      e = .tooShort
        (if Image.byteLength g.width g.height b.format < 2 ^ 64
          then Image.byteLength g.width g.height b.format else 2 ^ 64 - 1) g.size := by
  have hshort : g.size < Image.byteLength g.width g.height b.format := by
    by_contra hle
    rw [fit_of_le (Nat.not_lt.mp hle)] at h
    cases h
  refine ⟨hshort, ?_⟩
  have hnamed : min (Image.byteLength g.width g.height b.format) maxCount =
      if Image.byteLength g.width g.height b.format < 2 ^ 64
        then Image.byteLength g.width g.height b.format else 2 ^ 64 - 1 := by
    unfold maxCount UInt64.size
    split <;> omega
  rw [fit_of_lt hshort, hnamed] at h
  exact (Except.error.inj h).symm

/-- **Room is made exactly, or nothing is changed.**  Let a frame buffer be used in any way, and then be
asked to make room for any frame.

* Room is made exactly if the frame has as many bytes as its width, height and format need, and a block
  of memory can hold the bytes that it has.
* A frame with fewer bytes is refused, and the error names the bytes that it needs, or the most that can
  be named.
* To ask for more than a block of memory is fatal.
* Neither changes anything; and where room is made, no more is replaced than has to be. -/
theorem makeRoom_all_or_nothing (format : PixelFormat) (uses : List Use) (size : UInt64)
    (width height : UInt32) :
    let b := run { format } uses
    let made := b.makeRoom size width height
    let needed := width.toNat * height.toNat * format.bytesPerPixel
    ((∃ r, made.1 = .ok r) ↔ needed ≤ size.toNat ∧ size.toNat < 2 ^ 63) ∧
    (size.toNat < needed →
      made = (.error (.tooShort (if needed < 2 ^ 64 then needed else 2 ^ 64 - 1) size.toNat), b)) ∧
    (needed ≤ size.toNat → 2 ^ 63 ≤ size.toNat → made = (.panic, b)) ∧
    ∀ r, made.1 = .ok r → b.Refitted ⟨size.toNat, width, height⟩ r made.2 := by
  intro b made needed
  have hb : b.InMemory format := inMemory_run format uses
  have hneeded : needed = Image.byteLength width height b.format := by rw [hb.format]; rfl
  have hcapacity := hb.capacity
  have hlargest : Memory.largestBlock = 2 ^ 63 - 1 := rfl
  rcases makeRoom_cases b size width height with ⟨e, hfit, hmade⟩ |
    ⟨r, b', hfit, ⟨hnew, hbeyond, hmade⟩ | ⟨hroom, hmade⟩⟩ <;>
    rw [show made = _ from hmade]
  · obtain ⟨hshort, he⟩ := eq_tooShort_of_fit hfit
    rw [← hneeded] at hshort he
    dsimp only at hshort he
    refine ⟨⟨?_, ?_⟩, fun _ => by rw [he], ?_, ?_⟩
    · rintro ⟨r, hr⟩
      cases hr
    · rintro ⟨henough, -⟩
      omega
    · intro henough
      omega
    · intro r hr
      cases hr
  · have henough : needed ≤ size.toNat := hneeded ▸ (fit_eq_ok_iff.mp hfit).1
    refine ⟨⟨?_, ?_⟩, ?_, fun _ _ => rfl, ?_⟩
    · rintro ⟨r, hr⟩
      cases hr
    · rintro ⟨-, hsmall⟩
      omega
    · intro hshort
      omega
    · intro r hr
      cases hr
  · have henough : needed ≤ size.toNat := hneeded ▸ (fit_eq_ok_iff.mp hfit).1
    have hsmall : size.toNat < 2 ^ 63 := by omega
    refine ⟨⟨fun _ => ⟨henough, hsmall⟩, fun _ => ⟨r, rfl⟩⟩, ?_, ?_, ?_⟩
    · intro hshort
      omega
    · intro _ hlarge
      omega
    · intro r' hr'
      cases hr'
      exact refitted_of_fit hfit

/-- A fetch that leaves nines everywhere and succeeds. -/
def nines : Engine.Fetch where
  byte _ _ := 9
  outcome := .ok ()

/-- With room for two by two pixels, all nines: fifteen bytes are too few for two by two, sixteen are
kept for four by one, and for one pixel no more bytes can be had than a block of memory holds. -/
theorem makeRoom_all_or_nothing_after_nines :
    let b := run { format := .rgba8 } [.room 16 2 2, .fill nines]
    b.makeRoom 15 2 2 = (.error (.tooShort 16 15), b) ∧
    b.makeRoom 0x8000000000000000 1 1 = (.panic, b) ∧
    (b.makeRoom 16 4 1).1 = .ok ⟨false, true⟩ ∧
    b.Refitted ⟨16, 4, 1⟩ ⟨false, true⟩ (b.makeRoom 16 4 1).2 := by
  have hmade := makeRoom_all_or_nothing .rgba8 [.room 16 2 2, .fill nines]
  have hkept : ((run { format := .rgba8 } [.room 16 2 2, .fill nines]).makeRoom 16 4 1).1 =
      .ok ⟨false, true⟩ := by decide
  have hrefused := (hmade 15 2 2).2.1 (by decide)
  have hfatal := (hmade 0x8000000000000000 1 1).2.2.1 (by decide) (by decide)
  exact ⟨hrefused, hfatal, hkept, (hmade 16 4 1).2.2.2 _ hkept⟩

/-- That the bytes are enough is not all: there is no block of memory for the frame of one pixel that has
two to the sixty-third of them. -/
theorem not_makeRoom_ok_of_enough :
    ¬ ∀ (format : PixelFormat) (uses : List Use) (size : UInt64) (width height : UInt32),
      (∃ r, ((run { format } uses).makeRoom size width height).1 = .ok r) ↔
        width.toNat * height.toNat * format.bytesPerPixel ≤ size.toNat := by
  intro h
  obtain ⟨r, hr⟩ := (h .rgba8 [] 0x8000000000000000 1 1).mpr (by decide)
  have hpanic : ((run { format := .rgba8 } []).makeRoom 0x8000000000000000 1 1).1 = .panic := by decide
  rw [hpanic] at hr
  cases hr

end FrameBuffer

end DeskView
