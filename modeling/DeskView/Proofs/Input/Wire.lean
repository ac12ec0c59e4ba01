import DeskView.Input.Wire
import Mathlib.Tactic.IntervalCases

/-!
# Events and their bytes

`InputEvent.CarriedBy` says what it means for some bytes to carry an event, field by field: where each
field stands, how many bytes it has, and that the lowest of them comes first.  Writing gives twenty
bytes that carry the event, reading gives the event that the bytes carry; and since an event leaves none
of its twenty bytes open, the two undo each other (`InputEvent.wire_round_trips`).
-/

namespace DeskView

/-! ### Numbers in a fixed number of bytes -/

@[simp]
theorem length_littleEndian (n value : Nat) : (littleEndian n value).length = n := by
  induction n generalizing value with
  | zero => rfl
  | succ n ih => rw [littleEndian, List.length_cons, ih]

theorem ofLittleEndian_lt (bytes : List UInt8) : ofLittleEndian bytes < 256 ^ bytes.length := by
  induction bytes with
  | nil => exact Nat.one_pos
  | cons b rest ih =>
    have hb : b.toNat < 256 := b.toNat_lt
    rw [ofLittleEndian, List.length_cons, Nat.pow_succ']
    omega

theorem ofLittleEndian_littleEndian (n value : Nat) :
    ofLittleEndian (littleEndian n value) = value % 256 ^ n := by
  induction n generalizing value with
  | zero =>
    rw [Nat.pow_zero, Nat.mod_one]
    rfl
  | succ n ih =>
    have hfirst : (UInt8.ofNat value).toNat = value % 256 := UInt8.toNat_ofNat'
    rw [littleEndian, ofLittleEndian, ih, hfirst, Nat.pow_succ', Nat.mod_mul]

theorem littleEndian_ofLittleEndian (bytes : List UInt8) :
    littleEndian bytes.length (ofLittleEndian bytes) = bytes := by
  induction bytes with
  | nil => rfl
  | cons b rest ih =>
    have hb : b.toNat < 256 := b.toNat_lt
    have hrest : (b.toNat + 256 * ofLittleEndian rest) / 256 = ofLittleEndian rest := by omega
    have hfirst : UInt8.ofNat (b.toNat + 256 * ofLittleEndian rest) = b := by
      apply UInt8.toNat_inj.mp
      rw [UInt8.toNat_ofNat']
      omega
    rw [List.length_cons, ofLittleEndian, littleEndian, hrest, hfirst, ih]

/-- The number in the `n` bytes from a place on. -/
def numberAt (place n : Nat) (bytes : List UInt8) : Nat := ofLittleEndian ((bytes.drop place).take n)

theorem numberAt_lt (place n : Nat) (bytes : List UInt8) : numberAt place n bytes < 256 ^ n := by
  have hlength : ((bytes.drop place).take n).length ≤ n := List.length_take_le n _
  calc numberAt place n bytes
      < 256 ^ ((bytes.drop place).take n).length := ofLittleEndian_lt _
    _ ≤ 256 ^ n := Nat.pow_le_pow_right (by omega) hlength

/-- Of bytes that begin with a number in `n` bytes, these give the number back. -/
theorem numberAt_zero_append {n value : Nat} (h : value < 256 ^ n) (rest : List UInt8) :
    numberAt 0 n (littleEndian n value ++ rest) = value := by
  unfold numberAt
  rw [List.drop_zero, List.take_left' (length_littleEndian n value), ofLittleEndian_littleEndian,
    Nat.mod_eq_of_lt h]

/-- What stands behind a number in `m` bytes stands `m` places further on. -/
theorem numberAt_add_append (m place n value : Nat) (rest : List UInt8) :
    numberAt (m + place) n (littleEndian m value ++ rest) = numberAt place n rest := by
  unfold numberAt
  rw [← List.drop_drop, List.drop_left' (length_littleEndian m value)]

/-- Bytes are those of the number that they make. -/
theorem littleEndian_numberAt {place n : Nat} {bytes : List UInt8} (h : place + n ≤ bytes.length) :
    littleEndian n (numberAt place n bytes) = (bytes.drop place).take n := by
  have hlength : ((bytes.drop place).take n).length = n := by
    rw [List.length_take, List.length_drop]
    omega
  calc littleEndian n (numberAt place n bytes)
      = littleEndian ((bytes.drop place).take n).length (numberAt place n bytes) := by rw [hlength]
    _ = (bytes.drop place).take n := littleEndian_ofLittleEndian _

/-! ### Actions -/

namespace PointerAction

theorem number_le (a : PointerAction) : a.number ≤ 4 := by
  cases a <;> decide

theorem ofNumber?_number (a : PointerAction) : ofNumber? a.number = some a := by
  cases a <;> rfl

/-- The numbers up to four are the actions' own. -/
theorem exists_number_eq {n : Nat} (h : n ≤ 4) : ∃ a : PointerAction, a.number = n := by
  interval_cases n
  · exact ⟨.down, rfl⟩
  · exact ⟨.up, rfl⟩
  · exact ⟨.move, rfl⟩
  · exact ⟨.cancel, rfl⟩
  · exact ⟨.scroll, rfl⟩

theorem ofNumber?_eq_none {n : Nat} (h : 4 < n) : ofNumber? n = none := by
  match n with
  | n + 5 => rfl

end PointerAction

namespace InputEvent

/-! ### Events -/

/-- Some bytes carry an event: its action and its position in four bytes each, its time in eight. -/
structure CarriedBy (e : InputEvent) (bytes : List UInt8) : Prop where
  length : 20 ≤ bytes.length
  action : numberAt 0 4 bytes = e.action.number
  x : numberAt 4 4 bytes = e.x.bits.toNat
  y : numberAt 8 4 bytes = e.y.bits.toNat
  time : numberAt 12 8 bytes = e.time.toNat

@[simp]
theorem length_encode (e : InputEvent) : e.encode.length = 20 := by
  simp [encode]

/-- An event is carried by its own bytes, whatever follows them. -/
theorem carriedBy_encode (e : InputEvent) (rest : List UInt8) : e.CarriedBy (e.encode ++ rest) := by
  have haction : e.action.number < 256 ^ 4 := by
    have := e.action.number_le
    omega
  have hx : e.x.bits.toNat < 256 ^ 4 := e.x.bits.toNat_lt
  have hy : e.y.bits.toNat < 256 ^ 4 := e.y.bits.toNat_lt
  have htime : e.time.toNat < 256 ^ 8 := e.time.toNat_lt
  have hlength : 20 ≤ (e.encode ++ rest).length := by
    rw [List.length_append, length_encode]
    omega
  refine ⟨hlength, ?_, ?_, ?_, ?_⟩ <;> unfold encode <;> simp only [List.append_assoc]
  · exact numberAt_zero_append haction _
  · rw [numberAt_add_append 4 0]
    exact numberAt_zero_append hx _
  · rw [numberAt_add_append 4 4, numberAt_add_append 4 0]
    exact numberAt_zero_append hy _
  · rw [numberAt_add_append 4 8, numberAt_add_append 4 4, numberAt_add_append 4 0]
    exact numberAt_zero_append htime _

/-- The bytes that carry an event begin with those that it is written in. -/
theorem CarriedBy.take_eq {e : InputEvent} {bytes : List UInt8} (h : e.CarriedBy bytes) :
    bytes.take 20 = e.encode := by
  have hlength := h.length
  calc bytes.take 20
      = bytes.take 4 ++ (bytes.drop 4).take 4 ++ (bytes.drop 8).take 4 ++ (bytes.drop 12).take 8 := by
        rw [← List.take_add, ← List.take_add, ← List.take_add]
    _ = littleEndian 4 (numberAt 0 4 bytes) ++ littleEndian 4 (numberAt 4 4 bytes) ++
          littleEndian 4 (numberAt 8 4 bytes) ++ littleEndian 8 (numberAt 12 8 bytes) := by
        rw [littleEndian_numberAt (by omega), littleEndian_numberAt (by omega),
          littleEndian_numberAt (by omega), littleEndian_numberAt (by omega), List.drop_zero]
    _ = e.encode := by
        rw [h.action, h.x, h.y, h.time]
        rfl

/-! ### Reading -/

theorem takeNumber_of_le {n : Nat} {bytes : List UInt8} (h : n ≤ bytes.length) :
    takeNumber n bytes = .ok (numberAt 0 n bytes, bytes.drop n) := by
  unfold takeNumber
  exact if_neg (by omega)

theorem takeNumber_of_lt {n : Nat} {bytes : List UInt8} (h : bytes.length < n) :
    takeNumber n bytes = .error .ended := by
  unfold takeNumber
  exact if_pos h

/-- The part of reading that is left once the bytes are known to be enough. -/
theorem decode_of_le {bytes : List UInt8} (h : 20 ≤ bytes.length) :
    decode bytes = match PointerAction.ofNumber? (numberAt 0 4 bytes) with
      | some action => .ok ⟨action, ⟨.ofNat (numberAt 4 4 bytes)⟩, ⟨.ofNat (numberAt 8 4 bytes)⟩,
          .ofNat (numberAt 12 8 bytes)⟩
      | none => .error (.action (numberAt 0 4 bytes)) := by
  have hplace : ∀ m n, m + n ≤ 20 →
      takeNumber n (bytes.drop m) = .ok (numberAt m n bytes, bytes.drop (m + n)) := by
    intro m n hmn
    rw [takeNumber_of_le (by rw [List.length_drop]; omega), List.drop_drop]
    rfl
  have h0 := hplace 0 4 (by omega)
  have h4 := hplace 4 4 (by omega)
  have h8 := hplace 8 4 (by omega)
  have h12 := hplace 12 8 (by omega)
  rw [List.drop_zero] at h0
  unfold decode
  rw [h0]
  dsimp only [bind, Except.bind, Nat.reduceAdd]
  cases PointerAction.ofNumber? (numberAt 0 4 bytes) with
  | none => rfl
  | some action =>
    dsimp only
    rw [h4]
    dsimp only [Nat.reduceAdd]
    rw [h8]
    dsimp only [Nat.reduceAdd]
    rw [h12]
    rfl

theorem exists_of_bind_eq_ok {ε α β : Type} {x : Except ε α} {f : α → Except ε β} {b : β}
    (h : x >>= f = .ok b) : ∃ a, x = .ok a ∧ f a = .ok b := by
  cases x with
  | error e => cases h
  | ok a => exact ⟨a, rfl, h⟩

theorem length_of_takeNumber {n value : Nat} {bytes rest : List UInt8}
    (h : takeNumber n bytes = .ok (value, rest)) : bytes.length = n + rest.length := by
  by_cases hn : n ≤ bytes.length
  · rw [takeNumber_of_le hn] at h
    cases h
    rw [List.length_drop]
    omega
  · rw [takeNumber_of_lt (by omega)] at h
    cases h

/-- An event is read from twenty bytes or more. -/
theorem le_length_of_decode {bytes : List UInt8} {e : InputEvent} (h : decode bytes = .ok e) :
    20 ≤ bytes.length := by
  obtain ⟨⟨number, rest⟩, hnumber, h⟩ := exists_of_bind_eq_ok h
  dsimp only at h
  split at h
  · obtain ⟨⟨x, rest'⟩, hx, h⟩ := exists_of_bind_eq_ok h
    obtain ⟨⟨y, rest''⟩, hy, h⟩ := exists_of_bind_eq_ok h
    obtain ⟨⟨time, last⟩, htime, -⟩ := exists_of_bind_eq_ok h
    have hfirst : bytes.length = 4 + rest.length := length_of_takeNumber hnumber
    have hsecond : rest.length = 4 + rest'.length := length_of_takeNumber hx
    have hthird : rest'.length = 4 + rest''.length := length_of_takeNumber hy
    have hfourth : rest''.length = 8 + last.length := length_of_takeNumber htime
    omega
  · cases h

/-- Bytes are an event exactly when there are twenty of them and the first four are the number of an
action. -/
theorem exists_decode_iff {bytes : List UInt8} :
    (∃ e, decode bytes = .ok e) ↔ 20 ≤ bytes.length ∧ numberAt 0 4 bytes ≤ 4 := by
  constructor
  · rintro ⟨e, h⟩
    have hlength := le_length_of_decode h
    refine ⟨hlength, ?_⟩
    rw [decode_of_le hlength] at h
    by_contra hnumber
    rw [PointerAction.ofNumber?_eq_none (by omega)] at h
    cases h
  · rintro ⟨hlength, hnumber⟩
    obtain ⟨action, haction⟩ := PointerAction.exists_number_eq hnumber
    rw [decode_of_le hlength, ← haction, action.ofNumber?_number]
    exact ⟨_, rfl⟩

/-- Bytes that carry an event are read as that event. -/
theorem CarriedBy.decode_eq {e : InputEvent} {bytes : List UInt8} (h : e.CarriedBy bytes) :
    decode bytes = .ok e := by
  have hx : UInt32.ofNat (numberAt 4 4 bytes) = e.x.bits := by
    rw [h.x, UInt32.ofNat_toNat]
  have hy : UInt32.ofNat (numberAt 8 4 bytes) = e.y.bits := by
    rw [h.y, UInt32.ofNat_toNat]
  have htime : UInt64.ofNat (numberAt 12 8 bytes) = e.time := by
    rw [h.time, UInt64.ofNat_toNat]
  rw [decode_of_le h.length, h.action, e.action.ofNumber?_number, hx, hy, htime]

/-- What is read from some bytes is carried by them. -/
theorem carriedBy_of_decode {bytes : List UInt8} {e : InputEvent} (h : decode bytes = .ok e) :
    e.CarriedBy bytes := by
  have hlength := le_length_of_decode h
  obtain ⟨action, haction⟩ := PointerAction.exists_number_eq (exists_decode_iff.mp ⟨e, h⟩).2
  rw [decode_of_le hlength, ← haction, action.ofNumber?_number] at h
  cases h
  refine ⟨hlength, haction.symm, ?_, ?_, ?_⟩
  · exact (UInt32.toNat_ofNat_of_lt' (numberAt_lt 4 4 bytes)).symm
  · exact (UInt32.toNat_ofNat_of_lt' (numberAt_lt 8 4 bytes)).symm
  · exact (UInt64.toNat_ofNat_of_lt' (numberAt_lt 12 8 bytes)).symm

/-- **Writing and reading an event undo each other.**

* An event is written in twenty bytes.  They carry it, with all bits of its position and over the whole
  range of its time, and it is read from them whatever follows.
* Bytes are read as an event exactly when there are at least twenty and the first four are a number up
  to four.
* The event that is read is carried by the bytes, and it is written as the first twenty of them.
* Different events are written differently. -/
theorem wire_round_trips :
    (∀ e : InputEvent, e.encode.length = 20 ∧
      ∀ rest, e.CarriedBy (e.encode ++ rest) ∧ decode (e.encode ++ rest) = .ok e) ∧
    (∀ bytes, (∃ e, decode bytes = .ok e) ↔ 20 ≤ bytes.length ∧ numberAt 0 4 bytes ≤ 4) ∧
    (∀ bytes e, decode bytes = .ok e → e.CarriedBy bytes ∧ e.encode = bytes.take 20) ∧
    ∀ e e' : InputEvent, e.encode = e'.encode → e = e' := by
  refine ⟨fun e => ⟨length_encode e, fun rest => ?_⟩, fun bytes => exists_decode_iff, ?_, ?_⟩
  · have hcarried := carriedBy_encode e rest
    exact ⟨hcarried, hcarried.decode_eq⟩
  · intro bytes e h
    have hcarried := carriedBy_of_decode h
    exact ⟨hcarried, hcarried.take_eq.symm⟩
  · intro e e' h
    have he : decode (e.encode ++ []) = .ok e := (carriedBy_encode e []).decode_eq
    have he' : decode (e'.encode ++ []) = .ok e' := (carriedBy_encode e' []).decode_eq
    rw [h, he'] at he
    exact (Except.ok.inj he).symm

/-- A cancelled gesture at negative zero and at a pattern that is no number, at the last moment there is,
and one byte more. -/
def extreme : List UInt8 :=
  [3, 0, 0, 0, 0, 0, 0, 0x80, 1, 0, 0x80, 0x7f, 255, 255, 255, 255, 255, 255, 255, 255, 1]

/-- It is read with the bits of its position, and written as it was without the last byte. -/
theorem wire_round_trips_of_extreme :
    ∃ e, decode extreme = .ok e ∧ e.CarriedBy extreme ∧ e.encode = extreme.take 20 ∧
      e.x = ⟨0x80000000⟩ ∧ e.y = ⟨0x7f800001⟩ := by
  obtain ⟨e, he⟩ := (wire_round_trips.2.1 extreme).mpr (by decide)
  obtain ⟨hcarried, hencode⟩ := wire_round_trips.2.2.1 extreme e he
  have hx : e.x.bits.toNat = 0x80000000 := hcarried.x.symm
  have hy : e.y.bits.toNat = 0x7f800001 := hcarried.y.symm
  exact ⟨e, he, hcarried, hencode, congrArg Single.mk (UInt32.toNat_inj.mp hx),
    congrArg Single.mk (UInt32.toNat_inj.mp hy)⟩

end InputEvent

end DeskView
