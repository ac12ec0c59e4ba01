/-!
# Blocks of memory

Bytes that belong together are kept in one block of memory.  The places in a block are counted by
signed words of 64 bits, so there is a largest block; to ask for more than that is fatal.  Sizes are
multiplied in unsigned words, and a product that is too large for a word is noticed (`product?`).
-/

namespace DeskView.Memory

/-- The most bytes that a block can have. -/
def largestBlock : Nat := Nat.pow 2 63 - 1

/-- Whether `count` things of `size` bytes each can be kept in one block. -/
def canHold (count size : Nat) : Bool := count * size ≤ largestBlock

/-- The product of two words, unless it is too large for a word. -/
def product? (m n : UInt64) : Option UInt64 :=
  if m.toNat * n.toNat < UInt64.size then some (m * n) else none

end DeskView.Memory
