import SecureUpdate.Bytes

/-!
What the digests share: a message is padded to whole blocks and cut into them. Main statement:
`flatten_blocks`, the blocks of a list join up to that list.
-/

namespace SecureUpdate.Hash

/-- Cuts a list into blocks of `size` items; the last may be shorter. -/
def blocks {α : Type} (size : Nat) (xs : List α) : List (List α) :=
  if xs = [] ∨ size = 0 then [] else xs.take size :: blocks size (xs.drop size)
termination_by xs.length
decreasing_by
  rename_i h
  have : xs.length ≠ 0 := fun e => h (.inl (List.length_eq_zero_iff.1 e))
  have : size ≠ 0 := fun e => h (.inr e)
  simp only [List.length_drop]
  omega

/-- The low `width` bytes of a number, the highest first. -/
def bigEndian (width n : Nat) : Bytes :=
  (List.range width).reverse.map fun i => UInt8.ofNat (n >>> (8 * i))

/-- A message followed by a one bit, zero bits up to whole blocks, and its length in bits, which
takes the last `lengthSize` bytes. -/
def pad (blockSize lengthSize : Nat) (message : Bytes) : Bytes :=
  let used := message.length + 1 + lengthSize
  let zeros := (blockSize - used % blockSize) % blockSize
  message ++ 0x80 :: (List.replicate zeros 0 ++ bigEndian lengthSize (8 * message.length))

theorem flatten_blocks {α : Type} (size : Nat) (h : size ≠ 0) (xs : List α) :
    (blocks size xs).flatten = xs := by
  fun_induction blocks size xs with
  | case1 xs hxs =>
    rcases hxs with rfl | hs
    · rfl
    · exact absurd hs h
  | case2 xs _ ih => rw [List.flatten_cons, ih, List.take_append_drop]

end SecureUpdate.Hash
