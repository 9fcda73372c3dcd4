import BitcoinKeys.Bytes

/-!
# Blocks and 32-bit words

Both hash functions pad a message to whole blocks of 64 bytes: a one bit, zero bits, and the number
of message bits in the last 8 bytes. They differ in the byte order of lengths and words.
-/

namespace BitcoinKeys.Hash

def blockLength : Nat := 64

/-- Cuts a list into runs of `size` elements; the last run may be shorter. -/
def runs {α : Type} (size : Nat) (positive : 0 < size) (list : List α) : List (List α) :=
  if list.isEmpty then []
  else list.take size :: runs size positive (list.drop size)
termination_by list.length
decreasing_by
  cases list with
  | nil => contradiction
  | cons head tail => simp only [List.length_drop, List.length_cons]; omega

/-- The padded message, in blocks, where `writeLength` gives the 8 bytes of the message length. -/
def paddedBlocks (writeLength : Nat → Bytes) (message : Bytes) : List Bytes :=
  let zeros := (119 - message.length % blockLength) % blockLength
  runs blockLength (by decide)
    (message ++ 0x80 :: List.replicate zeros 0 ++ writeLength (8 * message.length))

def bigEndianWords : Bytes → List UInt32
  | first :: second :: third :: fourth :: rest =>
      (first.toUInt32 <<< 24 ||| second.toUInt32 <<< 16 ||| third.toUInt32 <<< 8 |||
        fourth.toUInt32) :: bigEndianWords rest
  | _ => []

def littleEndianWords : Bytes → List UInt32
  | first :: second :: third :: fourth :: rest =>
      (first.toUInt32 ||| second.toUInt32 <<< 8 ||| third.toUInt32 <<< 16 |||
        fourth.toUInt32 <<< 24) :: littleEndianWords rest
  | _ => []

def bigEndianBytes (word : UInt32) : Bytes :=
  [(word >>> 24).toUInt8, (word >>> 16).toUInt8, (word >>> 8).toUInt8, word.toUInt8]

def littleEndianBytes (word : UInt32) : Bytes :=
  [word.toUInt8, (word >>> 8).toUInt8, (word >>> 16).toUInt8, (word >>> 24).toUInt8]

/-- The word turned left by `count` bits, where `count` is between 1 and 31. -/
def rotateLeft (word count : UInt32) : UInt32 :=
  word <<< count ||| word >>> (32 - count)

/-- The word turned right by `count` bits, where `count` is between 1 and 31. -/
def rotateRight (word count : UInt32) : UInt32 :=
  word >>> count ||| word <<< (32 - count)

end BitcoinKeys.Hash
