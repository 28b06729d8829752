/-!
# SHA-256

The digest of a byte string has 32 bytes.  The message is padded to whole blocks of 64
bytes, and each block updates a state of eight words in 64 rounds.
-/

namespace Collocation
namespace Sha256

/-- The state between two blocks. -/
structure State where
  a : UInt32
  b : UInt32
  c : UInt32
  d : UInt32
  e : UInt32
  f : UInt32
  g : UInt32
  h : UInt32
  deriving DecidableEq

/-- The state before the first block. -/
def State.initial : State :=
  ⟨0x6a09e667, 0xbb67ae85, 0x3c6ef372, 0xa54ff53a, 0x510e527f, 0x9b05688c, 0x1f83d9ab, 0x5be0cd19⟩

/-- The words added in the rounds. -/
def constants : List UInt32 :=
  [0x428a2f98, 0x71374491, 0xb5c0fbcf, 0xe9b5dba5, 0x3956c25b, 0x59f111f1, 0x923f82a4, 0xab1c5ed5,
   0xd807aa98, 0x12835b01, 0x243185be, 0x550c7dc3, 0x72be5d74, 0x80deb1fe, 0x9bdc06a7, 0xc19bf174,
   0xe49b69c1, 0xefbe4786, 0x0fc19dc6, 0x240ca1cc, 0x2de92c6f, 0x4a7484aa, 0x5cb0a9dc, 0x76f988da,
   0x983e5152, 0xa831c66d, 0xb00327c8, 0xbf597fc7, 0xc6e00bf3, 0xd5a79147, 0x06ca6351, 0x14292967,
   0x27b70a85, 0x2e1b2138, 0x4d2c6dfc, 0x53380d13, 0x650a7354, 0x766a0abb, 0x81c2c92e, 0x92722c85,
   0xa2bfe8a1, 0xa81a664b, 0xc24b8b70, 0xc76c51a3, 0xd192e819, 0xd6990624, 0xf40e3585, 0x106aa070,
   0x19a4c116, 0x1e376c08, 0x2748774c, 0x34b0bcb5, 0x391c0cb3, 0x4ed8aa4a, 0x5b9cca4f, 0x682e6ff3,
   0x748f82ee, 0x78a5636f, 0x84c87814, 0x8cc70208, 0x90befffa, 0xa4506ceb, 0xbef9a3f7, 0xc67178f2]

/-- A word rotated to the right. -/
def rotate (word amount : UInt32) : UInt32 :=
  (word >>> amount) ||| (word <<< (32 - amount))

/-- A word of four bytes, the most significant first. -/
def wordOf (bytes : List UInt8) : UInt32 :=
  bytes.foldl (fun word byte => (word <<< 8) ||| byte.toUInt32) 0

/-- The four bytes of a word, the most significant first. -/
def bytesOf (word : UInt32) : List UInt8 :=
  [(word >>> 24).toUInt8, (word >>> 16).toUInt8, (word >>> 8).toUInt8, word.toUInt8]

/-- The bytes cut into pieces of a size, a shorter one at the end. -/
def pieces (size : Nat) : Nat → List UInt8 → List (List UInt8)
  | 0, _ => []
  | count + 1, bytes => bytes.take size :: pieces size count (bytes.drop size)

/-- The message with a one bit, zeros, and its length in bits, up to whole blocks. -/
def padded (message : List UInt8) : List UInt8 :=
  let length := message.length
  let zeros := (119 - length % 64) % 64
  message ++ 0x80 :: List.replicate zeros 0 ++
    bytesOf (UInt32.ofNat (8 * length / 0x100000000)) ++ bytesOf (UInt32.ofNat (8 * length))

/-- The word that follows sixteen words of the schedule, the latest first. -/
def nextWord (recent : List UInt32) : UInt32 :=
  let word := fun back => recent.getD (back - 1) 0
  let near := word 2
  let far := word 15
  (rotate near 17 ^^^ rotate near 19 ^^^ (near >>> 10)) + word 7 +
    (rotate far 7 ^^^ rotate far 18 ^^^ (far >>> 3)) + word 16

/-- So many more words of the schedule, the latest first. -/
def extend : Nat → List UInt32 → List UInt32
  | 0, recent => recent
  | count + 1, recent => extend count (nextWord recent :: recent)

/-- The 64 words of a block. -/
def schedule (block : List UInt8) : List UInt32 :=
  (extend 48 ((pieces 4 16 block).map wordOf).reverse).reverse

/-- One round. -/
def round (state : State) (input : UInt32 × UInt32) : State :=
  let spread := rotate state.e 6 ^^^ rotate state.e 11 ^^^ rotate state.e 25
  let choice := (state.e &&& state.f) ^^^ (~~~state.e &&& state.g)
  let mixed := state.h + spread + choice + input.1 + input.2
  let spin := rotate state.a 2 ^^^ rotate state.a 13 ^^^ rotate state.a 22
  let majority := (state.a &&& state.b) ^^^ (state.a &&& state.c) ^^^ (state.b &&& state.c)
  ⟨mixed + spin + majority, state.a, state.b, state.c, state.d + mixed, state.e, state.f, state.g⟩

/-- The state after a block. -/
def compress (state : State) (block : List UInt8) : State :=
  let after := (constants.zip (schedule block)).foldl round state
  ⟨state.a + after.a, state.b + after.b, state.c + after.c, state.d + after.d,
   state.e + after.e, state.f + after.f, state.g + after.g, state.h + after.h⟩

/-- The 32 bytes of a state. -/
def State.bytes (state : State) : List UInt8 :=
  [state.a, state.b, state.c, state.d, state.e, state.f, state.g, state.h].flatMap bytesOf

/-- The digest of a message. -/
def digest (message : List UInt8) : List UInt8 :=
  let blocks := pieces 64 ((message.length + 72) / 64) (padded message)
  (blocks.foldl compress State.initial).bytes

/-- A digest has 32 bytes. -/
@[simp]
theorem length_digest (message : List UInt8) : (digest message).length = 32 := by
  simp [digest, State.bytes, bytesOf]

end Sha256
end Collocation
