import Collocation.Unicode.CodeSet

/-!
# Ranges of characters as ranges of bytes

In UTF-8 a character takes one to four bytes.  A range of code points is cut into parts whose
encodings are, place by place, all the bytes of a range; `byteSequences` lists these parts from the
lowest to the highest.
-/

namespace Collocation
namespace Regex

/-- A range of bytes, both ends included. -/
abbrev ByteRange :=
  Nat × Nat

/-- The number of bytes that encode a code point. -/
def encodedLength (code : Nat) : Nat :=
  if code < 0x80 then 1 else if code < 0x800 then 2 else if code < 0x10000 then 3 else 4

/-- The bytes that encode a code point. -/
def encoded (code : Nat) : List Nat :=
  let last := 0x80 + code % 64
  let third := 0x80 + code / 64 % 64
  let second := 0x80 + code / 4096 % 64
  match encodedLength code with
  | 1 => [code]
  | 2 => [0xC0 + code / 64, last]
  | 3 => [0xE0 + code / 4096, third, last]
  | _ => [0xF0 + code / 262144, second, third, last]

/-- The code point that some bytes encode, if they encode a single one. -/
def decoded? : List Nat → Option Nat
  | [first] => some first
  | [first, last] =>
      if 0xC0 ≤ first ∧ first < 0xE0 then some ((first - 0xC0) * 64 + (last - 0x80)) else none
  | [first, third, last] =>
      if 0xE0 ≤ first ∧ first < 0xF0 then
        some ((first - 0xE0) * 4096 + (third - 0x80) * 64 + (last - 0x80))
      else none
  | [first, second, third, last] =>
      if 0xF0 ≤ first then
        some ((first - 0xF0) * 262144 + (second - 0x80) * 4096 + (third - 0x80) * 64 +
          (last - 0x80))
      else none
  | _ => none

/-- Where a range has to be cut so that, below the cut or above it, the last bytes of the encodings
run through all their values. -/
def alignmentCut? (first last block : Nat) : Option Nat :=
  if first / block = last / block then none
  else if first % block ≠ 0 then some ((first / block + 1) * block)
  else if last % block ≠ block - 1 then some (last / block * block)
  else none

/-- The first code point of the upper part, if a range has to be cut: where the encodings grow
longer, and else where their last bytes do not run through all values. -/
def splitPoint? (first last : Nat) : Option Nat :=
  match [0x80, 0x800, 0x10000].find? fun border => first < border ∧ border ≤ last with
  | some border => some border
  | none =>
      if last < 0x80 then none else [64, 4096, 262144].findSome? (alignmentCut? first last)

/-- The encodings of the code points of a range, as ranges of bytes place by place. -/
def byteSequences (first last : Nat) : List (List ByteRange) :=
  match splitPoint? first last with
  | none => [(encoded first).zip (encoded last)]
  | some middle =>
      if first < middle ∧ middle ≤ last then
        byteSequences first (middle - 1) ++ byteSequences middle last
      else []
termination_by last - first

/-- The encodings of the characters of a set. -/
def setSequences (set : Unicode.CodeSet) : List (List ByteRange) :=
  set.ranges.flatMap fun range => byteSequences range.1 (range.2 - 1)

end Regex
end Collocation
