/-!
# Compressed data

Compressed data is a sequence of blocks of bits.  A block stores bytes as they are, or it spells them with
codewords: a symbol stands for a byte, for the end of the block, or for the length of a copy of data that
is already there, and then a second symbol tells how far back the copy begins.  The codes are fixed, or
the block begins with the lengths of the codewords of its own codes.
-/

namespace Collocation
namespace Deflate

/-! ## Bits -/

/-- The bits of bytes, the lowest of each byte first. -/
def bitsOf (bytes : List UInt8) : List Bool :=
  bytes.flatMap fun byte => (List.range 8).map byte.toNat.testBit

/-- The number that so many bits spell, the lowest first, and the bits behind it. -/
def number? : Nat → List Bool → Option (Nat × List Bool)
  | 0, bits => some (0, bits)
  | _ + 1, [] => none
  | count + 1, bit :: bits => do
      let (upper, rest) ← number? count bits
      some (bit.toNat + 2 * upper, rest)

/-- So many numbers of the same number of bits. -/
def numbers? (width : Nat) : Nat → List Bool → Option (List Nat × List Bool)
  | 0, bits => some ([], bits)
  | count + 1, bits => do
      let (number, rest) ← number? width bits
      let (numbers, rest) ← numbers? width count rest
      some (number :: numbers, rest)

/-! ## Codes -/

/-- The symbols of a code: those whose codewords have one bit, those with two bits, and so on.  The
codewords of a length count up from the first one that no shorter codeword begins. -/
abbrev Code :=
  List (List Nat)

namespace Code

/-- The code of the lengths of its codewords, symbol by symbol; a length of zero is no codeword. -/
def ofLengths (lengths : List Nat) : Code :=
  (List.range 15).map fun shorter =>
    (lengths.zipIdx.filter fun entry => entry.1 = shorter + 1).map Prod.snd

/-- How many of the longest codewords are free, or `none` where there are too few codewords. -/
def free? (code : Code) : Option Nat :=
  code.foldlM (fun free symbols =>
    if symbols.length ≤ 2 * free then some (2 * free - symbols.length) else none) 1

/-- The code of lengths that leave no codeword free. -/
def complete? (lengths : List Nat) : Option Code :=
  let code := ofLengths lengths
  if code.free? = some 0 then some code else none

/-- The code of lengths that leave no codeword free, or that give one symbol at most, with a single bit. -/
def ofLengths? (lengths : List Nat) : Option Code :=
  let code := ofLengths lengths
  match code.free? with
  | none => none
  | some 0 => some code
  | some _ => if lengths.all (· ≤ 1) then some code else none

/-- The symbol that bits begin with, and the bits behind it.  The bits before count up to a place behind
the first codeword of their length that no shorter codeword begins. -/
def symbol? (place : Nat) : Code → List Bool → Option (Nat × List Bool)
  | [], _ => none
  | _ :: _, [] => none
  | symbols :: longer, bit :: bits =>
      let place := 2 * place + bit.toNat
      match symbols[place]? with
      | some symbol => some (symbol, bits)
      | none => symbol? (place - symbols.length) longer bits

end Code

/-- The codes of a block: for its bytes, its end and the lengths of its copies, and for their distances. -/
structure Codes where
  /-- The first code. -/
  symbols : Code
  /-- The code for distances. -/
  distances : Code

/-- The codes that need not be given. -/
def Codes.fixed : Codes where
  symbols := .ofLengths (List.replicate 144 8 ++ List.replicate 112 9 ++ List.replicate 24 7 ++
    List.replicate 8 8)
  distances := .ofLengths (List.replicate 32 5)

/-- The symbols in the order in which their lengths are given in the code for lengths. -/
def lengthOrder : List Nat :=
  [16, 17, 18, 0, 8, 7, 9, 6, 10, 5, 11, 4, 12, 3, 13, 2, 14, 1, 15]

/-- Lengths of codewords until there are enough.  The last three symbols repeat the length before, or
zero.  Every symbol adds a length, so one more than their number is fuel enough. -/
def lengths? (code : Code) (count : Nat) : Nat → List Nat → List Bool → Option (List Nat × List Bool)
  | 0, _, _ => none
  | fuel + 1, lengths, bits =>
      if count ≤ lengths.length then some (lengths, bits)
      else do
        let (symbol, rest) ← code.symbol? 0 bits
        if symbol < 16 then lengths? code count fuel (lengths ++ [symbol]) rest
        else do
          let (length, least, width) ← match symbol with
            | 16 => lengths.getLast?.map fun last => (last, 3, 2)
            | 17 => some (0, 3, 3)
            | _ => some (0, 11, 7)
          let (more, rest) ← number? width rest
          lengths? code count fuel (lengths ++ List.replicate (least + more) length) rest

/-- The codes that a block begins with. -/
def codes? (bits : List Bool) : Option (Codes × List Bool) := do
  let (moreSymbols, rest) ← number? 5 bits
  let (moreDistances, rest) ← number? 5 rest
  let (moreWidths, rest) ← number? 4 rest
  if 29 < moreSymbols ∨ 29 < moreDistances then none
  else do
    let (widths, rest) ← numbers? 3 (moreWidths + 4) rest
    let given := lengthOrder.zip widths
    let code ← Code.complete? ((List.range 19).map fun symbol => (given.lookup symbol).getD 0)
    let count := moreSymbols + 257
    let total := count + (moreDistances + 1)
    let (lengths, rest) ← lengths? code total (total + 1) [] rest
    if total < lengths.length ∨ lengths[256]? = some 0 then none
    else do
      let symbols ← Code.ofLengths? (lengths.take count)
      let distances ← Code.ofLengths? (lengths.drop count)
      some (⟨symbols, distances⟩, rest)

/-! ## Copies -/

/-- Ranges of numbers one after another, by how many bits tell the numbers of each apart. -/
def ranges (start : Nat) : List Nat → List (Nat × Nat)
  | [] => []
  | width :: widths => (start, width) :: ranges (start + 1 <<< width) widths

/-- The lengths of copies. -/
def copyLengths : List (Nat × Nat) :=
  ranges 3 (List.replicate 8 0 ++ [1, 2, 3, 4, 5].flatMap (List.replicate 4)) ++ [(258, 0)]

/-- The distances that copies go back. -/
def copyDistances : List (Nat × Nat) :=
  ranges 1 (List.replicate 4 0 ++ (List.range 13).flatMap fun place => [place + 1, place + 1])

/-- The number that bits choose from a range. -/
def chosen? (ranges : List (Nat × Nat)) (place : Nat) (bits : List Bool) : Option (Nat × List Bool) := do
  let (least, width) ← ranges[place]?
  let (more, rest) ← number? width bits
  some (least + more, rest)

/-- Data with a copy of so many of its bytes, some distance back, at its end.  The copy may reach into
itself. -/
def copy (distance : Nat) : Nat → Array UInt8 → Array UInt8
  | 0, data => data
  | count + 1, data => copy distance count (data.push (data.getD (data.size - distance) 0))

/-! ## Blocks -/

/-- Data with the bytes that codewords spell up to the end of their block.  Every symbol has a bit, so the
number of bits is fuel enough. -/
def spelled? (codes : Codes) : Nat → Array UInt8 → List Bool → Option (Array UInt8 × List Bool)
  | 0, _, _ => none
  | fuel + 1, data, bits => do
      let (symbol, rest) ← codes.symbols.symbol? 0 bits
      if symbol < 256 then spelled? codes fuel (data.push (UInt8.ofNat symbol)) rest
      else if symbol = 256 then some (data, rest)
      else do
        let (length, rest) ← chosen? copyLengths (symbol - 257) rest
        let (place, rest) ← codes.distances.symbol? 0 rest
        let (distance, rest) ← chosen? copyDistances place rest
        if distance ≤ data.size then spelled? codes fuel (copy distance length data) rest else none

/-- Data with bytes that are stored as they are, from the next whole byte on. -/
def stored? (data : Array UInt8) (bits : List Bool) : Option (Array UInt8 × List Bool) := do
  let (length, rest) ← number? 16 (bits.drop (bits.length % 8))
  let (complement, rest) ← number? 16 rest
  if length + complement ≠ 65535 then none
  else do
    let (bytes, rest) ← numbers? 8 length rest
    some (data ++ bytes.map UInt8.ofNat, rest)

/-- Data with that of all blocks up to the last one, and the bits behind it.  Every block has a bit, so
the number of bits is fuel enough. -/
def blocks? : Nat → Array UInt8 → List Bool → Option (Array UInt8 × List Bool)
  | 0, _, _ => none
  | fuel + 1, data, bits => do
      let (last, rest) ← number? 1 bits
      let (kind, rest) ← number? 2 rest
      let (data, rest) ← match kind with
        | 0 => stored? data rest
        | 1 => spelled? .fixed rest.length data rest
        | 2 => do
            let (codes, rest) ← codes? rest
            spelled? codes rest.length data rest
        | _ => none
      if last = 1 then some (data, rest) else blocks? fuel data rest

/-- The data that bytes begin with, and the bytes behind it. -/
def expand? (bytes : List UInt8) : Option (List UInt8 × List UInt8) := do
  let bits := bitsOf bytes
  let (data, rest) ← blocks? bits.length #[] bits
  some (data.toList, bytes.drop (bytes.length - rest.length / 8))

end Deflate
end Collocation
