import Collocation.Archive.Deflate

/-!
# Gzip files

A gzip file is a sequence of members.  A member is a header, compressed data, a check sum of the data and
its length.
-/

namespace Collocation
namespace Gzip

/-! ## Check sums -/

/-- The remainder after one more bit. -/
def shiftRemainder (remainder : UInt32) : UInt32 :=
  if remainder &&& 1 = 1 then (remainder >>> 1) ^^^ 0xedb88320 else remainder >>> 1

/-- The remainder after one more byte. -/
def addByte (remainder : UInt32) (byte : UInt8) : UInt32 :=
  Nat.repeat shiftRemainder 8 (remainder ^^^ byte.toUInt32)

/-- The check sum of data. -/
def checkSum (data : List UInt8) : UInt32 :=
  data.foldl addByte 0xffffffff ^^^ 0xffffffff

/-- The number that bytes spell, the least significant first. -/
def number : List UInt8 → Nat
  | [] => 0
  | byte :: bytes => byte.toNat + 256 * number bytes

/-! ## Headers -/

/-- So many bytes and the rest. -/
def take? (count : Nat) (bytes : List UInt8) : Option (List UInt8 × List UInt8) :=
  if count ≤ bytes.length then some (bytes.splitAt count) else none

/-- The bytes after a field that ends with a zero; it is not longer than its buffer. -/
def afterZero? (bytes : List UInt8) : Option (List UInt8) :=
  let field := bytes.takeWhile (· != 0)
  match bytes.drop field.length with
  | [] => none
  | _ :: rest => if field.length < 65535 then some rest else none

/-- The bytes after a header.  Its flags tell which fields follow the ten fixed bytes; with the second
flag a check sum of the header itself ends it. -/
def afterHeader? (bytes : List UInt8) : Option (List UInt8) := do
  let (fixed, rest) ← take? 10 bytes
  match fixed with
  | 0x1f :: 0x8b :: 8 :: flags :: _ => do
      if flags &&& 0xe0 ≠ 0 then none
      else do
        let rest ← if flags &&& 4 = 0 then some rest else do
          let (length, rest) ← take? 2 rest
          (take? (number length) rest).map Prod.snd
        let rest ← if flags &&& 8 = 0 then some rest else afterZero? rest
        let rest ← if flags &&& 16 = 0 then some rest else afterZero? rest
        if flags &&& 2 = 0 then some rest else do
          let (sum, after) ← take? 2 rest
          let header := bytes.take (bytes.length - rest.length)
          if number sum = (checkSum header).toNat % UInt16.size then some after else none
  | _ => none

/-! ## Members -/

/-- The data of a member and the bytes behind it. -/
def member? (bytes : List UInt8) : Option (List UInt8 × List UInt8) := do
  let body ← afterHeader? bytes
  let (data, rest) ← Deflate.expand? body
  let (sum, rest) ← take? 4 rest
  let (length, rest) ← take? 4 rest
  if number sum = (checkSum data).toNat ∧ number length = data.length % UInt32.size then
    some (data, rest)
  else none

/-- The data of one member after another up to the end of the file. -/
def members? : Nat → List UInt8 → Option (List UInt8)
  | 0, _ => none
  | fuel + 1, bytes => do
      let (data, rest) ← member? bytes
      match rest with
      | [] => some data
      | rest => (members? fuel rest).map (data ++ ·)

/-- The data of a whole file, or `none` where the file is damaged. -/
def expand? (bytes : List UInt8) : Option (List UInt8) :=
  members? (bytes.length + 1) bytes

/-- Two bytes that are spelled and then copied over and over, `hahahahahahahahaha`. -/
example :
    expand? [0x1f, 0x8b, 8, 0, 0, 0, 0, 0, 0, 255, 203, 72, 204, 64, 131, 0, 57, 72, 180, 198, 18, 0, 0, 0] =
      some ((List.replicate 9 "ha").flatMap fun text => text.toUTF8.toList) := by
  decide +kernel

end Gzip
end Collocation
