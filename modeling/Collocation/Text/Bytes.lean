import Collocation.Text.Hexadecimal

/-!
# Texts as bytes

A text is stored as UTF-8.  Lines of bytes end with a line feed; what follows the last one is a line of
its own unless it is empty.
-/

namespace Collocation
namespace Text

/-- The bytes of a text. -/
def encode (text : String) : List UInt8 :=
  text.toUTF8.toList

/-- The text of bytes, if they are UTF-8. -/
def decode? (bytes : List UInt8) : Option String :=
  String.fromUTF8? ⟨bytes.toArray⟩

/-- The byte that ends a line. -/
def lineFeed : UInt8 := 0x0a

/-- The lines of a byte string, each without the line feed that ends it. -/
def byteLines : List UInt8 → List (List UInt8)
  | [] => []
  | byte :: bytes =>
      if byte = lineFeed then [] :: byteLines bytes
      else
        match byteLines bytes with
        | [] => [[byte]]
        | line :: lines => (byte :: line) :: lines

/-- The text of a line without the line ends behind it. -/
def withoutLineEnd (text : List Char) : List Char :=
  (text.reverse.dropWhile fun char => char == '\n' || char == '\r').reverse

/-- Lines that end with a line feed are read one after another. -/
theorem byteLines_append_lineFeed (left right : List UInt8) :
    byteLines (left ++ lineFeed :: right) = byteLines (left ++ [lineFeed]) ++ byteLines right := by
  induction left with
  | nil => simp [byteLines]
  | cons byte bytes ih =>
      simp only [List.cons_append, byteLines, ih]
      split
      · rfl
      · have some : byteLines (bytes ++ [lineFeed]) ≠ [] := by
          cases bytes with
          | nil => simp [byteLines]
          | cons next more =>
              simp only [List.cons_append, byteLines]
              split
              · simp
              · split <;> simp
        cases lines : byteLines (bytes ++ [lineFeed]) with
        | nil => exact absurd lines some
        | cons line rest => rfl

end Text
end Collocation
