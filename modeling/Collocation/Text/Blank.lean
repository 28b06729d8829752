/-!
# Blanks

A blank is a character with the property White_Space.  Trimming removes blanks from the ends of a
text and from nowhere else.
-/

namespace Collocation
namespace Text

/-- The characters with the property White_Space. -/
def isBlank (char : Char) : Bool :=
  let code := char.toNat
  (0x09 ≤ code && code ≤ 0x0D) || code == 0x20 || code == 0x85 || code == 0xA0 ||
    code == 0x1680 || (0x2000 ≤ code && code ≤ 0x200A) || code == 0x2028 || code == 0x2029 ||
    code == 0x202F || code == 0x205F || code == 0x3000

/-- The text without the blanks at its start. -/
def trimStart (text : List Char) : List Char :=
  text.dropWhile isBlank

/-- The text without the blanks at its end. -/
def trimEnd (text : List Char) : List Char :=
  (text.reverse.dropWhile isBlank).reverse

/-- The text without the blanks at its two ends. -/
def trim (text : List Char) : List Char :=
  trimEnd (trimStart text)

/-- Whether a text holds nothing but blanks. -/
def allBlank (text : List Char) : Bool :=
  text.all isBlank

@[simp]
theorem trimStart_nil : trimStart [] = [] :=
  rfl

@[simp]
theorem trimEnd_nil : trimEnd [] = [] :=
  rfl

theorem trimStart_eq_nil_iff {text : List Char} : trimStart text = [] ↔ allBlank text := by
  induction text with
  | nil => simp [allBlank]
  | cons char rest ih =>
      cases blank : isBlank char <;> simp_all [trimStart, allBlank]

theorem trimEnd_eq_nil_iff {text : List Char} : trimEnd text = [] ↔ allBlank text := by
  rw [trimEnd, List.reverse_eq_nil_iff]
  exact trimStart_eq_nil_iff.trans (by simp [allBlank])

/-- A text is trimmed to nothing exactly if it holds nothing but blanks. -/
theorem trim_eq_nil_iff {text : List Char} : trim text = [] ↔ allBlank text := by
  rw [trim, trimEnd_eq_nil_iff]
  induction text with
  | nil => simp
  | cons char rest ih =>
      cases blank : isBlank char <;> simp_all [trimStart, allBlank]

end Text
end Collocation
