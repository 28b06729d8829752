import Collocation.Text.Blank
import Collocation.Text.Bytes
import Collocation.Text.Fields

/-!
# Fields, blanks and line ends

Pieces that hold no separator are found again when they are joined.  Blanks around a text and line ends behind it
go away without a trace.
-/

namespace Collocation
namespace Text

variable {separator : Char} {before after text left right piece : List Char}

/-! ## Separators -/

theorem cut?_eq_none (free : separator ∉ text) : cut? separator text = none := by
  induction text with
  | nil => rfl
  | cons char rest induction =>
      rw [List.mem_cons, not_or] at free
      rw [cut?, if_neg (Ne.symm free.1), induction free.2]
      rfl

theorem not_mem_of_cut? (found : cut? separator text = some (before, after)) : separator ∉ before := by
  induction text generalizing before with
  | nil => cases found
  | cons char rest induction =>
      rw [cut?] at found
      split at found
      · cases found
        exact List.not_mem_nil
      · next apart =>
          obtain ⟨sides, later, equal⟩ := Option.map_eq_some_iff.mp found
          cases equal
          rw [List.mem_cons, not_or]
          exact ⟨Ne.symm apart, induction later⟩

theorem fields_append_cons (free : separator ∉ piece) (text : List Char) :
    fields separator (piece ++ separator :: text) = piece :: fields separator text := by
  induction piece with
  | nil => rw [List.nil_append, fields, if_pos rfl]
  | cons char rest induction =>
      rw [List.mem_cons, not_or] at free
      rw [List.cons_append, fields, if_neg (Ne.symm free.1), induction free.2]

/-- Pieces without the separator are found again between the separators. -/
theorem fields_joinFields {pieces : List (List Char)} (nonempty : pieces ≠ [])
    (free : ∀ piece ∈ pieces, separator ∉ piece) : fields separator (joinFields separator pieces) = pieces := by
  induction pieces with
  | nil => exact absurd rfl nonempty
  | cons piece pieces induction =>
      obtain ⟨here, others⟩ := List.forall_mem_cons.mp free
      cases pieces with
      | nil => exact fields_eq_singleton here
      | cons next pieces =>
          rw [joinFields, fields_append_cons here, induction (List.cons_ne_nil _ _) others]

theorem not_mem_joinFields {char : Char} {pieces : List (List Char)} (apart : char ≠ separator)
    (free : ∀ piece ∈ pieces, char ∉ piece) : char ∉ joinFields separator pieces := by
  induction pieces with
  | nil => exact List.not_mem_nil
  | cons piece pieces induction =>
      obtain ⟨here, others⟩ := List.forall_mem_cons.mp free
      cases pieces with
      | nil => exact here
      | cons next pieces =>
          rw [joinFields, List.mem_append, List.mem_cons, not_or, not_or]
          exact ⟨here, apart, induction others⟩

/-! ## Blanks -/

theorem isBlank_of_isDigit {char : Char} (digit : char.isDigit) : isBlank char = false := by
  have range : 0x30 ≤ char.toNat ∧ char.toNat ≤ 0x39 := by
    rw [Char.isDigit, Bool.and_eq_true, decide_eq_true_eq, decide_eq_true_eq] at digit
    exact digit
  simp [isBlank]
  omega

theorem trimEnd_append (blank : allBlank right) : trimEnd (text ++ right) = trimEnd text := by
  have reversed : ∀ char ∈ right.reverse, isBlank char = true := fun char member =>
    List.all_eq_true.mp blank char (List.mem_reverse.mp member)
  rw [trimEnd, List.reverse_append, List.dropWhile_append_of_pos reversed, trimEnd]

theorem trim_append (leftBlank : allBlank left) (rightBlank : allBlank right) :
    trim (left ++ text ++ right) = trim text := by
  have start : trimStart (left ++ text ++ right) = trimStart (text ++ right) := by
    rw [trimStart, List.append_assoc, List.dropWhile_append_of_pos (List.all_eq_true.mp leftBlank), trimStart]
  rw [trim, start, trim, trimStart, List.dropWhile_append]
  split
  · next empty =>
      have same : text.dropWhile isBlank = [] := List.isEmpty_iff.mp empty
      rw [show right.dropWhile isBlank = [] from trimStart_eq_nil_iff.mpr rightBlank, trimStart, same]
  · rw [trimEnd_append rightBlank, trimStart]

/-! ## Line ends -/

/-- Whether a character belongs to the end of a line. -/
def isLineEnd (char : Char) : Bool :=
  char == '\n' || char == '\r'

theorem isBlank_of_isLineEnd {char : Char} (ends : isLineEnd char) : isBlank char := by
  rw [isLineEnd, Bool.or_eq_true, beq_iff_eq, beq_iff_eq] at ends
  rcases ends with rfl | rfl <;> rfl

theorem withoutLineEnd_append_cons (front : List Char) {char : Char} (solid : isLineEnd char = false)
    (back : List Char) : withoutLineEnd (front ++ char :: back) = front ++ char :: withoutLineEnd back := by
  have kept : (char :: front.reverse).dropWhile isLineEnd = char :: front.reverse := by
    rw [List.dropWhile_cons_of_neg (by rw [solid]; exact Bool.false_ne_true)]
  have reversed : (front ++ char :: back).reverse = back.reverse ++ (char :: front.reverse) := by simp
  change ((front ++ char :: back).reverse.dropWhile isLineEnd).reverse = _
  rw [reversed, List.dropWhile_append, kept]
  change _ = front ++ char :: (back.reverse.dropWhile isLineEnd).reverse
  split
  · next empty => simp [List.isEmpty_iff.mp empty]
  · simp

/-- What is taken away at the end of a line are line ends. -/
theorem exists_eq_withoutLineEnd_append (text : List Char) :
    ∃ ends : List Char, text = withoutLineEnd text ++ ends ∧ ∀ char ∈ ends, isLineEnd char = true := by
  refine ⟨(text.reverse.takeWhile isLineEnd).reverse, ?_, fun char member => ?_⟩
  · have parts := congrArg List.reverse (List.takeWhile_append_dropWhile (p := isLineEnd) (l := text.reverse))
    rw [List.reverse_append, List.reverse_reverse] at parts
    exact parts.symm
  · exact List.all_eq_true.mp List.all_takeWhile char (List.mem_reverse.mp member)

theorem withoutLineEnd_append {ends : List Char} (gone : ∀ char ∈ ends, isLineEnd char = true)
    (text : List Char) : withoutLineEnd (text ++ ends) = withoutLineEnd text := by
  have reversed : ∀ char ∈ ends.reverse, isLineEnd char = true := fun char member =>
    gone char (List.mem_reverse.mp member)
  change ((text ++ ends).reverse.dropWhile isLineEnd).reverse = (text.reverse.dropWhile isLineEnd).reverse
  rw [List.reverse_append, List.dropWhile_append_of_pos reversed]

theorem trim_withoutLineEnd (text : List Char) : trim (withoutLineEnd text) = trim text := by
  obtain ⟨ends, parts, gone⟩ := exists_eq_withoutLineEnd_append text
  have blank : allBlank ends := List.all_eq_true.mpr fun char member => isBlank_of_isLineEnd (gone char member)
  have padded : trim ([] ++ withoutLineEnd text ++ ends) = trim (withoutLineEnd text) := trim_append rfl blank
  rw [List.nil_append, ← parts] at padded
  exact padded.symm

theorem mem_of_mem_withoutLineEnd {char : Char} (member : char ∈ withoutLineEnd text) : char ∈ text := by
  obtain ⟨ends, parts, -⟩ := exists_eq_withoutLineEnd_append text
  rw [parts]
  exact List.mem_append_left ends member

end Text
end Collocation
