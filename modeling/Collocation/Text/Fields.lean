/-!
# Cutting a text at a separator

`fields` gives the pieces between the occurrences of a separator, `cut?` the two sides of its first
occurrence.  `joinFields` puts the pieces together again; no piece holds a separator.
-/

namespace Collocation
namespace Text

/-- The pieces of a text between the occurrences of a separator. -/
def fields (separator : Char) : List Char → List (List Char)
  | [] => [[]]
  | char :: rest =>
      if char = separator then
        [] :: fields separator rest
      else
        match fields separator rest with
        | [] => [[char]]
        | piece :: pieces => (char :: piece) :: pieces

/-- Pieces with a separator between each two. -/
def joinFields (separator : Char) : List (List Char) → List Char
  | [] => []
  | [piece] => piece
  | piece :: next :: pieces => piece ++ separator :: joinFields separator (next :: pieces)

/-- The text before the first separator and the text after it. -/
def cut? (separator : Char) : List Char → Option (List Char × List Char)
  | [] => none
  | char :: rest =>
      if char = separator then
        some ([], rest)
      else
        (cut? separator rest).map fun sides => (char :: sides.1, sides.2)

theorem fields_ne_nil (separator : Char) (text : List Char) : fields separator text ≠ [] := by
  cases text with
  | nil => simp [fields]
  | cons char rest =>
      simp only [fields]
      split
      · simp
      · split <;> simp

/-- Nothing is lost: the pieces joined again are the text. -/
@[simp]
theorem joinFields_fields (separator : Char) (text : List Char) :
    joinFields separator (fields separator text) = text := by
  induction text with
  | nil => rfl
  | cons char rest ih =>
      simp only [fields]
      split
      · next same =>
          cases pieces : fields separator rest with
          | nil => exact absurd pieces (fields_ne_nil separator rest)
          | cons piece more =>
              rw [pieces] at ih
              simp [joinFields, ih, same]
      · cases pieces : fields separator rest with
        | nil => exact absurd pieces (fields_ne_nil separator rest)
        | cons piece more =>
            rw [pieces] at ih
            cases more with
            | nil =>
                simp only [joinFields] at ih ⊢
                rw [ih]
            | cons next tail =>
                simp only [joinFields, List.cons_append] at ih ⊢
                rw [ih]

/-- No piece holds the separator. -/
theorem not_mem_of_mem_fields {separator : Char} {text piece : List Char}
    (member : piece ∈ fields separator text) : separator ∉ piece := by
  induction text generalizing piece with
  | nil => simp_all [fields]
  | cons char rest ih =>
      simp only [fields] at member
      split at member
      · rcases List.mem_cons.mp member with rfl | later
        · simp
        · exact ih later
      · next different =>
          have apart : ¬separator = char := fun same => different same.symm
          split at member
          · simp only [List.mem_singleton] at member
            simp [member, apart]
          · next first more pieces =>
              rcases List.mem_cons.mp member with rfl | later
              · have earlier : separator ∉ first := ih (by simp [pieces])
                simp [earlier, apart]
              · exact ih (by simp [pieces, later])

/-- A text without the separator is a single piece. -/
theorem fields_eq_singleton {separator : Char} {text : List Char} (free : separator ∉ text) :
    fields separator text = [text] := by
  induction text with
  | nil => rfl
  | cons char rest ih =>
      simp only [List.mem_cons, not_or] at free
      simp only [fields, ih free.2, if_neg (Ne.symm free.1)]

/-- The two sides of a cut give the text back. -/
theorem eq_append_of_cut? {separator : Char} {text before after : List Char}
    (found : cut? separator text = some (before, after)) :
    text = before ++ separator :: after := by
  induction text generalizing before with
  | nil => simp [cut?] at found
  | cons char rest ih =>
      simp only [cut?] at found
      split at found
      · simp_all
      · obtain ⟨sides, cut, equal⟩ := Option.map_eq_some_iff.mp found
        obtain ⟨rfl, rfl⟩ := Prod.mk.inj equal
        have tail : rest = sides.1 ++ separator :: sides.2 := ih (by rw [cut])
        simp [tail]

/-- The first separator makes the cut. -/
theorem cut?_append {separator : Char} {before : List Char} (after : List Char)
    (free : separator ∉ before) :
    cut? separator (before ++ separator :: after) = some (before, after) := by
  induction before with
  | nil => simp [cut?]
  | cons char rest ih =>
      simp only [List.mem_cons, not_or] at free
      simp only [List.cons_append, cut?, ih free.2, if_neg (Ne.symm free.1), Option.map_some]

end Text
end Collocation
