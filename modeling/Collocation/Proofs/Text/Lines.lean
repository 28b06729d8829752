import Collocation.Proofs.Text.Bytes
import Collocation.Text.Bytes

/-!
# Lines of bytes

The lines of a byte string that ends with a line feed are followed by the lines of whatever is put behind it.  The
lines of an encoded text are the encoded lines of the text, since no character but the line feed has its byte.
-/

namespace Collocation
namespace Text

/-! ## Lines one after another -/

/-- Nothing stands behind the last line feed. -/
def WholeLines (bytes : List UInt8) : Prop :=
  bytes = [] ∨ bytes.getLast? = some lineFeed

theorem wholeLines_append_lineFeed (bytes : List UInt8) : WholeLines (bytes ++ [lineFeed]) :=
  Or.inr List.getLast?_concat

theorem byteLines_append_of_wholeLines {above : List UInt8} (whole : WholeLines above) (below : List UInt8) :
    byteLines (above ++ below) = byteLines above ++ byteLines below := by
  rcases whole with rfl | ended
  · rfl
  · obtain ⟨start, rfl⟩ := List.getLast?_eq_some_iff.mp ended
    rw [List.append_assoc, List.singleton_append, byteLines_append_lineFeed]

theorem byteLines_line {line : List UInt8} (free : lineFeed ∉ line) : byteLines (line ++ [lineFeed]) = [line] := by
  induction line with
  | nil => rfl
  | cons byte line induction =>
      rw [List.mem_cons, not_or] at free
      obtain ⟨apart, free⟩ := free
      rw [List.cons_append, byteLines, if_neg (Ne.symm apart), induction free]

theorem byteLines_of_not_mem {line : List UInt8} (free : lineFeed ∉ line) (nonempty : line ≠ []) :
    byteLines line = [line] := by
  induction line with
  | nil => exact absurd rfl nonempty
  | cons byte line induction =>
      rw [List.mem_cons, not_or] at free
      obtain ⟨apart, free⟩ := free
      rw [byteLines, if_neg (Ne.symm apart)]
      cases line with
      | nil => rfl
      | cons next line => rw [induction free (List.cons_ne_nil _ _)]

/-! ## Lines of texts -/

theorem encode_ofList (text : List Char) :
    encode (String.ofList text) = text.flatMap String.utf8EncodeChar := by
  have encoded := Grammar.textBytes_eq_flatMap (String.ofList text)
  rwa [String.toList_ofList] at encoded

theorem encode_ofList_append (left right : List Char) :
    encode (String.ofList (left ++ right)) = encode (String.ofList left) ++ encode (String.ofList right) := by
  rw [encode_ofList, encode_ofList, encode_ofList, List.flatMap_append]

theorem encode_lineFeed : encode (String.ofList ['\n']) = [lineFeed] := by
  rw [encode_ofList]
  decide

@[simp]
theorem decode?_encode (text : String) : decode? (encode text) = some text := by
  have same : (⟨(encode text).toArray⟩ : ByteArray) = text.toByteArray := by
    rw [encode, ByteArray.toList, Grammar.toList_loop]
    rfl
  rw [decode?, same, String.fromUTF8?, dif_pos text.isValidUTF8]
  rfl

theorem lineFeed_mem_encode_iff {text : List Char} : lineFeed ∈ encode (String.ofList text) ↔ '\n' ∈ text := by
  have read : lineFeed ∈ encode (String.ofList text) ↔ '\n' ∈ (String.ofList text).toList :=
    @Grammar.mem_textBytes_iff '\n' (by decide) (String.ofList text)
  rwa [String.toList_ofList] at read

theorem encode_ne_nil {text : List Char} (nonempty : text ≠ []) : encode (String.ofList text) ≠ [] := by
  cases text with
  | nil => exact absurd rfl nonempty
  | cons char text =>
      rw [encode_ofList, List.flatMap_cons]
      exact List.append_ne_nil_of_left_ne_nil String.utf8EncodeChar_ne_nil _

/-- The first line of a text, and the lines of what follows it. -/
theorem byteLines_encode_line {line : List Char} (free : '\n' ∉ line) (rest : List Char) :
    byteLines (encode (String.ofList (line ++ '\n' :: rest))) =
      encode (String.ofList line) :: byteLines (encode (String.ofList rest)) := by
  have apart : lineFeed ∉ encode (String.ofList line) := fun member => free (lineFeed_mem_encode_iff.mp member)
  have split : encode (String.ofList (line ++ '\n' :: rest)) =
      encode (String.ofList line) ++ [lineFeed] ++ encode (String.ofList rest) := by
    rw [List.append_cons, encode_ofList_append, encode_ofList_append, encode_lineFeed]
  rw [split, byteLines_append_of_wholeLines (wholeLines_append_lineFeed _), byteLines_line apart]
  rfl

theorem byteLines_encode_last {line : List Char} (free : '\n' ∉ line) (nonempty : line ≠ []) :
    byteLines (encode (String.ofList line)) = [encode (String.ofList line)] :=
  byteLines_of_not_mem (fun member => free (lineFeed_mem_encode_iff.mp member))
    (encode_ne_nil nonempty)

theorem exists_text_of_mem_byteLines {text : List Char} {line : List UInt8}
    (member : line ∈ byteLines (encode (String.ofList text))) : ∃ piece, line = encode piece := by
  induction length : text.length using Nat.strongRecOn generalizing text with
  | ind count induction =>
      by_cases ended : '\n' ∈ text
      · obtain ⟨before, after, rfl, free⟩ := List.eq_append_cons_of_mem ended
        rw [byteLines_encode_line free] at member
        rcases List.mem_cons.mp member with rfl | later
        · exact ⟨_, rfl⟩
        · rw [List.length_append, List.length_cons] at length
          exact induction after.length (by omega) later rfl
      · by_cases empty : text = []
        · rw [empty, encode_ofList] at member
          cases member
        · rw [byteLines_encode_last ended empty] at member
          exact ⟨_, List.mem_singleton.mp member⟩

end Text
end Collocation
