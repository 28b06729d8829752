import Collocation.Grammar.Relation

/-!
# Texts in a stream of bytes

The bytes of a text determine it.  A character below 128 is one byte, and no other character has this byte, so
texts without the character can be told apart when it stands behind each of them.
-/

namespace Collocation

/-- What stands before the first occurrence of a mark is determined, and so is what follows it. -/
theorem append_cons_inj_of_not_mem {α : Type} {mark : α} {left right leftRest rightRest : List α}
    (leftFree : mark ∉ left) (rightFree : mark ∉ right)
    (same : left ++ mark :: leftRest = right ++ mark :: rightRest) :
    left = right ∧ leftRest = rightRest := by
  induction left generalizing right with
  | nil =>
      cases right with
      | nil => exact ⟨rfl, (List.cons.inj same).2⟩
      | cons item right => exact absurd ((List.cons.inj same).1 ▸ List.mem_cons_self) rightFree
  | cons item left induction =>
      cases right with
      | nil => exact absurd ((List.cons.inj same).1.symm ▸ List.mem_cons_self) leftFree
      | cons other right =>
          obtain ⟨rfl, remaining⟩ := List.cons.inj same
          obtain ⟨rfl, rests⟩ := induction (fun member => leftFree (List.mem_cons_of_mem _ member))
            (fun member => rightFree (List.mem_cons_of_mem _ member)) remaining
          exact ⟨rfl, rests⟩

theorem eq_of_map_eq {α β : Type} {view : α → β} {left right : List α}
    (faithful : ∀ item ∈ left, ∀ other ∈ right, view item = view other → item = other)
    (same : left.map view = right.map view) : left = right := by
  induction left generalizing right with
  | nil => exact (List.map_eq_nil_iff.mp same.symm).symm
  | cons item left induction =>
      cases right with
      | nil => cases same
      | cons other right =>
          obtain ⟨first, rest⟩ := List.cons.inj same
          rw [faithful item List.mem_cons_self other List.mem_cons_self first,
            induction (fun item member other inside => faithful item (List.mem_cons_of_mem _ member)
              other (List.mem_cons_of_mem _ inside)) rest]

/-- What stands in joined pieces is a mark between two of them or stands in one of them. -/
theorem exists_of_mem_intercalate {α : Type} {mark item : α} {pieces : List (List α)}
    (member : item ∈ [mark].intercalate pieces) : item = mark ∨ ∃ piece ∈ pieces, item ∈ piece := by
  induction pieces with
  | nil => cases member
  | cons piece pieces induction =>
      cases pieces with
      | nil => exact Or.inr ⟨piece, List.mem_cons_self, by simpa using member⟩
      | cons next pieces =>
          rw [List.intercalate_cons_cons, List.append_assoc, List.mem_append, List.mem_append] at member
          rcases member with here | between | later
          · exact Or.inr ⟨piece, List.mem_cons_self, here⟩
          · exact Or.inl (List.mem_singleton.mp between)
          · exact (induction later).imp_right fun ⟨other, listed, inside⟩ =>
              ⟨other, List.mem_cons_of_mem _ listed, inside⟩

namespace Grammar

theorem toList_loop (bytes : ByteArray) (index : Nat) (before : List UInt8) :
    ByteArray.toList.loop bytes index before = before.reverse ++ bytes.data.toList.drop index := by
  induction index, before using ByteArray.toList.loop.induct bytes with
  | case1 index before inside induction =>
      have within : index < bytes.data.toList.length := inside
      rw [ByteArray.toList.loop, if_pos inside, induction, List.drop_eq_getElem_cons within]
      simp [ByteArray.get!, inside]
  | case2 index before outside =>
      have beyond : bytes.data.toList.length ≤ index := Nat.le_of_not_lt outside
      rw [ByteArray.toList.loop, if_neg outside, List.drop_eq_nil_of_le beyond, List.append_nil]

theorem textBytes_eq_flatMap (text : String) :
    textBytes text = text.toList.flatMap String.utf8EncodeChar := by
  have encoded : text.toUTF8 = (text.toList.flatMap String.utf8EncodeChar).toByteArray :=
    String.utf8Encode_toList.symm
  rw [textBytes, ByteArray.toList, toList_loop, encoded]
  simp

theorem textBytes_append (left right : String) :
    textBytes (left ++ right) = textBytes left ++ textBytes right := by
  rw [textBytes_eq_flatMap, textBytes_eq_flatMap, textBytes_eq_flatMap, String.toList_append,
    List.flatMap_append]

theorem textBytes_inj {left right : String} : textBytes left = textBytes right ↔ left = right := by
  refine ⟨fun same => ?_, congrArg textBytes⟩
  rw [textBytes_eq_flatMap, textBytes_eq_flatMap] at same
  refine String.toByteArray_inj.mp ?_
  rw [← String.utf8Encode_toList, ← String.utf8Encode_toList, List.utf8Encode, List.utf8Encode, same]

theorem mem_utf8EncodeChar_iff {char other : Char} (small : char.toNat < 128) :
    UInt8.ofNat char.toNat ∈ String.utf8EncodeChar other ↔ char = other := by
  have fits : other.toNat < 0x110000 := by
    have valid := other.valid
    simp only [UInt32.isValidChar, Nat.isValidChar] at valid
    change other.val.toNat < _
    omega
  have same : char = other ↔ char.toNat = other.toNat := Char.toNat_inj.symm
  have byte (value : Nat) (less : value < 256) :
      UInt8.ofNat char.toNat = UInt8.ofNat value ↔ char.toNat = value := by
    rw [← UInt8.toNat_inj, UInt8.toNat_ofNat', UInt8.toNat_ofNat']
    omega
  have code : other.val.toNat = other.toNat := rfl
  rw [String.utf8EncodeChar, same]
  simp only [code]
  split
  · rw [List.mem_singleton, byte _ (by omega)]
  · split
    · simp only [List.mem_cons, List.not_mem_nil, or_false]
      rw [byte _ (by omega), byte _ (by omega)]
      omega
    · split
      · simp only [List.mem_cons, List.not_mem_nil, or_false]
        rw [byte _ (by omega), byte _ (by omega), byte _ (by omega)]
        omega
      · simp only [List.mem_cons, List.not_mem_nil, or_false]
        rw [byte _ (by omega), byte _ (by omega), byte _ (by omega), byte _ (by omega)]
        omega

theorem mem_textBytes_iff {char : Char} (small : char.toNat < 128) {text : String} :
    UInt8.ofNat char.toNat ∈ textBytes text ↔ char ∈ text.toList := by
  simp only [textBytes_eq_flatMap, List.mem_flatMap, mem_utf8EncodeChar_iff small, exists_eq_right']

end Grammar
end Collocation
