import Collocation.Dictionary

/-!
# Dictionaries of entries in any order

A dictionary is determined by its entries.  Entries for different words give the same dictionary in whatever order
they are put in.
-/

namespace Collocation
namespace Dictionary

variable {α : Type} {word : String} {value : α} {entries : List (String × α)}

theorem perm_insertEntry (absent : word ∉ entries.map Prod.fst) :
    (insertEntry word value entries).Perm ((word, value) :: entries) := by
  induction entries with
  | nil => exact .refl _
  | cons first rest induction =>
      rw [List.map_cons, List.mem_cons, not_or] at absent
      obtain ⟨other, current⟩ := first
      rw [insertEntry]
      split
      · exact .refl _
      · split
        · exact ((induction absent.2).cons _).trans (.swap _ _ _)
        · next notBefore notAfter => exact absurd (String.le_antisymm notAfter notBefore) absent.1

theorem perm_ofList (distinct : (entries.map Prod.fst).Nodup) : (ofList entries).entries.Perm entries := by
  have general (entries : List (String × α)) (dictionary : Dictionary α)
      (distinct : ((entries ++ dictionary.entries).map Prod.fst).Nodup) :
      (entries.foldl (fun dictionary entry => dictionary.insert entry.1 entry.2) dictionary).entries.Perm
        (entries ++ dictionary.entries) := by
    induction entries generalizing dictionary with
    | nil => exact .refl _
    | cons entry entries induction =>
        rw [List.cons_append, List.map_cons, List.nodup_cons] at distinct
        have absent : entry.1 ∉ dictionary.entries.map Prod.fst := fun member =>
          distinct.1 (by rw [List.map_append]; exact List.mem_append_right _ member)
        have inserted : (dictionary.insert entry.1 entry.2).entries.Perm (entry :: dictionary.entries) :=
          perm_insertEntry absent
        have moved : (entries ++ (dictionary.insert entry.1 entry.2).entries).Perm
            (entry :: (entries ++ dictionary.entries)) :=
          (inserted.append_left entries).trans List.perm_middle
        refine (induction _ ((moved.map Prod.fst).nodup_iff.mpr ?_)).trans moved
        exact List.nodup_cons.mpr distinct
  have whole := general entries empty (by rwa [empty, List.append_nil])
  rwa [empty, List.append_nil] at whole

theorem eq_of_perm {left right : Dictionary α} (same : left.entries.Perm right.entries) : left = right := by
  obtain ⟨leftEntries, leftAscending⟩ := left
  obtain ⟨rightEntries, rightAscending⟩ := right
  obtain rfl : leftEntries = rightEntries :=
    same.eq_of_pairwise (fun first second _ _ before after => absurd (String.lt_trans before after)
      (String.lt_irrefl first.1)) leftAscending rightAscending
  rfl

theorem ofList_of_perm {dictionary : Dictionary α} (same : entries.Perm dictionary.entries) :
    ofList entries = dictionary := by
  have apart : dictionary.entries.Pairwise fun first second => first.1 ≠ second.1 := by
    refine dictionary.ascending.imp ?_
    intro first second before equal
    exact String.lt_irrefl second.1 (equal ▸ before)
  have distinct : (dictionary.entries.map Prod.fst).Nodup := List.pairwise_map.mpr apart
  exact eq_of_perm ((perm_ofList ((same.map Prod.fst).nodup_iff.mpr distinct)).trans same)

theorem valueOf?_eq_some_iff (ascending : entries.Pairwise fun left right => left.1 < right.1) :
    valueOf? word entries = some value ↔ (word, value) ∈ entries := by
  induction entries with
  | nil => simp [valueOf?]
  | cons first rest induction =>
      obtain ⟨other, current⟩ := first
      obtain ⟨above, tail⟩ := List.pairwise_cons.mp ascending
      rw [valueOf?, List.mem_cons, Prod.mk.injEq]
      by_cases same : word = other
      · subst same
        have absent : (word, value) ∉ rest := fun member => String.lt_irrefl word (above (word, value) member)
        simp [absent, eq_comm]
      · simp [same, induction tail]

theorem eq_of_get?_eq {left right : Dictionary α} (same : ∀ word, left.get? word = right.get? word) :
    left = right := by
  have nodup (dictionary : Dictionary α) : dictionary.entries.Nodup := by
    refine dictionary.ascending.imp ?_
    intro first second before equal
    exact String.lt_irrefl second.1 (equal ▸ before)
  refine eq_of_perm ((List.perm_ext_iff_of_nodup (nodup left) (nodup right)).mpr fun entry => ?_)
  rw [← valueOf?_eq_some_iff left.ascending, ← valueOf?_eq_some_iff right.ascending]
  exact iff_of_eq (congrArg (· = some entry.2) (same entry.1))

/-- Entries for different words may be put in in any order. -/
theorem ofList_eq_of_perm {others : List (String × α)} (same : entries.Perm others)
    (distinct : (entries.map Prod.fst).Nodup) : ofList entries = ofList others :=
  (ofList_of_perm (same.symm.trans (perm_ofList distinct).symm)).symm

theorem exists_of_mem_ofList {entry : String × α} (member : entry ∈ (ofList entries).entries) :
    ∃ other ∈ entries, other.1 = entry.1 := by
  have general (entries : List (String × α)) (dictionary : Dictionary α)
      (member : entry ∈ (entries.foldl (fun dictionary entry => dictionary.insert entry.1 entry.2) dictionary).entries) :
      entry ∈ dictionary.entries ∨ ∃ other ∈ entries, other.1 = entry.1 := by
    induction entries generalizing dictionary with
    | nil => exact Or.inl member
    | cons first rest induction =>
        rcases induction _ member with early | ⟨other, later, named⟩
        · rcases mem_insertEntry early with here | old
          · exact Or.inr ⟨first, List.mem_cons_self, here.symm⟩
          · exact Or.inl old
        · exact Or.inr ⟨other, List.mem_cons_of_mem _ later, named⟩
  exact (general entries empty member).resolve_left List.not_mem_nil

end Dictionary
end Collocation
