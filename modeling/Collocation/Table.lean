import Std.Data.ExtTreeMap

/-!
# Tables

A table gives values to keys and lists them in ascending order of the keys.  Two tables with the same
values are equal, in whatever order the values were put in.  `Table.combine` joins a second table into
a first one, value by value; `getElem?_combine` says what each key has afterwards.
-/

namespace Collocation

/-- Values of keys. -/
abbrev Table (κ α : Type) [Ord κ] :=
  Std.ExtTreeMap κ α

namespace Table

variable {κ α β : Type} [Ord κ] [Std.TransOrd κ]

/-- Give the key of an entry a new value, made of the one that it has and that of the entry. -/
def join (make : Option α → β → α) (table : Table κ α) (entry : κ × β) : Table κ α :=
  table.alter entry.1 fun current => some (make current entry.2)

/-- Give every key of the second table a new value, made of the one in the first table and that in the
second. -/
def combine (make : Option α → β → α) (first : Table κ α) (second : Table κ β) : Table κ α :=
  second.toList.foldl (join make) first

theorem getElem?_join_self (make : Option α → β → α) (table : Table κ α) (key : κ) (value : β) :
    (join make table (key, value))[key]? = some (make table[key]? value) := by
  simp [join]

variable [Std.LawfulEqOrd κ]

theorem getElem?_join_of_ne (make : Option α → β → α) (table : Table κ α) {entry : κ × β} {key : κ}
    (apart : entry.1 ≠ key) : (join make table entry)[key]? = table[key]? := by
  simp [join, Std.ExtTreeMap.getElem?_alter, Std.LawfulEqCmp.compare_eq_iff_eq, apart]

theorem getElem?_foldl_join_of_forall_ne (make : Option α → β → α) {entries : List (κ × β)} {key : κ}
    (apart : ∀ entry ∈ entries, entry.1 ≠ key) (table : Table κ α) :
    (entries.foldl (join make) table)[key]? = table[key]? := by
  induction entries generalizing table with
  | nil => rfl
  | cons entry entries ih =>
      rw [List.foldl_cons, ih fun other member => apart other (List.mem_cons_of_mem _ member),
        getElem?_join_of_ne make table (apart entry List.mem_cons_self)]

theorem getElem?_foldl_join_of_mem (make : Option α → β → α) {entries : List (κ × β)} {key : κ}
    {value : β} (distinct : entries.Pairwise fun left right => left.1 ≠ right.1)
    (member : (key, value) ∈ entries) (table : Table κ α) :
    (entries.foldl (join make) table)[key]? = some (make table[key]? value) := by
  induction entries generalizing table with
  | nil => simp at member
  | cons entry entries ih =>
      obtain ⟨apart, distinct⟩ := List.pairwise_cons.mp distinct
      rw [List.foldl_cons]
      rcases List.mem_cons.mp member with rfl | later
      · rw [getElem?_foldl_join_of_forall_ne make fun other inside => (apart other inside).symm,
          getElem?_join_self]
      · rw [ih distinct later, getElem?_join_of_ne make table (apart _ later)]

/-- A key of the second table gets the value made for it; every other key keeps what it has. -/
@[simp]
theorem getElem?_combine (make : Option α → β → α) (first : Table κ α) (second : Table κ β) (key : κ) :
    (combine make first second)[key]? =
      match second[key]? with
      | some value => some (make first[key]? value)
      | none => first[key]? := by
  unfold combine
  cases found : second[key]? with
  | none =>
      refine getElem?_foldl_join_of_forall_ne make (fun entry member same => ?_) first
      have := Std.ExtTreeMap.mem_toList_iff_getElem?_eq_some.mp member
      rw [same, found] at this
      exact absurd this (by simp)
  | some value =>
      refine getElem?_foldl_join_of_mem make ?_
        (Std.ExtTreeMap.mem_toList_iff_getElem?_eq_some.mpr found) first
      exact Std.ExtTreeMap.distinct_keys_toList.imp fun apart same =>
        apart (Std.LawfulEqCmp.compare_eq_iff_eq.mpr same)

end Table
end Collocation
