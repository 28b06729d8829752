import Collocation.Table

/-!
# Tables as ascending lists

A table is its list of entries in ascending order of the keys.  So the list of a table is any ascending
list of its entries, and an entry above all others stands at the end.
-/

namespace Collocation
namespace Table

variable {κ α : Type} [Ord κ] [Std.TransOrd κ] [Std.LawfulEqOrd κ]

theorem getElem?_insert_of_ne {table : Table κ α} {key other : κ} (apart : key ≠ other) (value : α) :
    (table.insert key value)[other]? = table[other]? := by
  simp [Std.ExtTreeMap.getElem?_insert, Std.LawfulEqCmp.compare_eq_iff_eq, apart]

/-- What is found after an insertion was inserted, or it stood under another key. -/
theorem of_getElem?_insert_eq_some {table : Table κ α} {key other : κ} {value current : α}
    (found : (table.insert key value)[other]? = some current) :
    key = other ∧ value = current ∨ key ≠ other ∧ table[other]? = some current := by
  by_cases same : key = other
  · subst same
    rw [Std.ExtTreeMap.getElem?_insert_self, Option.some.injEq] at found
    exact Or.inl ⟨rfl, found⟩
  · rw [getElem?_insert_of_ne same] at found
    exact Or.inr ⟨same, found⟩

theorem toList_eq_of_ascending {table : Table κ α} {entries : List (κ × α)}
    (ascending : entries.Pairwise fun left right => compare left.1 right.1 = .lt)
    (same : ∀ key value, (key, value) ∈ entries ↔ table[key]? = some value) :
    table.toList = entries := by
  have distinct {list : List (κ × α)}
      (ordered : list.Pairwise fun left right => compare left.1 right.1 = .lt) : list.Nodup :=
    ordered.imp fun {left right} before equal => by simp [equal] at before
  have permuted : table.toList.Perm entries := by
    refine (List.perm_ext_iff_of_nodup (distinct table.ordered_keys_toList)
      (distinct ascending)).mpr fun entry => ?_
    rw [same entry.1 entry.2]
    exact Std.ExtTreeMap.mem_toList_iff_getElem?_eq_some
  refine permuted.eq_of_pairwise (fun left right _ _ before after => ?_)
    table.ordered_keys_toList ascending
  have swapped := Std.OrientedCmp.gt_of_lt after
  rw [before] at swapped
  cases swapped

theorem toList_insert_of_forall_lt {table : Table κ α} {key : κ}
    (above : ∀ other value, table[other]? = some value → compare other key = .lt) (value : α) :
    (table.insert key value).toList = table.toList ++ [(key, value)] := by
  have entry {other : κ} {current : α} :
      (other, current) ∈ table.toList ↔ table[other]? = some current :=
    Std.ExtTreeMap.mem_toList_iff_getElem?_eq_some
  refine toList_eq_of_ascending ?_ fun other current => ?_
  · refine List.pairwise_append.mpr ⟨table.ordered_keys_toList, by simp, ?_⟩
    intro left member right last
    rw [List.mem_singleton.mp last]
    exact above left.1 left.2 (entry.mp member)
  · rw [List.mem_append, entry, List.mem_singleton, Prod.mk.injEq]
    by_cases same : key = other
    · subst same
      rw [Std.ExtTreeMap.getElem?_insert_self, Option.some.injEq]
      constructor
      · rintro (old | ⟨-, rfl⟩)
        · have before := above key current old
          exact absurd before (by simp)
        · rfl
      · rintro rfl
        exact Or.inr ⟨rfl, rfl⟩
    · rw [getElem?_insert_of_ne same]
      constructor
      · rintro (old | ⟨equal, -⟩)
        · exact old
        · exact absurd equal.symm same
      · exact Or.inl

omit [Std.LawfulEqOrd κ] in
theorem compare_eq_lt_of_getLast?_keys {table : Table κ α} {bound : κ}
    (above : ∀ last, table.keys.getLast? = some last → compare last bound = .lt) {key : κ} {value : α}
    (found : table[key]? = some value) : compare key bound = .lt := by
  have member : key ∈ table :=
    Std.ExtTreeMap.mem_iff_isSome_getElem?.mpr (Option.isSome_of_eq_some found)
  cases greatest : table.maxKey? with
  | none =>
      have vacant := Std.ExtTreeMap.maxKey?_eq_none_iff.mp greatest
      simp [vacant] at found
  | some last =>
      have below : (compare key last).isLE = true := by
        simpa only [greatest, Option.get_some] using Std.ExtTreeMap.le_maxKey?_of_mem member rfl
      rw [Std.ExtTreeMap.maxKey?_eq_getLast?_keys] at greatest
      exact Std.TransCmp.lt_of_isLE_of_lt below (above last greatest)

theorem mem_values_iff {table : Table κ α} {value : α} :
    value ∈ table.values ↔ ∃ key : κ, table[key]? = some value := by
  have listed : table.values = table.toList.map Prod.snd := by
    obtain ⟨inner⟩ := table
    induction inner using Std.ExtDTreeMap.inductionOn with
    | mk tree =>
        change tree.inner.values = (Std.DTreeMap.Internal.Impl.Const.toList tree.inner).map Prod.snd
        rw [Std.DTreeMap.Internal.Impl.values_eq_map_snd,
          Std.DTreeMap.Internal.Impl.Const.toList_eq_toListModel_map, List.map_map]
        rfl
  rw [listed, List.mem_map]
  constructor
  · rintro ⟨⟨key, value⟩, member, rfl⟩
    exact ⟨key, Std.ExtTreeMap.mem_toList_iff_getElem?_eq_some.mp member⟩
  · rintro ⟨key, found⟩
    exact ⟨(key, value), Std.ExtTreeMap.mem_toList_iff_getElem?_eq_some.mpr found, rfl⟩

end Table
end Collocation
