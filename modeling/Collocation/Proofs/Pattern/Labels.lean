import Collocation.Pattern.Basic
import Collocation.Proofs.Answers
import Mathlib.Data.List.Forall2

/-!
# Labels that are read

Every label that a text declares has at least one character, and only characters that may stand in a label.
-/

namespace Collocation
namespace Written

/-- A word that may be declared as a label. -/
structure IsLabel (label : String) : Prop where
  nonempty : label ≠ ""
  chars : ∀ char ∈ label.toList, isLabelChar char = true

theorem isLabel_of_label? {text rest : List Char} {label : String}
    (read : label? text = (some label, rest)) : IsLabel label := by
  rw [label?] at read
  split at read
  · next first others _ _ word _ =>
      obtain ⟨rfl, -⟩ := Prod.mk.inj read |>.imp_left Option.some.inj
      refine ⟨fun blank => ?_, fun char member => ?_⟩
      · have nothing := congrArg String.toList blank
        rw [String.toList_ofList] at nothing
        cases nothing
      · rw [String.toList_ofList, ← word] at member
        exact List.all_eq_true.mp List.all_takeWhile char member
  · cases (Prod.mk.inj read).1

theorem isLabel_of_slot? {text rest : List Char} {slot : Slot} (read : slot? text = some (slot, rest))
    {label : String} (named : slot.label = some label) : IsLabel label := by
  rw [slot?] at read
  split at read
  · next found inner labelled =>
      have same : slot.label = found := by
        split at read
        · cases read
          rfl
        · simp only [Option.bind_eq_bind, Option.bind_eq_some_iff] at read
          obtain ⟨⟨parts, later⟩, -, read⟩ := read
          dsimp only at read
          split at read
          · cases read
            rfl
          · cases read
      rw [same] at named
      subst named
      exact isLabel_of_label? labelled
  · cases read

theorem isLabel_of_furtherSlots? {fuel : Nat} {text rest : List Char}
    {slots : List (Option Bounds × Slot)} (read : furtherSlots? fuel text = some (slots, rest)) :
    ∀ step ∈ slots, ∀ label, step.2.label = some label → IsLabel label := by
  induction fuel generalizing text slots rest with
  | zero => cases read
  | succ fuel induction =>
      rw [furtherSlots?] at read
      dsimp only at read
      split at read
      · simp only [Option.bind_eq_bind, Option.bind_eq_some_iff] at read
        obtain ⟨⟨bounds, afterBounds⟩, -, ⟨slot, afterSlot⟩, here, ⟨others, last⟩, further, same⟩ := read
        cases same
        refine List.forall_mem_cons.mpr ⟨fun label named => isLabel_of_slot? here named, ?_⟩
        exact induction further
      · cases read
        exact fun step member => absurd member List.not_mem_nil

theorem isLabel_of_ofText? {text : List Char} {pattern : Pattern}
    (read : Pattern.ofText? text = some pattern) :
    (∀ label, pattern.first.label = some label → IsLabel label) ∧
      ∀ step ∈ pattern.rest, ∀ label, step.2.label = some label → IsLabel label := by
  simp only [Pattern.ofText?, Option.bind_eq_bind, Option.bind_eq_some_iff] at read
  obtain ⟨⟨first, afterFirst⟩, firstRead, ⟨rest, afterRest⟩, restRead, agreements, -, same⟩ := read
  cases same
  exact ⟨fun label named => isLabel_of_slot? firstRead named, isLabel_of_furtherSlots? restRead⟩

end Written

namespace Draft

theorem label_ofWritten {written : Written.Slot} {slot : Slot} (made : Slot.ofWritten written = .ok slot) :
    slot.label = written.label := by
  rw [Slot.ofWritten] at made
  split at made
  · cases made
    rfl
  · simp only [bind_eq_ok_iff, pure_eq_ok_iff] at made
    obtain ⟨constraint, -, rfl⟩ := made
    rfl

/-- The slots of the steps are made from the written ones in their order. -/
theorem made_of_stepsOfWritten {written : List (Option Written.Bounds × Written.Slot)}
    {steps : List (Option Gap × Slot)} (made : stepsOfWritten written = .ok steps) :
    List.Forall₂ (fun origin step => Slot.ofWritten origin.2 = .ok step.2) written steps := by
  induction written generalizing steps with
  | nil =>
      cases made
      exact .nil
  | cons origin written induction =>
      obtain ⟨bounds, slot⟩ := origin
      have parts : ∃ gap here others, Slot.ofWritten slot = .ok here ∧
          stepsOfWritten written = .ok others ∧ (gap, here) :: others = steps := by
        cases bounds <;>
          (simp only [stepsOfWritten, bind_eq_ok_iff, pure_eq_ok_iff] at made
           obtain ⟨gap, -, here, hereMade, others, further, same⟩ := made
           exact ⟨gap, here, others, hereMade, further, same⟩)
      obtain ⟨gap, here, others, hereMade, further, rfl⟩ := parts
      exact .cons hereMade (induction further)

theorem exists_written_of_mem_steps {written : List (Option Written.Bounds × Written.Slot)}
    {steps : List (Option Gap × Slot)} (made : stepsOfWritten written = .ok steps) :
    ∀ step ∈ steps, ∃ origin ∈ written, step.2.label = origin.2.label := by
  replace made := made_of_stepsOfWritten made
  induction made with
  | nil => exact fun step member => absurd member List.not_mem_nil
  | cons here others induction =>
      refine List.forall_mem_cons.mpr ⟨⟨_, List.mem_cons_self, label_ofWritten here⟩, fun step member => ?_⟩
      obtain ⟨earlier, inside, same⟩ := induction step member
      exact ⟨earlier, List.mem_cons_of_mem _ inside, same⟩

/-- Every label of a draft is one that may be declared. -/
theorem isLabel_of_mem_slots {source : String} {draft : Draft} (read : ofText source = .ok draft)
    {slot : Slot} (member : slot ∈ draft.slots) {label : String} (named : slot.label = some label) :
    Written.IsLabel label := by
  rw [ofText] at read
  split at read
  · cases read
  · next pattern written =>
      obtain ⟨firstLabel, restLabels⟩ := Written.isLabel_of_ofText? written
      simp only [ofWritten, bind_eq_ok_iff, pure_eq_ok_iff] at read
      obtain ⟨first, firstMade, rest, restMade, rfl⟩ := read
      rcases List.mem_cons.mp member with rfl | later
      · exact firstLabel label ((label_ofWritten firstMade).symm.trans named)
      · obtain ⟨step, inside, rfl⟩ := List.mem_map.mp later
        obtain ⟨origin, known, same⟩ := exists_written_of_mem_steps restMade step inside
        exact restLabels origin known label (same.symm.trans named)

/-- A slot of a draft has the label. -/
def Declares (draft : Draft) (label : String) : Prop :=
  ∃ slot ∈ draft.slots, slot.label = some label

instance (draft : Draft) (label : String) : Decidable (draft.Declares label) :=
  inferInstanceAs (Decidable (∃ slot ∈ draft.slots, slot.label = some label))

variable {draft : Draft} {label : String}

theorem placeOf?_eq_none_iff : draft.placeOf? label = none ↔ ¬ draft.Declares label := by
  simp only [placeOf?, List.findIdx?_eq_none_iff, Declares, beq_eq_false_iff_ne, not_exists, not_and]

theorem exists_placeOf?_iff : (∃ place, draft.placeOf? label = some place) ↔ draft.Declares label := by
  rw [← Option.isSome_iff_exists, Option.isSome_iff_ne_none, Ne, placeOf?_eq_none_iff, Decidable.not_not]

end Draft
end Collocation
