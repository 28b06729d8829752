import Collocation.Proofs.Regex.Remainders

/-!
# What the readers of repetitions and of groups leave

The bounds of a repetition and the opening of a group leave the end of their text, and what they are does not depend on
what stands behind a closing parenthesis that they leave.
-/

namespace Collocation
namespace Regex

open Text

variable {verbose : Bool} (behind : List Char) {full middle rest : List Char} {char : Char}

/-! ## Repetitions -/

theorem dropWhile_isBlank_leaves (full : List Char) :
    Leaves behind full (full.dropWhile isBlank)
      ((upTo behind full).dropWhile isBlank = upTo behind (full.dropWhile isBlank)) := by
  refine ⟨List.dropWhile_suffix _, fun left => ?_⟩
  induction full with
  | nil => simp at left
  | cons char full induction =>
      by_cases blank : isBlank char
      · simp only [List.dropWhile_cons, blank, if_true] at left ⊢
        rw [upTo_cons (left.trans (List.dropWhile_suffix _)), List.dropWhile_cons_of_pos blank, induction left]
      · simp only [List.dropWhile_cons, blank, if_false, Bool.false_eq_true] at left ⊢
        rcases List.suffix_cons_iff.mp left with same | inside
        · obtain ⟨rfl, rfl⟩ := List.cons.inj same
          simp
        · rw [upTo_cons inside, List.dropWhile_cons_of_neg blank]

theorem count?_leaves {value : Option Nat} (found : count? verbose full = (value, rest)) :
    Leaves behind full rest (count? verbose (upTo behind full) = (value, upTo behind rest)) := by
  obtain ⟨rfl, rfl⟩ := Prod.mk.inj found
  refine ((dropWhile_isBlank_leaves _ full).trans
    ((collect_leaves _ _ _ _ _).trans (dropWhile_isBlank_leaves _ _))).imp ?_
  rintro ⟨blanks, collected, after⟩
  simp [count?, blanks, collected, after]

theorem count?_leaves_cons {value : Option Nat} (found : count? verbose full = (value, char :: rest)) :
    Leaves behind full rest (count? verbose (upTo behind full) = (value, char :: upTo behind rest)) :=
  ((count?_leaves _ found).trans (.cons char rest)).imp fun ⟨same, cons⟩ => cons ▸ same

theorem bounds?_eq_some {least : Nat} {most : Option Nat} (found : bounds? verbose full = some (least, most, rest)) :
    (count? verbose (skip verbose full) = (some least, '\x7d' :: rest) ∧ most = some least) ∨
      ∃ after, count? verbose (skip verbose full) = (some least, ',' :: after) ∧
        ((skip verbose after = '\x7d' :: rest ∧ most = none) ∨
          ((∀ tail, skip verbose after ≠ '\x7d' :: tail) ∧ ∃ bound, most = some bound ∧ least ≤ bound ∧
            count? verbose (skip verbose after) = (some bound, '\x7d' :: rest))) := by
  simp only [bounds?] at found
  split at found
  · next least' after counted =>
    refine Or.inr ⟨after, ?_⟩
    split at found
    · next inner closed =>
      obtain ⟨_, rfl, made⟩ := Option.map_eq_some_iff.mp found
      obtain ⟨rfl, rfl, rfl⟩ : _ ∧ _ ∧ _ := by simpa using made
      exact ⟨counted, Or.inl ⟨closed, rfl⟩⟩
    · next open' =>
      simp only [Option.bind_eq_bind, Option.bind_eq_some_iff] at found
      obtain ⟨_, rfl, found⟩ := found
      split at found
      · next bound inner again =>
        split at found
        · next ordered =>
          obtain ⟨rfl, rfl, rfl⟩ : _ ∧ _ ∧ _ := by simpa using found
          exact ⟨counted, Or.inr ⟨open', bound, rfl, ordered, again⟩⟩
        · cases found
      · cases found
  · next least' after counted =>
    obtain ⟨_, rfl, made⟩ := Option.map_eq_some_iff.mp found
    obtain ⟨rfl, rfl, rfl⟩ : _ ∧ _ ∧ _ := by simpa using made
    exact Or.inl ⟨counted, rfl⟩
  · cases found

theorem bounds?_leaves {least : Nat} {most : Option Nat} (found : bounds? verbose full = some (least, most, rest)) :
    Leaves behind full rest (bounds? verbose (upTo behind full) = some (least, most, upTo behind rest)) := by
  obtain ⟨counted, rfl⟩ | ⟨after, counted, ⟨closed, rfl⟩ | ⟨more, bound, rfl, ordered, again⟩⟩ := bounds?_eq_some found
  · refine ((skip_leaves _ verbose full).trans (count?_leaves_cons _ counted)).imp fun ⟨skipped, same⟩ => ?_
    simp [bounds?, skipped, same]
  · refine ((skip_leaves _ verbose full).trans
      ((count?_leaves_cons _ counted).trans (skip_leaves_cons _ closed))).imp ?_
    rintro ⟨skipped, same, closed⟩
    simp [bounds?, skipped, same, closed]
  · refine ((skip_leaves _ verbose full).trans ((count?_leaves_cons _ counted).trans
      ((skip_leaves _ verbose after).trans (count?_leaves_cons _ again)))).imp ?_
    rintro ⟨skipped, same, blanks, again⟩
    have more := upTo_ne_cons behind more
    simp [bounds?, skipped, same, blanks, again, ordered]

theorem bounds?_suffix {least : Nat} {most : Option Nat} (found : bounds? verbose full = some (least, most, rest)) :
    rest <:+ (skip verbose full).tail := by
  obtain ⟨counted, -⟩ | ⟨after, counted, ⟨closed, -⟩ | ⟨-, bound, -, -, again⟩⟩ := bounds?_eq_some found
  · exact suffix_tail_of_cons (count?_leaves [] counted).suffix
  · exact (skip_leaves_cons [] closed).suffix.trans
      (suffix_tail_of_cons (count?_leaves [] counted).suffix)
  · have first := suffix_tail_of_cons (count?_leaves [] counted).suffix
    have second := (count?_leaves_cons [] again).suffix
    exact second.trans ((skip_leaves [] verbose after).suffix.trans first)

theorem le_of_bounds? {least bound : Nat} (found : bounds? verbose full = some (least, some bound, rest)) :
    least ≤ bound := by
  obtain ⟨-, same⟩ | ⟨_, -, ⟨-, same⟩ | ⟨-, _, same, ordered, -⟩⟩ := bounds?_eq_some found
  · exact Nat.le_of_eq (Option.some.inj same).symm
  · cases same
  · exact (Option.some.inj same) ▸ ordered

theorem lazyMark_leaves {marked : Bool} (found : lazyMark full = (marked, rest)) :
    Leaves behind full rest (lazyMark (upTo behind full) = (marked, upTo behind rest)) := by
  unfold lazyMark at found
  split at found
  · next inner =>
    obtain ⟨rfl, rfl⟩ := Prod.mk.inj found
    exact (Leaves.cons _ inner).imp fun cons => by rw [cons]; rfl
  · next plain =>
    obtain ⟨rfl, rfl⟩ := Prod.mk.inj found
    refine (Leaves.refl full).imp fun _ => ?_
    have plain := upTo_ne_cons behind plain
    unfold lazyMark
    split
    · next inner opened => exact absurd opened (plain inner)
    · rfl

/-! ## Groups -/

theorem switches?_leaves {cleared : Option Bool} {changes all : List (Switch × Bool)}
    (found : switches? cleared changes full = some (all, char :: rest)) :
    Leaves behind full rest (switches? cleared changes (upTo behind full) = some (all, char :: upTo behind rest)) := by
  induction full generalizing cleared changes with
  | nil => cases found
  | cons first full induction =>
      simp only [switches?] at found
      split at found
      · next ends =>
        split at found
        · cases found
        · next complete =>
          obtain ⟨rfl, rfl, rfl⟩ : _ ∧ _ ∧ _ := by simpa using found
          refine (Leaves.cons first full).imp fun cons => ?_
          rw [cons]
          simp [switches?, ends, complete]
      · next inside =>
        split at found
        · next hyphen =>
          split at found
          · next fresh =>
            refine ((Leaves.cons first full).trans (induction found)).imp fun ⟨cons, same⟩ => ?_
            rw [cons]
            simp [switches?, hyphen, fresh, same]
          · cases found
        · next letter =>
          simp only [Option.bind_eq_bind, Option.bind_eq_some_iff] at found
          obtain ⟨switch, known, found⟩ := found
          split at found
          · cases found
          · next once =>
            refine ((Leaves.cons first full).trans (induction found)).imp fun ⟨cons, same⟩ => ?_
            rw [cons]
            simp only [switches?, inside, letter, if_false, known, Option.bind_eq_bind, Option.bind_some, once, same]
            simp

theorem groupName?_leaves {name : String} (found : groupName? full = some (name, rest)) :
    Leaves behind full rest (groupName? (upTo behind full) = some (name, upTo behind rest)) := by
  unfold groupName? at found
  split at found
  · next first others after named =>
    split at found
    · next allowed =>
      obtain ⟨rfl, rfl⟩ := Prod.mk.inj (Option.some.inj found)
      refine (cut?_leaves _ named).imp fun same => ?_
      simp [groupName?, same, allowed]
    · cases found
  · cases found

theorem opening?_leaves {opening : Opening} (found : opening? verbose full = some (opening, rest)) :
    Leaves behind full rest (opening? verbose (upTo behind full) = some (opening, upTo behind rest)) := by
  simp only [opening?] at found
  split at found
  · cases found
  · cases found
  · cases found
  · cases found
  · next inner opened =>
    obtain ⟨⟨name, after⟩, named, made⟩ := Option.map_eq_some_iff.mp found
    obtain ⟨rfl, rfl⟩ := Prod.mk.inj made
    refine ((skip_leaves_cons _ opened).trans ((Leaves.cons _ _).trans ((Leaves.cons _ _).trans
      (groupName?_leaves _ named)))).imp fun ⟨skipped, first, second, same⟩ => ?_
    simp [opening?, skipped, first, second, same]
  · next inner notBehind notBehind' opened =>
    obtain ⟨⟨name, after⟩, named, made⟩ := Option.map_eq_some_iff.mp found
    obtain ⟨rfl, rfl⟩ := Prod.mk.inj made
    refine ((skip_leaves_cons _ opened).trans ((Leaves.cons _ _).trans
      (groupName?_leaves _ named))).imp fun ⟨skipped, cons, same⟩ => ?_
    have notBehind := upTo_ne_cons behind notBehind
    have notBehind' := upTo_ne_cons behind notBehind'
    simp [opening?, skipped, cons, same]
  · next inner ahead notAhead behind' notBehind named short opened =>
    have ahead := upTo_ne_cons behind ahead
    have notAhead := upTo_ne_cons behind notAhead
    have behind' := upTo_ne_cons_cons behind behind'
    have notBehind := upTo_ne_cons_cons behind notBehind
    have named := upTo_ne_cons_cons behind named
    have short := upTo_ne_cons behind short
    split at found
    · next changes after switches =>
      obtain ⟨rfl, rfl⟩ := Prod.mk.inj (Option.some.inj found)
      refine ((skip_leaves_cons _ opened).trans (switches?_leaves _ switches)).imp fun ⟨skipped, same⟩ => ?_
      simp [opening?, skipped, same]
    · next changes mark after other switches =>
      split at found
      · cases found
      · next some' =>
        obtain ⟨rfl, rfl⟩ := Prod.mk.inj (Option.some.inj found)
        refine ((skip_leaves_cons _ opened).trans (switches?_leaves _ switches)).imp fun ⟨skipped, same⟩ => ?_
        simp [opening?, skipped, same, some']
    · cases found
  · next plain =>
    obtain ⟨rfl, rfl⟩ := Prod.mk.inj (Option.some.inj found)
    refine (skip_leaves _ verbose full).imp fun skipped => ?_
    have plain := upTo_ne_cons behind plain
    simp only [opening?, skipped]
    split
    all_goals first
      | exact absurd ‹_› (plain _)
      | rfl

end Regex
end Collocation
