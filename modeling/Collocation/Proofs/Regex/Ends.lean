import Mathlib.Logic.Function.Iterate
import Collocation.Regex.Meaning

/-!
# The ends of matches

`Expr.advance` computes the ends of exactly the matches that `Matches` describes, if no repetition has its bounds out of
order.  An expression that is set between the start and the end of the text matches a stretch of it only if it matches
the whole.
-/

namespace Collocation
namespace Regex

variable {text : Array Char} {first second body : Expr} {count start middle stop : Nat}

/-! ## Matches by the form of the expression -/

@[simp]
theorem matches_empty_iff : Matches text .empty start stop ↔ start = stop :=
  ⟨fun found => by cases found; rfl, fun same => same ▸ .empty start⟩

@[simp]
theorem matches_one_iff {set : Unicode.CodeSet} :
    Matches text (.one set) start stop ↔ (∃ char, text[start]? = some char ∧ set.contains char) ∧ stop = start + 1 :=
  ⟨fun found => by cases found with | one found member => exact ⟨⟨_, found, member⟩, rfl⟩,
    fun ⟨⟨_, found, member⟩, same⟩ => same ▸ .one found member⟩

@[simp]
theorem matches_look_iff {condition : Look} :
    Matches text (.look condition) start stop ↔ condition.holds text start ∧ start = stop :=
  ⟨fun found => by cases found with | look holds => exact ⟨holds, rfl⟩, fun ⟨holds, same⟩ => same ▸ .look holds⟩

@[simp]
theorem matches_seq_iff :
    Matches text (.seq first second) start stop ↔
      ∃ middle, Matches text first start middle ∧ Matches text second middle stop :=
  ⟨fun found => by cases found with | seq early late => exact ⟨_, early, late⟩, fun ⟨_, early, late⟩ => .seq early late⟩

@[simp]
theorem matches_alt_iff :
    Matches text (.alt first second) start stop ↔ Matches text first start stop ∨ Matches text second start stop :=
  ⟨fun found => by
    cases found with
    | left inner => exact Or.inl inner
    | right inner => exact Or.inr inner, fun found => found.elim .left .right⟩

@[simp]
theorem matches_rounds_iff {least : Nat} {most : Option Nat} :
    Matches text (.rounds body least most) start stop ↔
      ∃ count, least ≤ count ∧ (∀ bound ∈ most, count ≤ bound) ∧ Repeats text body count start stop :=
  ⟨fun found => by cases found with | rounds enough within inner => exact ⟨_, enough, within, inner⟩,
    fun ⟨_, enough, within, inner⟩ => .rounds enough within inner⟩

@[simp]
theorem repeats_zero_iff : Repeats text body 0 start stop ↔ start = stop :=
  ⟨fun found => by cases found; rfl, fun same => same ▸ .none body start⟩

@[simp]
theorem repeats_succ_iff :
    Repeats text body (count + 1) start stop ↔
      ∃ middle, Matches text body start middle ∧ Repeats text body count middle stop :=
  ⟨fun found => by cases found with | more early late => exact ⟨_, early, late⟩,
    fun ⟨_, early, late⟩ => .more early late⟩

theorem repeats_add_iff {more : Nat} :
    Repeats text body (count + more) start stop ↔
      ∃ middle, Repeats text body count start middle ∧ Repeats text body more middle stop := by
  induction count generalizing start with
  | zero => simp
  | succ count induction =>
      rw [Nat.add_right_comm, repeats_succ_iff]
      simp only [induction, repeats_succ_iff]
      constructor
      · rintro ⟨next, early, middle, between, late⟩
        exact ⟨middle, ⟨next, early, between⟩, late⟩
      · rintro ⟨middle, ⟨next, early, between⟩, late⟩
        exact ⟨next, early, middle, between, late⟩

/-- Rounds stay within the text if each of them does. -/
theorem Repeats.within
    (each : ∀ {start stop}, start ≤ text.size → Matches text body start stop → start ≤ stop ∧ stop ≤ text.size)
    (inside : start ≤ text.size) (found : Repeats text body count start stop) : start ≤ stop ∧ stop ≤ text.size := by
  induction count generalizing start with
  | zero => exact repeats_zero_iff.mp found ▸ ⟨Nat.le_refl start, inside⟩
  | succ count induction =>
      obtain ⟨middle, early, late⟩ := repeats_succ_iff.mp found
      obtain ⟨forward, inside⟩ := each inside early
      exact ⟨Nat.le_trans forward (induction inside late).1, (induction inside late).2⟩

theorem Matches.within {expr : Expr} (inside : start ≤ text.size) (found : Matches text expr start stop) :
    start ≤ stop ∧ stop ≤ text.size := by
  induction expr generalizing start stop with
  | empty => exact matches_empty_iff.mp found ▸ ⟨Nat.le_refl start, inside⟩
  | one set =>
      obtain ⟨⟨char, at', -⟩, rfl⟩ := matches_one_iff.mp found
      obtain ⟨below, -⟩ := Array.getElem?_eq_some_iff.mp at'
      exact ⟨Nat.le_succ start, below⟩
  | look condition => exact (matches_look_iff.mp found).2 ▸ ⟨Nat.le_refl start, inside⟩
  | seq first second early late =>
      obtain ⟨middle, before, behind⟩ := matches_seq_iff.mp found
      obtain ⟨forward, inside⟩ := early inside before
      exact ⟨Nat.le_trans forward (late inside behind).1, (late inside behind).2⟩
  | alt left right early late => exact (matches_alt_iff.mp found).elim (early inside) (late inside)
  | rounds body least most each =>
      obtain ⟨count, -, -, inner⟩ := matches_rounds_iff.mp found
      exact inner.within each inside

/-- A round that consumes nothing can be left out, so that no more rounds are needed than characters. -/
theorem Repeats.exists_few (inside : start ≤ text.size) (found : Repeats text body count start stop) :
    ∃ few ≤ stop - start, Repeats text body few start stop := by
  induction count generalizing start with
  | zero => exact ⟨0, Nat.zero_le _, found⟩
  | succ count induction =>
      obtain ⟨middle, early, late⟩ := repeats_succ_iff.mp found
      obtain ⟨forward, inside'⟩ := early.within inside
      obtain ⟨few, bound, rounds⟩ := induction inside' late
      obtain rfl | ahead := Nat.eq_or_lt_of_le forward
      · exact ⟨few, bound, rounds⟩
      · have later := (rounds.within Matches.within inside').1
        exact ⟨few + 1, by omega, repeats_succ_iff.mpr ⟨middle, early, rounds⟩⟩

/-! ## Sets of positions -/

@[simp]
theorem testBit_positionsBelow (test : Nat → Bool) (bound position : Nat) :
    (positionsBelow test bound).testBit position = (decide (position < bound) && test position) := by
  induction bound with
  | zero => simp [positionsBelow]
  | succ bound induction =>
      rw [positionsBelow]
      split
      · next holds =>
        rw [Nat.testBit_or, induction, Nat.one_shiftLeft, Nat.testBit_two_pow]
        by_cases last : position = bound
        · simp [last, holds]
        · have : position < bound + 1 ↔ position < bound := by omega
          simp [this, Ne.symm last]
      · next fails =>
        rw [induction]
        by_cases last : position = bound
        · simp [last, fails]
        · have : position < bound + 1 ↔ position < bound := by omega
          simp [this]

theorem stepTimes_eq_iterate (step : Nat → Nat) (count positions : Nat) :
    stepTimes step count positions = step^[count] positions := by
  induction count generalizing positions with
  | zero => rfl
  | succ count induction =>
      rw [stepTimes, Function.iterate_succ_apply]
      split
      · next fixed => rw [fixed, Function.iterate_fixed fixed]
      · exact induction (step positions)

theorem stepUpTo_eq_iterate (step : Nat → Nat) (count positions : Nat) :
    stepUpTo step count positions = (fun positions => positions ||| step positions)^[count] positions := by
  induction count generalizing positions with
  | zero => rfl
  | succ count induction =>
      rw [stepUpTo, Function.iterate_succ_apply]
      split
      · next fixed => rw [fixed, Function.iterate_fixed fixed]
      · exact induction (positions ||| step positions)

/-- The positions of a set are positions of a text. -/
def Inside (text : Array Char) (positions : Nat) : Prop :=
  ∀ position, positions.testBit position → position ≤ text.size

/-- A step leads from positions of a text to the ends of the matches that start there. -/
def Steps (text : Array Char) (expr : Expr) (step : Nat → Nat) : Prop :=
  ∀ starts, Inside text starts → ∀ stop,
    (step starts).testBit stop ↔ ∃ start, starts.testBit start ∧ Matches text expr start stop

namespace Steps

variable {expr : Expr} {step : Nat → Nat} {starts : Nat}

theorem inside (steps : Steps text expr step) (inside : Inside text starts) : Inside text (step starts) := by
  intro stop reached
  obtain ⟨start, among, found⟩ := (steps starts inside stop).mp reached
  exact (found.within (inside start among)).2

theorem iterate (steps : Steps text expr step) (inside : Inside text starts) (count stop : Nat) :
    (step^[count] starts).testBit stop ↔ ∃ start, starts.testBit start ∧ Repeats text expr count start stop := by
  induction count generalizing starts with
  | zero => simp
  | succ count induction =>
      rw [Function.iterate_succ_apply, induction (steps.inside inside)]
      simp only [steps starts inside, repeats_succ_iff]
      constructor
      · rintro ⟨middle, ⟨start, among, early⟩, late⟩
        exact ⟨start, among, middle, early, late⟩
      · rintro ⟨start, among, middle, early, late⟩
        exact ⟨middle, ⟨start, among, early⟩, late⟩

theorem iterate_inside (steps : Steps text expr step) (inside : Inside text starts) (count : Nat) :
    Inside text (step^[count] starts) := by
  intro stop reached
  obtain ⟨start, among, found⟩ := (steps.iterate inside count stop).mp reached
  exact (found.within Matches.within (inside start among)).2

theorem iterate_or (steps : Steps text expr step) (inside : Inside text starts) (count stop : Nat) :
    ((fun positions => positions ||| step positions)^[count] starts).testBit stop ↔
      ∃ start, starts.testBit start ∧ ∃ few ≤ count, Repeats text expr few start stop := by
  induction count generalizing starts with
  | zero => simp
  | succ count induction =>
      have inside' : Inside text (starts ||| step starts) := by
        intro position among
        rw [Nat.testBit_or, Bool.or_eq_true] at among
        exact among.elim (inside position) (steps.inside inside position)
      rw [Function.iterate_succ_apply, induction inside']
      simp only [Nat.testBit_or, Bool.or_eq_true, steps starts inside]
      constructor
      · rintro ⟨start, among | ⟨earlier, among, early⟩, few, bound, rounds⟩
        · exact ⟨start, among, few, Nat.le_succ_of_le bound, rounds⟩
        · exact ⟨earlier, among, few + 1, Nat.succ_le_succ bound, repeats_succ_iff.mpr ⟨start, early, rounds⟩⟩
      · rintro ⟨start, among, few, bound, rounds⟩
        cases few with
        | zero => exact ⟨start, Or.inl among, 0, Nat.zero_le _, rounds⟩
        | succ few =>
            obtain ⟨middle, early, late⟩ := repeats_succ_iff.mp rounds
            exact ⟨middle, Or.inr ⟨start, among, early⟩, few, Nat.le_of_succ_le_succ bound, late⟩

end Steps

/-- No repetition has its bounds out of order. -/
def Expr.Ordered : Expr → Prop
  | .seq first second => first.Ordered ∧ second.Ordered
  | .alt left right => left.Ordered ∧ right.Ordered
  | .rounds body least most => (∀ bound ∈ most, least ≤ bound) ∧ body.Ordered
  | _ => True

/-- The positions that an expression leads to are the ends of its matches. -/
theorem steps_advance {expr : Expr} (ordered : expr.Ordered) : Steps text expr (expr.advance text) := by
  induction expr with
  | empty => intro starts inside stop; simp [Expr.advance]
  | one set =>
      intro starts inside stop
      simp only [Expr.advance, Nat.testBit_shiftLeft, testBit_positionsBelow, matches_one_iff]
      cases stop with
      | zero => simp
      | succ position =>
          have single : text[position]?.any set.contains ↔ ∃ char, text[position]? = some char ∧ set.contains char := by
            cases text[position]? <;> simp
          simp only [Nat.add_sub_cancel, ge_iff_le, Nat.le_add_left, decide_true, Bool.true_and, Bool.and_eq_true,
            decide_eq_true_eq, single]
          constructor
          · rintro ⟨-, among, found⟩
            exact ⟨position, among, found, rfl⟩
          · rintro ⟨start, among, ⟨char, found, member⟩, same⟩
            obtain rfl := Nat.succ.inj same
            obtain ⟨below, -⟩ := Array.getElem?_eq_some_iff.mp found
            exact ⟨below, among, char, found, member⟩
  | look condition =>
      intro starts inside stop
      simp only [Expr.advance, testBit_positionsBelow, matches_look_iff, Bool.and_eq_true, decide_eq_true_eq]
      constructor
      · rintro ⟨-, among, holds⟩
        exact ⟨stop, among, holds, rfl⟩
      · rintro ⟨start, among, holds, rfl⟩
        exact ⟨Nat.lt_succ_of_le (inside start among), among, holds⟩
  | seq first second early late =>
      intro starts inside stop
      have early := early ordered.1
      rw [Expr.advance, late ordered.2 _ (early.inside inside)]
      simp only [early starts inside, matches_seq_iff]
      constructor
      · rintro ⟨middle, ⟨start, among, before⟩, behind⟩
        exact ⟨start, among, middle, before, behind⟩
      · rintro ⟨start, among, middle, before, behind⟩
        exact ⟨middle, ⟨start, among, before⟩, behind⟩
  | alt left right early late =>
      intro starts inside stop
      rw [Expr.advance, Nat.testBit_or, Bool.or_eq_true, early ordered.1 starts inside, late ordered.2 starts inside]
      simp only [matches_alt_iff, and_or_left, exists_or]
  | rounds body least most each =>
      intro starts inside stop
      have each := each ordered.2
      rw [Expr.advance, stepUpTo_eq_iterate, stepTimes_eq_iterate, each.iterate_or (each.iterate_inside inside least)]
      simp only [each.iterate inside, matches_rounds_iff]
      constructor
      · rintro ⟨middle, ⟨start, among, early⟩, few, bound, late⟩
        refine ⟨start, among, least + few, Nat.le_add_right least few, ?_, repeats_add_iff.mpr ⟨middle, early, late⟩⟩
        rintro most rfl
        have := ordered.1 most rfl
        simp at bound
        omega
      · rintro ⟨start, among, count, enough, within, rounds⟩
        obtain ⟨more, rfl⟩ := Nat.exists_eq_add_of_le enough
        obtain ⟨middle, early, late⟩ := repeats_add_iff.mp rounds
        refine ⟨middle, ⟨start, among, early⟩, ?_⟩
        cases most with
        | none =>
            have inside := (early.within Matches.within (inside start among)).2
            obtain ⟨few, bound, few_late⟩ := late.exists_few inside
            have := (late.within Matches.within inside).2
            exact ⟨few, by simp; omega, few_late⟩
        | some most =>
            have := within most rfl
            exact ⟨more, by simp; omega, late⟩

/-- An expression matches within a text if it matches a stretch of it. -/
theorem matchesWithin_iff {expr : Expr} (ordered : expr.Ordered) :
    expr.matchesWithin text ↔ ∃ start stop, start ≤ text.size ∧ Matches text expr start stop := by
  have all (position : Nat) : ((1 <<< (text.size + 1)) - 1).testBit position ↔ position ≤ text.size := by
    rw [Nat.one_shiftLeft, Nat.testBit_two_pow_sub_one, decide_eq_true_iff, Nat.lt_succ_iff]
  have steps : Steps text expr (expr.advance text) := steps_advance ordered
  have reached := steps _ fun position => (all position).mp
  rw [Expr.matchesWithin, bne_iff_ne]
  constructor
  · intro some'
    obtain ⟨stop, set⟩ := Nat.exists_testBit_of_ne_zero some'
    obtain ⟨start, among, found⟩ := (reached stop).mp set
    exact ⟨start, stop, (all start).mp among, found⟩
  · rintro ⟨start, stop, inside, found⟩ none
    have := (reached stop).mpr ⟨start, (all start).mpr inside, found⟩
    simp [none] at this

end Regex
end Collocation
