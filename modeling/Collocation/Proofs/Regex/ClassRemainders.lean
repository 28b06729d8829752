import Collocation.Proofs.Regex.Remainders

/-!
# What the reader of classes leaves

A class leaves the end of its text, and what it is does not depend on what stands behind a closing parenthesis that it
leaves.  Where a part of it looks ahead, this holds only if the class goes on behind that part.
-/

namespace Collocation
namespace Regex

open Text

variable {verbose : Bool} (behind : List Char) {full middle rest : List Char} {char : Char}

/-! ## Parts -/

theorem asciiClass?_eq_some_iff {tree : ClassTree} :
    asciiClass? full = some (tree, rest) ↔
      ∃ name text kind negated, full = ':' :: (if negated then '^' :: text else text) ∧
        (negated = false → ∀ tail, text ≠ '^' :: tail) ∧ cut? ':' text = some (name, ']' :: rest) ∧
        asciiClassNamed? (String.ofList name) = some kind ∧ tree = .ascii kind negated := by
  constructor
  · intro found
    simp only [asciiClass?] at found
    split at found
    · next inner =>
      split at found
      · next name after cut =>
        simp only [Option.bind_eq_bind, Option.bind_eq_some_iff] at found
        obtain ⟨kind, known, made⟩ := found
        obtain ⟨rfl, rfl⟩ := Prod.mk.inj (Option.some.inj made)
        split at cut
        · next text => exact ⟨name, text, kind, true, rfl, by simp, cut, known, rfl⟩
        · next plain => exact ⟨name, inner, kind, false, rfl, fun _ => plain, cut, known, rfl⟩
      · cases found
    · cases found
  · rintro ⟨name, text, kind, negated, rfl, plain, cut, known, rfl⟩
    cases negated with
    | true => simp [asciiClass?, cut, known]
    | false =>
        have unmarked := plain rfl
        simp [asciiClass?, cut, known]

theorem asciiClass?_leaves {tree : ClassTree} (found : asciiClass? full = some (tree, rest)) :
    Leaves behind full rest (asciiClass? (upTo behind full) = some (tree, upTo behind rest)) := by
  obtain ⟨name, text, kind, negated, rfl, plain, cut, known, rfl⟩ := asciiClass?_eq_some_iff.mp found
  have leaves := (cut?_leaves behind cut).trans (.cons _ rest)
  have opening : Leaves behind (':' :: (if negated then '^' :: text else text)) text
      (upTo behind (':' :: (if negated then '^' :: text else text)) =
        ':' :: (if negated then '^' :: upTo behind text else upTo behind text)) := by
    cases negated with
    | true => exact ((Leaves.cons _ _).trans (.cons _ _)).imp fun ⟨colon, mark⟩ => colon.trans (congrArg _ mark)
    | false => exact Leaves.cons _ _
  refine (opening.trans leaves).imp fun ⟨opened, same, closed⟩ => ?_
  exact asciiClass?_eq_some_iff.mpr ⟨name, upTo behind text, kind, negated, opened,
    fun positive => upTo_ne_cons _ (plain positive), closed ▸ same, known, rfl⟩

theorem asciiClass?_append {text : List Char} {tree : ClassTree} (found : asciiClass? text = some (tree, rest))
    (more : List Char) : asciiClass? (text ++ more) = some (tree, rest ++ more) := by
  obtain ⟨name, inner, kind, negated, rfl, plain, cut, known, rfl⟩ := asciiClass?_eq_some_iff.mp found
  refine asciiClass?_eq_some_iff.mpr ⟨name, inner ++ more, kind, negated, ?_, fun positive tail same => ?_,
    cut?_append_of_eq_some cut more, known, rfl⟩
  · cases negated <;> rfl
  · cases inner with
    | nil => cases cut
    | cons first inner => exact plain positive inner (by rw [(List.cons.inj same).1])

theorem classToken?_leaves {tree : Tree} (found : classToken? verbose full = some (tree, rest)) :
    Leaves behind full rest (classToken? verbose (upTo behind full) = some (tree, upTo behind rest) ∨
      Dangles verbose behind tree rest) := by
  unfold classToken? at found
  split at found
  · cases found
  · next inner =>
    exact ((Leaves.cons _ inner).trans (escape?_leaves _ found)).imp fun ⟨cons, same⟩ =>
      same.imp (fun same => by rw [cons]; exact same) id
  · next first after plain =>
    obtain ⟨rfl, rfl⟩ := Prod.mk.inj (Option.some.inj found)
    refine (Leaves.cons first after).imp fun cons => Or.inl ?_
    rw [cons]
    unfold classToken?
    split
    · contradiction
    · grind
    · grind


theorem peekVerbose_append {fallback fallback' : Option Char} {mark : Char} (absent : fallback ≠ some mark)
    (other : mark ≠ ')') (marked : Bool) (text behind : List Char) :
    peekVerbose fallback marked text = some mark ↔
      peekVerbose fallback' marked (text ++ ')' :: behind) = some mark := by
  induction text generalizing marked with
  | nil =>
      have solid : isBlank ')' = false := by decide
      simp [peekVerbose, solid, absent, other.symm]
  | cons char text induction =>
      simp only [List.cons_append, peekVerbose]
      split
      · exact induction marked
      · split
        · exact induction true
        · rfl

theorem peek_upTo {mark : Char} (solid : mark ≠ ')' ∧ isBlank mark = false ∧ mark ≠ '#')
    (left : ')' :: behind <:+ full) :
    peek verbose (upTo behind full) = some mark ↔ peek verbose full = some mark := by
  obtain ⟨other, solid, plain⟩ := solid
  obtain ⟨text, rfl⟩ := left
  rw [upTo_append]
  cases text with
  | nil => cases verbose <;> simp [peek, peekVerbose, other.symm, show isBlank ')' = false by decide]
  | cons char text =>
      cases verbose with
      | false => simp [peek]
      | true =>
          by_cases same : char = mark
          · simp [peek, peekVerbose, same, solid, plain]
          · exact peekVerbose_append (by simp [same]) other false (char :: text) behind

theorem classRange?_eq_some_iff {part : ClassTree} :
    classRange? verbose full = some (part, rest) ↔
      ∃ first after, classToken? verbose full = some (first, after) ∧
        (ClassTree.ofToken? first = some part ∧ skip verbose after = rest ∧ rest ≠ [] ∧
            (∀ tail, rest = '-' :: tail → peek verbose tail = some ']' ∨ peek verbose tail = some '-') ∨
          ∃ tail low high, skip verbose after = '-' :: tail ∧ peek verbose tail ≠ some ']' ∧
            peek verbose tail ≠ some '-' ∧ first = .literal low ∧
            classToken? verbose (skip verbose tail) = some (.literal high, rest) ∧ low.char ≤ high.char ∧
            part = .range low high) := by
  constructor
  · intro found
    simp only [classRange?, Option.bind_eq_bind, Option.bind_eq_some_iff] at found
    obtain ⟨⟨first, after⟩, token, found⟩ := found
    refine ⟨first, after, token, ?_⟩
    split at found
    · cases found
    · next tail opened =>
      split at found
      · next closes =>
        simp only [Option.bind_eq_some_iff] at found
        obtain ⟨part, single, made⟩ := found
        obtain ⟨rfl, rfl⟩ := Prod.mk.inj (Option.some.inj made)
        exact Or.inl ⟨single, opened, by simp, fun _ same => (List.cons.inj same).2 ▸ closes⟩
      · next ranges =>
        simp only [Option.bind_eq_some_iff] at found
        obtain ⟨⟨last, left⟩, second, found⟩ := found
        split at found
        · next low high single =>
          split at found
          · next ordered =>
            obtain rfl : last = _ := single
            obtain ⟨rfl, rfl⟩ := Prod.mk.inj (Option.some.inj found)
            exact Or.inr ⟨tail, low, high, opened, not_or.mp ranges |>.1, not_or.mp ranges |>.2, rfl, second,
              ordered, rfl⟩
          · cases found
        · cases found
    · next filled other =>
      simp only [Option.bind_eq_some_iff] at found
      obtain ⟨part, single, made⟩ := found
      obtain ⟨rfl, rfl⟩ := Prod.mk.inj (Option.some.inj made)
      exact Or.inl ⟨single, rfl, filled, fun tail same => absurd same (other tail)⟩
  · rintro ⟨first, after, token, ⟨single, rfl, filled, hyphen⟩ |
      ⟨tail, low, high, opened, open', free, rfl, second, ordered, rfl⟩⟩
    · simp only [classRange?, token, Option.bind_eq_bind, Option.bind_some]
      split
      · contradiction
      · next tail opened => simp [hyphen tail opened, single, opened]
      · simp [single]
    · simp [classRange?, token, opened, open', free, second, ordered]

theorem classToken?_leaves_of_part {tree : Tree} {part : ClassTree}
    (found : classToken? verbose full = some (tree, rest)) (single : ClassTree.ofToken? tree = some part) :
    Leaves behind full rest (classToken? verbose (upTo behind full) = some (tree, upTo behind rest)) := by
  refine (classToken?_leaves _ found).imp fun same => same.resolve_right ?_
  rintro ⟨rfl, -⟩
  cases single

theorem classToken?_suffix {tree : Tree} (found : classToken? verbose full = some (tree, rest)) :
    rest <:+ full.tail := by
  unfold classToken? at found
  split at found
  · cases found
  · exact (escape?_leaves [] found).suffix
  · obtain ⟨rfl, rfl⟩ := Prod.mk.inj (Option.some.inj found)
    exact List.suffix_rfl

theorem classRange?_leaves {part : ClassTree} (found : classRange? verbose full = some (part, rest)) :
    Leaves behind full rest (')' :: behind <:+ rest.tail →
      classRange? verbose (upTo behind full) = some (part, upTo behind rest)) := by
  obtain ⟨first, after, token, ⟨single, rfl, filled, hyphen⟩ |
    ⟨tail, low, high, opened, open', free, rfl, second, ordered, rfl⟩⟩ := classRange?_eq_some_iff.mp found
  · refine ((classToken?_leaves_of_part _ token single).trans (skip_leaves _ verbose after)).imp ?_
    rintro ⟨same, skipped⟩ goes
    refine classRange?_eq_some_iff.mpr ⟨first, _, same, Or.inl ⟨single, skipped, ?_, ?_⟩⟩
    · obtain ⟨char, tail, whole⟩ := List.exists_cons_of_ne_nil filled
      rw [whole] at goes ⊢
      simp [upTo_cons (show ')' :: behind <:+ tail from goes)]
    · intro tail marked
      obtain ⟨char, inner, whole⟩ := List.exists_cons_of_ne_nil filled
      rw [whole] at goes marked hyphen
      replace goes : ')' :: behind <:+ inner := goes
      rw [upTo_cons goes] at marked
      obtain ⟨rfl, rfl⟩ := List.cons.inj marked
      rw [peek_upTo _ (by decide) goes, peek_upTo _ (by decide) goes]
      exact hyphen inner rfl
  · have later := (skip_leaves behind verbose tail).trans (classToken?_leaves_of_part _ second rfl)
    have whole := (classToken?_leaves_of_part _ token rfl).trans ((skip_leaves_cons _ opened).trans later)
    refine ⟨whole.suffix, fun left _ => ?_⟩
    obtain ⟨same, hyphen, skipped, again⟩ := whole.same left
    have goes := left.trans later.suffix
    refine classRange?_eq_some_iff.mpr ⟨_, _, same, Or.inr ⟨_, low, high, hyphen, ?_, ?_, rfl, ?_, ordered, rfl⟩⟩
    · rwa [ne_eq, peek_upTo _ (by decide) goes]
    · rwa [ne_eq, peek_upTo _ (by decide) goes]
    · rw [skipped, again]

theorem classRange?_suffix {part : ClassTree} (found : classRange? verbose full = some (part, rest)) :
    rest <:+ full.tail := by
  obtain ⟨first, after, token, ⟨-, rfl, -, -⟩ | ⟨tail, low, high, opened, -, -, -, second, -, -⟩⟩ :=
    classRange?_eq_some_iff.mp found
  · exact (skip_leaves [] verbose after).suffix.trans (classToken?_suffix token)
  · exact ((classToken?_suffix second).trans (List.tail_suffix _)).trans
      ((skip_leaves [] verbose tail).suffix.trans
        ((skip_leaves_cons [] opened).suffix.trans (classToken?_suffix token)))

/-- The circumflex that a class may open with, and the text behind it. -/
def classMark (verbose : Bool) (text : List Char) : Bool × List Char :=
  match skip verbose text with
  | '^' :: rest => (true, skip verbose rest)
  | text => (false, text)

theorem classMark_leaves {negated : Bool} (found : classMark verbose full = (negated, rest)) :
    Leaves behind full rest (classMark verbose (upTo behind full) = (negated, upTo behind rest)) := by
  unfold classMark at found
  split at found
  · next inner opened =>
    obtain ⟨rfl, rfl⟩ := Prod.mk.inj found
    refine ((skip_leaves_cons _ opened).trans (skip_leaves _ verbose inner)).imp fun ⟨opening, skipped⟩ => ?_
    simp [classMark, opening, skipped]
  · next plain =>
    obtain ⟨rfl, rfl⟩ := Prod.mk.inj found
    refine (skip_leaves _ verbose full).imp fun skipped => ?_
    have plain := upTo_ne_cons behind plain
    rw [classMark, skipped]
    split
    · next inner opened => exact absurd opened (plain inner)
    · rfl

/-- The hyphens or the bracket that stand for themselves because they come first in a class. -/
def classLead? (verbose : Bool) (hyphens : List Char) (text : List Char) : Option (List ClassTree × List Char) :=
  let plain := fun char : Char => ClassTree.char ⟨char, false⟩
  match hyphens, text with
  | _, [] => none
  | [], ']' :: rest =>
      match skip verbose rest with
      | [] => none
      | rest => some ([plain ']'], rest)
  | _, text => some (hyphens.map plain, text)

theorem classLead?_leaves {hyphens : List Char} {opening : List ClassTree}
    (found : classLead? verbose hyphens full = some (opening, rest)) :
    Leaves behind full rest (')' :: behind <:+ rest.tail →
      classLead? verbose hyphens (upTo behind full) = some (opening, upTo behind rest)) := by
  unfold classLead? at found
  split at found
  · cases found
  · next inner =>
    split at found
    · cases found
    · next filled =>
      obtain ⟨rfl, rfl⟩ := Prod.mk.inj (Option.some.inj found)
      refine ((Leaves.cons _ inner).trans (skip_leaves _ verbose inner)).imp fun ⟨cons, skipped⟩ goes => ?_
      obtain ⟨char, tail, whole⟩ := List.exists_cons_of_ne_nil filled
      rw [whole] at goes skipped ⊢
      rw [upTo_cons (show ')' :: behind <:+ tail from goes)] at skipped ⊢
      simp [cons, classLead?, skipped]
  · next filled plain =>
    obtain ⟨rfl, rfl⟩ := Prod.mk.inj (Option.some.inj found)
    refine (Leaves.refl full).imp fun _ goes => ?_
    obtain ⟨char, tail, rfl⟩ := List.exists_cons_of_ne_nil filled
    rw [upTo_cons (show ')' :: behind <:+ tail from goes)]
    unfold classLead?
    split
    · contradiction
    · next same => exact absurd (congrArg (· :: tail) (List.cons.inj same).1) (plain tail rfl)
    · rfl

theorem map_classLead? (negated verbose : Bool) (hyphens text : List Char) :
    (classLead? verbose hyphens text).map (fun lead => (negated, lead)) =
      match hyphens, text with
      | _, [] => none
      | [], ']' :: rest =>
          match skip verbose rest with
          | [] => none
          | rest => some (negated, [.char ⟨']', false⟩], rest)
      | _, text => some (negated, hyphens.map fun char => .char ⟨char, false⟩, text) := by
  unfold classLead?
  split
  · rfl
  · split <;> simp [*]
  · simp [*]

theorem classOpening?_eq (verbose : Bool) (text : List Char) :
    classOpening? verbose text =
      (let marked := classMark verbose text
      let hyphens := collect (· == '-') verbose false marked.2
      (classLead? verbose hyphens.1 hyphens.2).map fun lead => (marked.1, lead)) := by
  by_cases marked : ∃ rest, skip verbose text = '^' :: rest
  · obtain ⟨rest, marked⟩ := marked
    simp only [classOpening?, classMark, marked]
    exact (map_classLead? _ _ _ _).symm
  · have plain : ∀ rest, skip verbose text = '^' :: rest → False := fun rest same => marked ⟨rest, same⟩
    simp only [classOpening?, classMark]
    exact (map_classLead? _ _ _ _).symm

theorem classOpening?_leaves {negated : Bool} {opening : List ClassTree}
    (found : classOpening? verbose full = some (negated, opening, rest)) :
    Leaves behind full rest (')' :: behind <:+ rest.tail →
      classOpening? verbose (upTo behind full) = some (negated, opening, upTo behind rest)) := by
  rw [classOpening?_eq] at found
  obtain ⟨⟨opening, left⟩, lead, made⟩ := Option.map_eq_some_iff.mp found
  obtain ⟨rfl, rfl, rfl⟩ : _ ∧ _ ∧ _ := by simpa using made
  have leaves := (classMark_leaves behind (Prod.eta (classMark verbose full)).symm).trans
    ((collect_leaves behind _ _ _ _).trans (classLead?_leaves _ lead))
  refine leaves.imp fun ⟨marked, collected, same⟩ goes => ?_
  simp [classOpening?_eq, marked, collected, same goes]

theorem asciiClass?_upTo_of_eq_none (none : asciiClass? full = none) (left : ')' :: behind <:+ full) :
    asciiClass? (upTo behind full) = Option.none := by
  obtain ⟨text, rfl⟩ := left
  rw [upTo_append]
  cases found : asciiClass? text with
  | none => rfl
  | some value => cases none.symm.trans (asciiClass?_append found _)

/-! ## Whole classes -/

theorem classBody?_leaves {fuel : Nat} {before : Option (ClassOperator × ClassTree)} {parts : List ClassTree}
    {tree : ClassTree} (found : classBody? verbose fuel before parts full = some (tree, rest)) :
    LeavesWithin behind full rest fun fuel =>
      classBody? verbose fuel before parts (upTo behind full) = some (tree, upTo behind rest) := by
  induction fuel generalizing before parts full tree rest with
  | zero => cases found
  | succ fuel induction =>
      have lead {first second : Char} {inner : List Char} (opened : skip verbose full = first :: second :: inner) :=
        (skip_leaves_cons behind opened).trans (.cons second inner)
      have shorter {first second : Char} {inner : List Char} (opened : skip verbose full = first :: second :: inner) :
          inner <:+ full.tail :=
        (List.suffix_cons second inner).trans (skip_suffix opened)
      simp only [classBody?] at found
      split at found
      · cases found
      · next inner opened =>
        obtain ⟨rfl, rfl⟩ := Prod.mk.inj (Option.some.inj found)
        refine .last (skip_leaves_cons _ opened) (skip_suffix opened) fun skipped fuel => ?_
        simp [classBody?, skipped]
      · next inner opened =>
        refine .round (lead opened) (shorter opened) (induction found) fun _ ⟨skipped, cons⟩ fuel later => ?_
        simp [classBody?, skipped, cons, later]
      · next inner opened =>
        refine .round (lead opened) (shorter opened) (induction found) fun _ ⟨skipped, cons⟩ fuel later => ?_
        simp [classBody?, skipped, cons, later]
      · next inner opened =>
        refine .round (lead opened) (shorter opened) (induction found) fun _ ⟨skipped, cons⟩ fuel later => ?_
        simp [classBody?, skipped, cons, later]
      · next inner opened =>
        split at found
        · next part after named =>
          have lead := asciiClass?_leaves behind named
          refine .round ((skip_leaves_cons _ opened).trans lead) (lead.suffix.trans (skip_suffix opened))
            (induction found) fun _ ⟨skipped, same⟩ fuel later => ?_
          simp [classBody?, skipped, same, later]
        · next plain =>
          simp only [Option.bind_eq_bind, Option.bind_eq_some_iff] at found
          obtain ⟨⟨negated, opening, after⟩, start, ⟨nested, left⟩, body, found⟩ := found
          have lead := classOpening?_leaves behind start
          refine .round ((skip_leaves_cons _ opened).trans lead) (lead.suffix.trans (skip_suffix opened))
            ((induction body).trans (induction found)) fun goes ⟨skipped, same⟩ fuel ⟨first, later⟩ => ?_
          have plain := asciiClass?_upTo_of_eq_none _ plain (goes.trans ((List.tail_suffix after).trans lead.suffix))
          simp [classBody?, skipped, plain, same goes, first, later]
      · next filled bracket conjunction difference exclusion nested =>
        simp only [Option.bind_eq_bind, Option.bind_eq_some_iff] at found
        obtain ⟨⟨part, after⟩, range, found⟩ := found
        have lead := (skip_leaves behind verbose full).trans (classRange?_leaves _ range)
        have shorter := (classRange?_suffix range).trans (suffix_tail (skip_leaves [] verbose full).suffix)
        refine .round lead shorter (induction found) fun goes ⟨skipped, same⟩ fuel later => ?_
        simp only [classBody?, skipped]
        split
        · next empty => cases empty ▸ same goes
        · next inner opened => exact absurd opened (upTo_ne_cons _ bracket inner)
        · next inner opened => exact absurd opened (upTo_ne_cons_cons _ conjunction inner)
        · next inner opened => exact absurd opened (upTo_ne_cons_cons _ difference inner)
        · next inner opened => exact absurd opened (upTo_ne_cons_cons _ exclusion inner)
        · next inner opened => exact absurd opened (upTo_ne_cons _ nested inner)
        · simp [same goes, later]

theorem class?_leaves {tree : Tree} (found : class? verbose full = some (tree, rest)) :
    Leaves behind full rest (class? verbose (upTo behind full) = some (tree, upTo behind rest)) := by
  simp only [class?, Option.bind_eq_bind, Option.bind_eq_some_iff] at found
  obtain ⟨⟨negated, opening, after⟩, start, ⟨inner, left⟩, body, made⟩ := found
  obtain ⟨rfl, rfl⟩ := Prod.mk.inj (Option.some.inj made)
  have start := classOpening?_leaves behind start
  have body := classBody?_leaves behind body
  refine ⟨body.suffix.trans ((List.tail_suffix after).trans start.suffix), fun left => ?_⟩
  have goes := left.trans body.suffix
  simp [class?, start.same (goes.trans (List.tail_suffix after)) goes, body.reads left _ (Nat.lt_succ_self _)]

end Regex
end Collocation
