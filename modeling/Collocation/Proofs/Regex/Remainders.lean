import Collocation.Regex.Reader
import Collocation.Proofs.Text.Fields

/-!
# What readers leave

A part of the reader of regular expressions leaves the end of its text, and what it finds does not depend on what
stands behind a closing parenthesis that it leaves.  `Leaves` says so of one part and `Leaves.trans` of parts that are
read one after another; `LeavesWithin` is the same for a reader with fuel.
-/

namespace Collocation
namespace Regex

open Text

/-- A text without the closing parenthesis at its end and what stands behind it. -/
def upTo (behind full : List Char) : List Char :=
  full.take (full.length - (behind.length + 1))

/-- The rest of a text is its end, and something holds if the rest still ends in a closing parenthesis with what
stands behind it. -/
structure Leaves (behind full rest : List Char) (same : Prop) : Prop where
  suffix : rest <:+ full
  same : ')' :: behind <:+ rest → same

variable {verbose : Bool} {behind full middle rest : List Char} {char : Char}

/-! ## Texts up to a closing parenthesis -/

@[simp]
theorem upTo_append (text behind : List Char) : upTo behind (text ++ ')' :: behind) = text := by
  simp [upTo]

@[simp]
theorem upTo_self (behind : List Char) : upTo behind (')' :: behind) = [] :=
  upTo_append [] behind

@[grind =]
theorem upTo_cons (left : ')' :: behind <:+ full) : upTo behind (char :: full) = char :: upTo behind full := by
  obtain ⟨text, rfl⟩ := left
  rw [← List.cons_append, upTo_append, upTo_append]

@[grind =]
theorem upTo_cons_end (closes : ')' = char) (all : behind = full) : upTo behind (char :: full) = [] := by
  rw [← closes, ← all, upTo_self]

theorem upTo_prefix (behind full : List Char) : upTo behind full <+: full :=
  List.take_prefix _ full

theorem upTo_ne_cons (behind : List Char) (other : ∀ tail, full ≠ char :: tail) (tail : List Char) :
    upTo behind full ≠ char :: tail := by
  intro same
  obtain ⟨more, whole⟩ := upTo_prefix behind full
  exact other (tail ++ more) (by rw [← whole, same, List.cons_append])

theorem upTo_ne_cons_cons {next : Char} (behind : List Char) (other : ∀ tail, full ≠ char :: next :: tail)
    (tail : List Char) : upTo behind full ≠ char :: next :: tail := by
  intro same
  obtain ⟨more, whole⟩ := upTo_prefix behind full
  exact other (tail ++ more) (by rw [← whole, same, List.cons_append, List.cons_append])

/-! ## Chains of readers -/

namespace Leaves

variable {same other : Prop}

theorem refl (full : List Char) : Leaves behind full full True :=
  ⟨List.suffix_rfl, fun _ => trivial⟩

theorem cons (char : Char) (full : List Char) :
    Leaves behind (char :: full) full (upTo behind (char :: full) = char :: upTo behind full) :=
  ⟨List.suffix_cons char full, upTo_cons⟩

theorem trans (first : Leaves behind full middle same) (second : Leaves behind middle rest other) :
    Leaves behind full rest (same ∧ other) :=
  ⟨second.suffix.trans first.suffix, fun left => ⟨first.same (left.trans second.suffix), second.same left⟩⟩

theorem imp (leaves : Leaves behind full rest same) (follows : same → other) : Leaves behind full rest other :=
  ⟨leaves.suffix, fun left => follows (leaves.same left)⟩

end Leaves

/-! ## Readers with fuel -/

theorem suffix_tail_of_cons (ends : char :: rest <:+ full) : rest <:+ full.tail := by
  obtain ⟨text, rfl⟩ := ends
  cases text with
  | nil => exact List.suffix_rfl
  | cons first text => exact ⟨text ++ [char], by simp⟩

theorem suffix_tail (ends : rest <:+ full) : rest.tail <:+ full.tail := by
  cases rest with
  | nil => exact List.nil_suffix
  | cons char rest => exact suffix_tail_of_cons ends

theorem length_upTo_lt (shorter : rest <:+ full.tail) (left : ')' :: behind <:+ rest) :
    (upTo behind rest).length < (upTo behind full).length := by
  have := shorter.length_le
  have := left.length_le
  simp only [upTo, List.length_take, List.length_tail, List.length_cons] at *
  omega

/-- The rest of a text is a shorter end of it, and something holds with fuel enough if the rest still ends in a closing
parenthesis with what stands behind it. -/
structure LeavesWithin (behind full rest : List Char) (reads : Nat → Prop) : Prop where
  suffix : rest <:+ full.tail
  reads : ')' :: behind <:+ rest → ∀ fuel, (upTo behind full).length < fuel → reads fuel

namespace LeavesWithin

variable {same : Prop} {reads others : Nat → Prop}

theorem last (lead : Leaves behind full rest same) (shorter : rest <:+ full.tail)
    (step : same → ∀ fuel, others (fuel + 1)) : LeavesWithin behind full rest others := by
  refine ⟨shorter, fun left fuel enough => ?_⟩
  cases fuel with
  | zero => omega
  | succ fuel => exact step (lead.same left) fuel

theorem round (lead : Leaves behind full middle same) (shorter : middle <:+ full.tail)
    (later : LeavesWithin behind middle rest reads)
    (step : ')' :: behind <:+ middle.tail → same → ∀ fuel, reads fuel → others (fuel + 1)) :
    LeavesWithin behind full rest others := by
  refine ⟨later.suffix.trans ((List.tail_suffix middle).trans shorter), fun left fuel enough => ?_⟩
  have goes := left.trans later.suffix
  have inside := goes.trans (List.tail_suffix middle)
  cases fuel with
  | zero => omega
  | succ fuel =>
      have := length_upTo_lt shorter inside
      exact step goes (lead.same inside) fuel (later.reads left fuel (by omega))

theorem trans (first : LeavesWithin behind full middle reads) (second : LeavesWithin behind middle rest others) :
    LeavesWithin behind full rest fun fuel => reads fuel ∧ others fuel := by
  refine ⟨second.suffix.trans ((List.tail_suffix middle).trans first.suffix), fun left fuel enough => ?_⟩
  have inside := left.trans (second.suffix.trans (List.tail_suffix middle))
  have := length_upTo_lt first.suffix inside
  exact ⟨first.reads inside fuel enough, second.reads left fuel (by omega)⟩

end LeavesWithin

/-! ## Blanks -/

variable (behind)

theorem afterBlanks_leaves (marked : Bool) (full : List Char) :
    Leaves behind full (afterBlanks marked full)
      (afterBlanks marked (upTo behind full) = upTo behind (afterBlanks marked full)) := by
  induction full generalizing marked with
  | nil => cases marked <;> exact ⟨List.suffix_rfl, fun left => by simp [afterBlanks] at left⟩
  | cons char full induction =>
      have later (marked : Bool) := (Leaves.cons char full).trans (induction marked)
      cases marked with
      | true => exact (later _).imp fun ⟨cons, same⟩ => by rw [cons, afterBlanks, same, afterBlanks]
      | false =>
          have no := (later false).suffix
          have yes := (later true).suffix
          refine ⟨by grind [afterBlanks], fun left => ?_⟩
          have := (later false).same
          have := (later true).same
          grind [afterBlanks, List.suffix_cons_iff]

theorem skip_leaves (verbose : Bool) (full : List Char) :
    Leaves behind full (skip verbose full) (skip verbose (upTo behind full) = upTo behind (skip verbose full)) := by
  cases verbose with
  | false => exact (Leaves.refl full).imp fun _ => rfl
  | true => exact afterBlanks_leaves _ false full

theorem skip_leaves_cons (opened : skip verbose full = char :: rest) :
    Leaves behind full rest (skip verbose (upTo behind full) = char :: upTo behind rest) := by
  have skipped := skip_leaves behind verbose full
  rw [opened] at skipped
  exact (skipped.trans (.cons char rest)).imp fun ⟨same, cons⟩ => same.trans cons

theorem collect_leaves (accepts : Char → Bool) (verbose marked : Bool) (full : List Char) :
    Leaves behind full (collect accepts verbose marked full).2
      (collect accepts verbose marked (upTo behind full) =
        ((collect accepts verbose marked full).1, upTo behind (collect accepts verbose marked full).2)) := by
  induction full generalizing marked with
  | nil => cases marked <;> exact ⟨List.suffix_rfl, fun left => by simp [collect] at left⟩
  | cons char full induction =>
      have later (marked : Bool) := (Leaves.cons char full).trans (induction marked)
      cases marked with
      | true => exact (later _).imp fun ⟨cons, same⟩ => by rw [cons, collect, same, collect]
      | false =>
          have no := (later false).suffix
          have yes := (later true).suffix
          refine ⟨by grind [collect], fun left => ?_⟩
          have := (later false).same
          have := (later true).same
          grind [collect, List.suffix_cons_iff]

theorem collect_leaves_eq {accepts : Char → Bool} {marked : Bool} {taken : List Char}
    (collected : collect accepts verbose marked full = (taken, rest)) :
    Leaves behind full rest (collect accepts verbose marked (upTo behind full) = (taken, upTo behind rest)) := by
  have leaves := collect_leaves behind accepts verbose marked full
  rwa [collected] at leaves

theorem collect_leaves_cons {accepts : Char → Bool} {marked : Bool} {taken : List Char}
    (collected : collect accepts verbose marked full = (taken, char :: rest)) :
    Leaves behind full rest (collect accepts verbose marked (upTo behind full) = (taken, char :: upTo behind rest)) :=
  ((collect_leaves_eq _ collected).trans (.cons char rest)).imp fun ⟨same, cons⟩ => cons ▸ same

theorem skip_suffix (opened : skip verbose full = char :: rest) : rest <:+ full.tail :=
  suffix_tail_of_cons (opened ▸ (skip_leaves [] verbose full).suffix)

/-! ## Cuts -/

theorem cut?_leaves {separator : Char} {first : List Char} (found : cut? separator full = some (first, rest)) :
    Leaves behind full rest (cut? separator (upTo behind full) = some (first, upTo behind rest)) := by
  rw [eq_append_of_cut? found]
  refine ⟨⟨first ++ [separator], by simp⟩, fun left => ?_⟩
  obtain ⟨text, rfl⟩ := left
  rw [upTo_append, ← cut?_append text (not_mem_of_cut? found), ← List.cons_append, ← List.append_assoc, upTo_append]

theorem cut?_append_of_eq_some {separator : Char} {text first : List Char}
    (found : cut? separator text = some (first, rest)) (more : List Char) :
    cut? separator (text ++ more) = some (first, rest ++ more) := by
  rw [eq_append_of_cut? found, List.append_assoc, List.cons_append, cut?_append _ (not_mem_of_cut? found)]

/-! ## Escapes -/

theorem hexDigits?_leaves {count : Nat} {digits : List Char}
    (found : hexDigits? verbose count full = some (digits, rest)) :
    Leaves behind full rest (hexDigits? verbose count (upTo behind full) = some (digits, upTo behind rest)) := by
  induction count generalizing full digits rest with
  | zero =>
      obtain ⟨rfl, rfl⟩ := Prod.mk.inj (Option.some.inj found)
      exact (Leaves.refl full).imp fun _ => rfl
  | succ count induction =>
      cases full with
      | nil => cases found
      | cons char full =>
          simp only [hexDigits?, Option.bind_eq_bind, Option.bind_eq_some_iff] at found
          obtain ⟨value, digit, ⟨others, after⟩, read, made⟩ := found
          obtain ⟨rfl, rfl⟩ := Prod.mk.inj (Option.some.inj made)
          refine ((Leaves.cons char full).trans ((skip_leaves _ verbose full).trans (induction read))).imp ?_
          rintro ⟨cons, skipped, same⟩
          simp [cons, hexDigits?, digit, skipped, same]

theorem hexEscape?_leaves {count : Nat} {literal : Literal}
    (found : hexEscape? verbose count full = some (literal, rest)) :
    Leaves behind full rest (hexEscape? verbose count (upTo behind full) = some (literal, upTo behind rest)) := by
  simp only [hexEscape?] at found
  split at found
  · next inner opened =>
    split at found
    · next first digits after taken closed =>
      simp only [Option.bind_eq_bind, Option.bind_eq_some_iff] at found
      obtain ⟨char, code, made⟩ := found
      obtain ⟨rfl, rfl⟩ := Prod.mk.inj (Option.some.inj made)
      refine ((skip_leaves_cons _ opened).trans ((collect_leaves_cons _ (Prod.ext taken closed)).trans
        (skip_leaves _ verbose after))).imp ?_
      rintro ⟨opening, collected, skipped⟩
      rw [taken] at code
      simp [hexEscape?, opening, collected, skipped, code]
    · cases found
  · next other =>
    simp only [Option.bind_eq_bind, Option.bind_eq_some_iff] at found
    obtain ⟨⟨digits, after⟩, read, char, code, made⟩ := found
    obtain ⟨rfl, rfl⟩ := Prod.mk.inj (Option.some.inj made)
    refine ((skip_leaves _ verbose full).trans (hexDigits?_leaves _ read)).imp ?_
    rintro ⟨skipped, same⟩
    simp only [hexEscape?]
    split
    · next inner opened => exact absurd (skipped.symm.trans opened) (upTo_ne_cons _ other inner)
    · simp [skipped, same, code]

theorem property?_leaves {property : Property} {absent : Bool}
    (found : property? verbose full = some (property, absent, rest)) :
    Leaves behind full rest (property? verbose (upTo behind full) = some (property, absent, upTo behind rest)) := by
  simp only [property?] at found
  split at found
  · cases found
  · next inner opened =>
    split at found
    · next name closing after collected =>
      obtain ⟨rfl, rfl, rfl⟩ : _ ∧ _ ∧ _ := by simpa using found
      refine ((skip_leaves_cons _ opened).trans (collect_leaves_cons _ collected)).imp ?_
      rintro ⟨opening, same⟩
      simp [property?, opening, same]
    · cases found
  · next letter after other opened =>
    split at found
    · cases found
    · next plain =>
      obtain ⟨rfl, rfl, rfl⟩ : _ ∧ _ ∧ _ := by simpa using found
      refine ((skip_leaves_cons _ opened).trans (skip_leaves _ verbose after)).imp ?_
      rintro ⟨opening, skipped⟩
      simp only [property?, opening]
      split
      · contradiction
      · grind

/-- An opening brace behind a boundary escape, with no character but blanks between it and the closing parenthesis: that
no name of a boundary begins shows only at the parenthesis. -/
def Dangles (verbose : Bool) (behind : List Char) (tree : Tree) (rest : List Char) : Prop :=
  tree = .assertion .wordBoundary ∧
    ∃ inner, rest = '\x7b' :: inner ∧ ¬ ')' :: behind <:+ (skip verbose inner).tail

/-- Behind a boundary escape an opening brace is left if no name follows; whether one does shows only if the text goes
on behind the blanks. -/
theorem boundary?_leaves {tree : Tree} (found : boundary? verbose full = some (tree, rest)) :
    Leaves behind full rest (boundary? verbose (upTo behind full) = some (tree, upTo behind rest) ∨
      Dangles verbose behind tree rest) := by
  simp only [boundary?] at found
  split at found
  · next inner =>
    split at found
    · cases found
    · next first after opened =>
      split at found
      · next named =>
        split at found
        · next name closed collected =>
          simp only [Option.bind_eq_bind, Option.bind_eq_some_iff] at found
          obtain ⟨kind, known, made⟩ := found
          obtain ⟨rfl, rfl⟩ := Prod.mk.inj (Option.some.inj made)
          have leaves := (skip_leaves behind verbose inner).trans (opened ▸ collect_leaves_cons _ collected)
          have behindFirst : closed <:+ after := by
            have suffix := (collect_leaves_eq behind collected).suffix
            rcases List.suffix_cons_iff.mp suffix with same | inside
            · exact (List.cons.inj same).2 ▸ List.suffix_rfl
            · exact (List.suffix_cons _ closed).trans inside
          refine ⟨leaves.suffix.trans (List.suffix_cons _ inner), fun left => Or.inl ?_⟩
          obtain ⟨skipped, taken⟩ := leaves.same left
          rw [opened, upTo_cons (left.trans behindFirst)] at skipped
          rw [upTo_cons (left.trans leaves.suffix)]
          rw [opened, upTo_cons (left.trans behindFirst)] at taken
          simp [boundary?, skipped, named, taken, known]
        · cases found
      · next plain =>
        obtain ⟨rfl, rfl⟩ := Prod.mk.inj (Option.some.inj found)
        refine ⟨List.suffix_rfl, fun left => ?_⟩
        by_cases goes : ')' :: behind <:+ after
        · refine Or.inl ?_
          have skipped := (skip_leaves_cons behind opened).same goes
          rw [upTo_cons (goes.trans (skip_leaves_cons behind opened).suffix)]
          simp [boundary?, skipped, plain]
        · exact Or.inr ⟨rfl, inner, rfl, by rwa [opened]⟩
  · next other =>
    obtain ⟨rfl, rfl⟩ := Prod.mk.inj (Option.some.inj found)
    refine (Leaves.refl full).imp fun _ => Or.inl ?_
    simp only [boundary?]
    split
    · next inner same => exact absurd same (upTo_ne_cons _ (fun tail => other tail) inner)
    · rfl

theorem escape?_leaves {tree : Tree} (found : escape? verbose full = some (tree, rest)) :
    Leaves behind full rest (escape? verbose (upTo behind full) = some (tree, upTo behind rest) ∨
      Dangles verbose behind tree rest) := by
  cases full with
  | nil => cases found
  | cons char full =>
      simp only [escape?] at found
      split at found
      all_goals first
        | obtain ⟨rfl, rfl⟩ := Prod.mk.inj (Option.some.inj found)
          exact (Leaves.cons _ full).imp fun cons => Or.inl (by rw [cons]; rfl)
        | obtain ⟨⟨value, left⟩, read, made⟩ := Option.map_eq_some_iff.mp found
          obtain ⟨rfl, rfl⟩ := Prod.mk.inj made
          exact ((Leaves.cons _ full).trans (hexEscape?_leaves _ read)).imp fun ⟨cons, same⟩ =>
            Or.inl (by rw [cons]; simp [escape?, same])
        | obtain ⟨⟨value, absent, left⟩, read, made⟩ := Option.map_eq_some_iff.mp found
          obtain ⟨rfl, rfl⟩ := Prod.mk.inj made
          exact ((Leaves.cons _ full).trans (property?_leaves _ read)).imp fun ⟨cons, same⟩ =>
            Or.inl (by rw [cons]; simp [escape?, same])
        | skip
      · exact ((Leaves.cons _ full).trans (boundary?_leaves _ found)).imp fun ⟨cons, same⟩ =>
          same.imp (fun same => by rw [cons]; simp [escape?, same]) id
      · split at found
        · next escapable =>
          obtain ⟨rfl, rfl⟩ := Prod.mk.inj (Option.some.inj found)
          refine (Leaves.cons char full).imp fun cons => Or.inl ?_
          rw [cons]
          simp only [escape?]
          split
          all_goals first
            | contradiction
            | rfl
        · cases found

end Regex
end Collocation
