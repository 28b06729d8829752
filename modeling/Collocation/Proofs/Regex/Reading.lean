import Collocation.Proofs.Regex.ClassRemainders
import Collocation.Proofs.Regex.GroupRemainders

/-!
# How expressions are read

`Reads` says without fuel what `expression?` reads: one step for each kind of part, until the text or the enclosing
group ends.  From its steps it follows that an expression is the same wherever it stands: what is behind the closing
parenthesis that ends it plays no part.
-/

namespace Collocation
namespace Regex

open Text

variable {verbose : Bool} {names after : List String} {alternatives parts : List Tree} {tree : Tree}
  {full rest : List Char}

/-! ## Parts -/

/-- Whether a character between two parts is neither a part nor the beginning of one. -/
def isOperator (char : Char) : Bool :=
  ")|(?*+\x7b".toList.contains char

/-- A part that opens no group: a class, an escape, a dot, an anchor or a plain character. -/
def atom? (verbose : Bool) : List Char → Option (Tree × List Char)
  | [] => none
  | '[' :: rest => class? verbose rest
  | '\\' :: rest => escape? verbose rest
  | '.' :: rest => some (.dot, rest)
  | '^' :: rest => some (.assertion .lineStart, rest)
  | '$' :: rest => some (.assertion .lineEnd, rest)
  | char :: rest => if isOperator char then none else some (.literal ⟨char, false⟩, rest)

/-- The bounds of a repetition. -/
def rounds? (verbose : Bool) : List Char → Option (Nat × Option Nat × List Char)
  | '?' :: rest => some (0, some 1, rest)
  | '*' :: rest => some (0, none, rest)
  | '+' :: rest => some (1, none, rest)
  | '\x7b' :: rest =>
      (bounds? verbose rest).map fun found => (found.1, found.2.1, skip verbose found.2.2)
  | _ => none

/-- What is read from a text, given what stands before it. -/
inductive Reads : Bool → List String → List Tree → List Tree → List Char → Tree → List String → List Char → Prop where
  /-- The text ends, or a group that was opened before it. -/
  | stop {verbose : Bool} {names : List String} {alternatives parts : List Tree} {full rest : List Char}
      (skipped : skip verbose full = rest) (ends : rest = [] ∨ ∃ tail, rest = ')' :: tail) :
      Reads verbose names alternatives parts full
        (Tree.choice (Tree.sequence parts.reverse :: alternatives).reverse) names rest
  /-- A bar ends an alternative. -/
  | bar {verbose : Bool} {names after : List String} {alternatives parts : List Tree} {full inner rest : List Char}
      {tree : Tree} (opened : skip verbose full = '|' :: inner)
      (later : Reads verbose names (Tree.sequence parts.reverse :: alternatives) [] inner tree after rest) :
      Reads verbose names alternatives parts full tree after rest
  /-- Switches for what follows. -/
  | switches {verbose : Bool} {names after : List String} {alternatives parts : List Tree}
      {full inner onward rest : List Char} {tree : Tree} {changes : List (Switch × Bool)}
      (opened : skip verbose full = '(' :: inner)
      (switched : opening? verbose inner = some (.switches changes, onward))
      (later : Reads (settingOf .verbose changes verbose) names alternatives (.switches changes :: parts) onward tree
        after rest) :
      Reads verbose names alternatives parts full tree after rest
  /-- A group. -/
  | group {verbose captures : Bool} {names between after : List String} {alternatives parts : List Tree}
      {full inner start onward rest : List Char} {body tree : Tree} {name : Option String}
      {changes : List (Switch × Bool)} (opened : skip verbose full = '(' :: inner)
      (begun : opening? verbose inner = some (.group captures name changes, start))
      (fresh : name.any names.contains = false)
      (enclosed : Reads (settingOf .verbose changes verbose) (name.toList ++ names) [] [] start body between
        (')' :: onward))
      (later : Reads verbose between alternatives (.group captures changes body :: parts) onward tree after rest) :
      Reads verbose names alternatives parts full tree after rest
  /-- A repetition of the part before it. -/
  | rounds {verbose marked : Bool} {names after : List String} {alternatives parts repeated : List Tree}
      {full inner onward rest : List Char} {tree : Tree} {least : Nat} {most : Option Nat}
      (counted : rounds? verbose (skip verbose full) = some (least, most, inner))
      (preferred : lazyMark inner = (marked, onward)) (last : repeatLast? least most marked parts = some repeated)
      (later : Reads verbose names alternatives repeated onward tree after rest) :
      Reads verbose names alternatives parts full tree after rest
  /-- A part that opens no group. -/
  | atom {verbose : Bool} {names after : List String} {alternatives parts : List Tree} {full onward rest : List Char}
      {part tree : Tree} (single : atom? verbose (skip verbose full) = some (part, onward))
      (later : Reads verbose names alternatives (part :: parts) onward tree after rest) :
      Reads verbose names alternatives parts full tree after rest

/-- Whatever is read is read in these steps. -/
theorem reads_of_expression? {fuel : Nat}
    (found : expression? fuel verbose names alternatives parts full = some (tree, after, rest)) :
    Reads verbose names alternatives parts full tree after rest := by
  induction fuel generalizing verbose names alternatives parts full tree after rest with
  | zero => cases found
  | succ fuel induction =>
      have repeated {least : Nat} {most : Option Nat} {inner : List Char}
          (counted : rounds? verbose (skip verbose full) = some (least, most, inner))
          (found : ∃ repeated, repeatLast? least most (lazyMark inner).1 parts = some repeated ∧
            expression? fuel verbose names alternatives repeated (lazyMark inner).2 = some (tree, after, rest)) :
          Reads verbose names alternatives parts full tree after rest := by
        obtain ⟨repeated, last, found⟩ := found
        exact .rounds counted rfl last (induction found)
      simp only [expression?, Option.bind_eq_bind] at found
      split at found
      · next opened =>
        cases found
        exact .stop opened (Or.inl rfl)
      · next inner opened =>
        cases found
        exact .stop opened (Or.inr ⟨inner, rfl⟩)
      · next inner opened => exact .bar opened (induction found)
      · next inner opened =>
        split at found
        · cases found
        · next changes onward switched => exact .switches opened switched (induction found)
        · next captures name changes start begun =>
          split at found
          · cases found
          · next fresh =>
            split at found
            · next body between onward enclosed =>
              exact .group opened begun (by simpa using fresh) (induction enclosed) (induction found)
            · cases found
      · next inner opened =>
        obtain ⟨⟨part, onward⟩, single, found⟩ := Option.bind_eq_some_iff.mp found
        exact .atom (by rw [opened]; exact single) (induction found)
      · next inner opened => exact repeated (by rw [opened]; rfl) (Option.bind_eq_some_iff.mp found)
      · next inner opened => exact repeated (by rw [opened]; rfl) (Option.bind_eq_some_iff.mp found)
      · next inner opened => exact repeated (by rw [opened]; rfl) (Option.bind_eq_some_iff.mp found)
      · next inner opened =>
        obtain ⟨⟨least, most, onward⟩, bounds, found⟩ := Option.bind_eq_some_iff.mp found
        exact repeated (by rw [opened, rounds?, bounds]; rfl) (Option.bind_eq_some_iff.mp found)
      · next inner opened =>
        obtain ⟨⟨part, onward⟩, single, found⟩ := Option.bind_eq_some_iff.mp found
        exact .atom (by rw [opened]; exact single) (induction found)
      · next inner opened => exact .atom (by rw [opened]; rfl) (induction found)
      · next inner opened => exact .atom (by rw [opened]; rfl) (induction found)
      · next inner opened => exact .atom (by rw [opened]; rfl) (induction found)
      · next char inner close bar opens bracket question star plus brace backslash dot start stop opened =>
        refine .atom ?_ (induction found)
        have plain : isOperator char = false := by
          simp [isOperator]
          exact ⟨close, bar, opens, question, star, plus, brace⟩
        simp [opened, atom?, plain]

/-! ## Parts do not depend on what stands behind -/

section

variable (behind : List Char)

theorem rounds?_leaves {least : Nat} {most : Option Nat} (found : rounds? verbose full = some (least, most, rest)) :
    Leaves behind full rest (rounds? verbose (upTo behind full) = some (least, most, upTo behind rest)) := by
  unfold rounds? at found
  split at found
  · cases found
    exact (Leaves.cons _ _).imp fun cons => by rw [cons]; rfl
  · cases found
    exact (Leaves.cons _ _).imp fun cons => by rw [cons]; rfl
  · cases found
    exact (Leaves.cons _ _).imp fun cons => by rw [cons]; rfl
  · next inner =>
    obtain ⟨⟨least, most, onward⟩, bounds, made⟩ := Option.map_eq_some_iff.mp found
    cases made
    refine ((Leaves.cons _ inner).trans ((bounds?_leaves behind bounds).trans (skip_leaves _ _ _))).imp ?_
    rintro ⟨cons, same, skipped⟩
    simp [cons, rounds?, same, skipped]
  · cases found

theorem length_lt_of_rounds? {least : Nat} {most : Option Nat}
    (found : rounds? verbose full = some (least, most, rest)) : rest.length < full.length := by
  unfold rounds? at found
  split at found
  · cases found
    exact Nat.lt_succ_self _
  · cases found
    exact Nat.lt_succ_self _
  · cases found
    exact Nat.lt_succ_self _
  · obtain ⟨⟨least, most, onward⟩, bounds, made⟩ := Option.map_eq_some_iff.mp found
    cases made
    exact Nat.lt_succ_of_le ((bounds?_leaves [] bounds).trans (skip_leaves _ _ _)).suffix.length_le
  · cases found

theorem atom?_leaves {part : Tree} (found : atom? verbose full = some (part, rest)) :
    Leaves behind full rest (atom? verbose (upTo behind full) = some (part, upTo behind rest) ∨
      Dangles verbose behind part rest) := by
  unfold atom? at found
  split at found
  · cases found
  · next inner =>
    refine ((Leaves.cons _ inner).trans (class?_leaves _ found)).imp fun ⟨cons, same⟩ => Or.inl ?_
    rw [cons]
    exact same
  · next inner =>
    refine ((Leaves.cons _ inner).trans (escape?_leaves _ found)).imp fun ⟨cons, same⟩ => ?_
    exact same.imp (fun same => by rw [cons]; exact same) id
  · cases found
    exact (Leaves.cons _ _).imp fun cons => Or.inl (by rw [cons]; rfl)
  · cases found
    exact (Leaves.cons _ _).imp fun cons => Or.inl (by rw [cons]; rfl)
  · cases found
    exact (Leaves.cons _ _).imp fun cons => Or.inl (by rw [cons]; rfl)
  · next char inner bracket backslash dot start stop =>
    split at found
    · cases found
    · next plain =>
      cases found
      refine (Leaves.cons char _).imp fun cons => Or.inl ?_
      rw [cons]
      simp [atom?, plain]

theorem length_lt_of_atom? {part : Tree} (found : atom? verbose full = some (part, rest)) :
    rest.length < full.length := by
  unfold atom? at found
  split at found
  · cases found
  · exact Nat.lt_succ_of_le (class?_leaves [] found).suffix.length_le
  · exact Nat.lt_succ_of_le (escape?_leaves [] found).suffix.length_le
  · cases found
    exact Nat.lt_succ_self _
  · cases found
    exact Nat.lt_succ_self _
  · cases found
    exact Nat.lt_succ_self _
  · split at found
    · cases found
    · cases found
      exact Nat.lt_succ_self _

end

theorem length_lt_of_skip {char : Char} (opened : skip verbose full = char :: rest) : rest.length < full.length := by
  have := (skip_leaves [] verbose full).suffix.length_le
  rw [opened, List.length_cons] at this
  omega

namespace Reads

theorem suffix (reads : Reads verbose names alternatives parts full tree after rest) : rest <:+ full := by
  induction reads with
  | stop skipped ends => exact skipped ▸ (skip_leaves [] _ _).suffix
  | bar opened later induction => exact induction.trans (skip_leaves_cons [] opened).suffix
  | switches opened switched later induction =>
      exact induction.trans ((skip_leaves_cons [] opened).trans (opening?_leaves [] switched)).suffix
  | group opened begun fresh enclosed later inside induction =>
      have start := ((skip_leaves_cons [] opened).trans (opening?_leaves [] begun)).suffix
      exact induction.trans ((List.suffix_cons _ _).trans (inside.trans start))
  | rounds counted preferred last later induction =>
      exact induction.trans ((skip_leaves [] _ _).trans
        ((rounds?_leaves [] counted).trans (lazyMark_leaves [] preferred))).suffix
  | atom single later induction =>
      exact induction.trans ((skip_leaves [] _ _).trans (atom?_leaves [] single)).suffix

/-- It is read with fuel enough. -/
theorem expression?_eq (reads : Reads verbose names alternatives parts full tree after rest) {fuel : Nat}
    (enough : full.length < fuel) :
    expression? fuel verbose names alternatives parts full = some (tree, after, rest) := by
  induction reads generalizing fuel with
  | stop skipped ends =>
      obtain ⟨fuel, rfl⟩ := Nat.exists_eq_add_of_lt enough
      obtain rfl | ⟨tail, rfl⟩ := ends
      · simp [expression?, skipped]
      · simp [expression?, skipped]
  | bar opened later induction =>
      obtain ⟨fuel, rfl⟩ := Nat.exists_eq_add_of_lt enough
      have later := induction (Nat.lt_add_right fuel (length_lt_of_skip opened))
      simp [expression?, opened, later]
  | switches opened switched later induction =>
      obtain ⟨fuel, rfl⟩ := Nat.exists_eq_add_of_lt enough
      have shorter := Nat.lt_of_le_of_lt (opening?_leaves [] switched).suffix.length_le (length_lt_of_skip opened)
      have later := induction (Nat.lt_add_right fuel shorter)
      simp [expression?, opened, switched, later]
  | group opened begun fresh enclosed later inside induction =>
      obtain ⟨fuel, rfl⟩ := Nat.exists_eq_add_of_lt enough
      have shorter := Nat.lt_of_le_of_lt (opening?_leaves [] begun).suffix.length_le (length_lt_of_skip opened)
      have body := inside (Nat.lt_add_right fuel shorter)
      have closed := (List.suffix_cons ')' _).trans enclosed.suffix
      have later := induction (Nat.lt_add_right fuel (Nat.lt_of_le_of_lt closed.length_le shorter))
      simp [expression?, opened, begun, fresh, body, later]
  | rounds counted preferred last later induction =>
      obtain ⟨fuel, rfl⟩ := Nat.exists_eq_add_of_lt enough
      have shorter := Nat.lt_of_lt_of_le (length_lt_of_rounds? counted) (skip_leaves [] _ _).suffix.length_le
      have marked := (lazyMark_leaves [] preferred).suffix.length_le
      have later := induction (Nat.lt_add_right fuel (Nat.lt_of_le_of_lt marked shorter))
      unfold rounds? at counted
      split at counted
      · cases counted
        simp [expression?, *]
      · cases counted
        simp [expression?, *]
      · cases counted
        simp [expression?, *]
      · obtain ⟨⟨least, most, onward⟩, bounds, made⟩ := Option.map_eq_some_iff.mp counted
        cases made
        simp [expression?, *]
      · cases counted
  | atom single later induction =>
      obtain ⟨fuel, rfl⟩ := Nat.exists_eq_add_of_lt enough
      have shorter := Nat.lt_of_lt_of_le (length_lt_of_atom? single) (skip_leaves [] _ _).suffix.length_le
      have later := induction (Nat.lt_add_right fuel shorter)
      unfold atom? at single
      split at single
      · cases single
      · simp [expression?, *]
      · simp [expression?, *]
      · cases single
        simp [expression?, *]
      · cases single
        simp [expression?, *]
      · cases single
        simp [expression?, *]
      · split at single
        · cases single
        · next plain =>
          cases single
          simp only [isOperator] at plain
          simp at plain
          simp [expression?, *]

theorem suffix_of_brace {inner : List Char}
    (reads : Reads verbose names alternatives parts ('\x7b' :: inner) tree after rest) :
    rest <:+ (skip verbose inner).tail := by
  have solid : skip verbose ('\x7b' :: inner) = '\x7b' :: inner := by
    cases verbose <;> rfl
  cases reads with
  | stop skipped ends => simp [solid] at skipped; simp [← skipped] at ends
  | bar opened later => simp [solid] at opened
  | switches opened switched later => simp [solid] at opened
  | group opened begun fresh enclosed later => simp [solid] at opened
  | rounds counted preferred last later =>
      rw [solid, rounds?] at counted
      obtain ⟨⟨least, most, onward⟩, bounds, made⟩ := Option.map_eq_some_iff.mp counted
      cases made
      exact later.suffix.trans ((lazyMark_leaves [] preferred).suffix.trans
        ((skip_leaves [] verbose onward).suffix.trans (bounds?_suffix bounds)))
  | atom single later => simp [solid, atom?, isOperator] at single

/-- What is read does not depend on what stands behind the closing parenthesis at which it ends. -/
theorem upTo {behind : List Char} (reads : Reads verbose names alternatives parts full tree after rest)
    (left : ')' :: behind <:+ rest) :
    Reads verbose names alternatives parts (upTo behind full) tree after (upTo behind rest) := by
  induction reads with
  | stop skipped ends =>
      refine .stop (skipped ▸ (skip_leaves behind _ _).same (skipped ▸ left)) ?_
      obtain rfl | ⟨tail, rfl⟩ := ends
      · simp at left
      · rcases List.suffix_cons_iff.mp left with same | inside
        · obtain rfl := (List.cons.inj same).2
          exact Or.inl (upTo_self _)
        · exact Or.inr ⟨_, upTo_cons inside⟩
  | bar opened later induction =>
      exact .bar ((skip_leaves_cons behind opened).same (left.trans later.suffix)) (induction left)
  | switches opened switched later induction =>
      have lead := (skip_leaves_cons behind opened).trans (opening?_leaves behind switched)
      obtain ⟨opened, switched⟩ := lead.same (left.trans later.suffix)
      exact .switches opened switched (induction left)
  | group opened begun fresh enclosed later inside induction =>
      have lead := (skip_leaves_cons behind opened).trans (opening?_leaves behind begun)
      have goes := left.trans later.suffix
      have closed := goes.trans (List.suffix_cons ')' _)
      obtain ⟨opened, begun⟩ := lead.same (closed.trans enclosed.suffix)
      exact .group opened begun fresh (upTo_cons goes ▸ inside closed) (induction left)
  | rounds counted preferred last later induction =>
      have lead := (skip_leaves behind _ _).trans
        ((rounds?_leaves behind counted).trans (lazyMark_leaves behind preferred))
      obtain ⟨skipped, counted, preferred⟩ := lead.same (left.trans later.suffix)
      exact .rounds (skipped ▸ counted) preferred last (induction left)
  | atom single later induction =>
      have lead := (skip_leaves behind _ _).trans (atom?_leaves behind single)
      obtain ⟨skipped, single | ⟨-, inner, rfl, hidden⟩⟩ := lead.same (left.trans later.suffix)
      · exact .atom (skipped ▸ single) (induction left)
      · exact absurd (left.trans later.suffix_of_brace) hidden

end Reads

/-! ## Bounds in order -/

mutual

/-- No repetition has its bounds out of order. -/
def Tree.Ordered : Tree → Prop
  | .group _ _ body => body.Ordered
  | .repetition body least most _ => (∀ bound ∈ most, least ≤ bound) ∧ body.Ordered
  | .concat parts => Tree.AllOrdered parts
  | .alternation parts => Tree.AllOrdered parts
  | _ => True

/-- No repetition in some trees has its bounds out of order. -/
def Tree.AllOrdered : List Tree → Prop
  | [] => True
  | part :: parts => part.Ordered ∧ Tree.AllOrdered parts

end

theorem allOrdered_iff {parts : List Tree} : Tree.AllOrdered parts ↔ ∀ part ∈ parts, part.Ordered := by
  induction parts with
  | nil => simp [Tree.AllOrdered]
  | cons part parts induction => simp [Tree.AllOrdered, induction]

theorem ordered_sequence (ordered : ∀ part ∈ parts, part.Ordered) : (Tree.sequence parts).Ordered := by
  unfold Tree.sequence
  split
  · trivial
  · exact ordered _ (List.mem_singleton_self _)
  · exact allOrdered_iff.mpr ordered

theorem ordered_choice (ordered : ∀ part ∈ parts, part.Ordered) : (Tree.choice parts).Ordered := by
  unfold Tree.choice
  split
  · exact ordered _ (List.mem_singleton_self _)
  · exact allOrdered_iff.mpr ordered

theorem le_of_rounds? {least bound : Nat} (found : rounds? verbose full = some (least, some bound, rest)) :
    least ≤ bound := by
  unfold rounds? at found
  split at found
  · cases found
    exact Nat.zero_le _
  · cases found
  · cases found
  · obtain ⟨⟨least, most, onward⟩, bounds, made⟩ := Option.map_eq_some_iff.mp found
    cases made
    exact le_of_bounds? bounds
  · cases found

theorem ordered_of_boundary? {part : Tree} (found : boundary? verbose full = some (part, rest)) : part.Ordered := by
  simp only [boundary?] at found
  split at found
  · split at found
    · cases found
    · split at found
      · split at found
        · obtain ⟨kind, -, made⟩ := Option.bind_eq_some_iff.mp found
          cases made
          trivial
        · cases found
      · cases found
        trivial
  · cases found
    trivial

theorem ordered_of_escape? {part : Tree} (found : escape? verbose full = some (part, rest)) : part.Ordered := by
  cases full with
  | nil => cases found
  | cons char full =>
      simp only [escape?] at found
      split at found
      all_goals first
        | exact ordered_of_boundary? found
        | (cases found; trivial)
        | (obtain ⟨_, -, made⟩ := Option.map_eq_some_iff.mp found; cases made; trivial)
        | skip
      split at found
      · cases found
        trivial
      · cases found

theorem ordered_of_atom? {part : Tree} (found : atom? verbose full = some (part, rest)) : part.Ordered := by
  unfold atom? at found
  split at found
  · cases found
  · simp only [class?, Option.bind_eq_bind, Option.bind_eq_some_iff] at found
    obtain ⟨⟨negated, opening, after⟩, -, ⟨inner, left⟩, -, made⟩ := found
    cases made
    trivial
  · exact ordered_of_escape? found
  · cases found
    trivial
  · cases found
    trivial
  · cases found
    trivial
  · split at found
    · cases found
    · cases found
      trivial

theorem Reads.ordered (reads : Reads verbose names alternatives parts full tree after rest)
    (earlier : ∀ part ∈ alternatives, part.Ordered) (before : ∀ part ∈ parts, part.Ordered) : tree.Ordered := by
  have sequenced {parts : List Tree} (before : ∀ part ∈ parts, part.Ordered) : (Tree.sequence parts.reverse).Ordered :=
    ordered_sequence fun part member => before part (List.mem_reverse.mp member)
  induction reads with
  | stop skipped ends =>
      refine ordered_choice fun part member => ?_
      exact List.forall_mem_cons.mpr ⟨sequenced before, earlier⟩ part (List.mem_reverse.mp member)
  | bar opened later induction =>
      exact induction (List.forall_mem_cons.mpr ⟨sequenced before, earlier⟩) (by simp)
  | switches opened switched later induction =>
      exact induction earlier (List.forall_mem_cons.mpr ⟨trivial, before⟩)
  | group opened begun fresh enclosed later inside induction =>
      exact induction earlier (List.forall_mem_cons.mpr ⟨inside (by simp) (by simp), before⟩)
  | rounds counted preferred last later induction =>
      unfold repeatLast? at last
      split at last
      · cases last
      · cases last
      · cases last
      · cases last
        obtain ⟨first, others⟩ := List.forall_mem_cons.mp before
        refine induction earlier (List.forall_mem_cons.mpr ⟨⟨fun bound same => ?_, first⟩, others⟩)
        rw [Option.mem_def] at same
        exact le_of_rounds? (same ▸ counted)
  | atom single later induction =>
      exact induction earlier (List.forall_mem_cons.mpr ⟨ordered_of_atom? single, before⟩)

end Regex
end Collocation
