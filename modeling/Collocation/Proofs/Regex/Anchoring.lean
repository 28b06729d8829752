import Collocation.Proofs.Regex.Ends
import Collocation.Proofs.Regex.Reading
import Collocation.Regex.Pattern

/-!
# Setting a pattern between anchors

A pattern is read between `^(?:` and `)$`.  If the text of the pattern is a regular expression on its own, the anchored
text is accepted as that expression matching the whole of a text.  The anchored text can be an expression in one other
case: if the text of the pattern ends a group that it does not open, and then the group ends before the anchor behind it.
-/

namespace Collocation
namespace Regex

/-! ## Ordered expressions -/

theorem ordered_exprSequence {parts : List Expr} (ordered : ∀ part ∈ parts, part.Ordered) :
    (Expr.sequence parts).Ordered := by
  induction parts with
  | nil => trivial
  | cons part parts induction =>
      obtain ⟨first, others⟩ := List.forall_mem_cons.mp ordered
      exact ⟨first, induction others⟩

theorem ordered_exprChoice {parts : List Expr} (ordered : ∀ part ∈ parts, part.Ordered) :
    (Expr.choice parts).Ordered := by
  induction parts with
  | nil => trivial
  | cons part parts induction =>
      obtain ⟨first, others⟩ := List.forall_mem_cons.mp ordered
      exact ⟨first, induction others⟩

mutual

/-- The bounds of a tree are those of its meaning. -/
theorem Tree.Ordered.expr {tree : Tree} (ordered : tree.Ordered) {settings after : Settings} {expr : Expr}
    (found : tree.assemble? Expr.assembly settings = some (expr, after)) : expr.Ordered := by
  cases tree with
  | empty =>
      cases found
      trivial
  | literal char =>
      obtain ⟨set, -, made⟩ := Option.map_eq_some_iff.mp found
      cases made
      trivial
  | dot =>
      obtain ⟨set, -, made⟩ := Option.map_eq_some_iff.mp found
      cases made
      trivial
  | assertion kind =>
      cases found
      trivial
  | shorthand kind negated =>
      obtain ⟨set, -, made⟩ := Option.map_eq_some_iff.mp found
      cases made
      trivial
  | property name negated =>
      obtain ⟨set, -, made⟩ := Option.map_eq_some_iff.mp found
      cases made
      trivial
  | bracketed negated inner =>
      simp only [Tree.assemble?, Option.bind_eq_bind, Option.bind_eq_some_iff] at found
      obtain ⟨set, -, whole, -, made⟩ := found
      cases made
      trivial
  | switches changes =>
      cases found
      trivial
  | group captures changes body =>
      simp only [Tree.assemble?, Option.bind_eq_bind, Option.bind_eq_some_iff] at found
      obtain ⟨⟨value, between⟩, inner, made⟩ := found
      cases made
      have inside : body.Ordered := ordered
      cases captures <;> exact inside.expr inner
  | repetition body least most marked =>
      simp only [Tree.assemble?, Option.bind_eq_bind, Option.bind_eq_some_iff] at found
      obtain ⟨⟨value, between⟩, inner, made⟩ := found
      cases made
      exact ⟨ordered.1, ordered.2.expr inner⟩
  | concat parts =>
      simp only [Tree.assemble?, Option.bind_eq_bind, Option.bind_eq_some_iff] at found
      obtain ⟨⟨values, between⟩, inner, made⟩ := found
      cases made
      exact ordered_exprSequence (Tree.AllOrdered.exprs ordered inner)
  | alternation parts =>
      simp only [Tree.assemble?, Option.bind_eq_bind, Option.bind_eq_some_iff] at found
      obtain ⟨⟨values, between⟩, inner, made⟩ := found
      cases made
      exact ordered_exprChoice (Tree.AllOrdered.exprs ordered inner)

theorem Tree.AllOrdered.exprs {parts : List Tree} (ordered : Tree.AllOrdered parts) {settings after : Settings}
    {exprs : List Expr} (found : Tree.assembleAll? Expr.assembly settings parts = some (exprs, after)) :
    ∀ expr ∈ exprs, expr.Ordered := by
  cases parts with
  | nil =>
      cases found
      simp
  | cons part parts =>
      simp only [Tree.assembleAll?, Option.bind_eq_bind, Option.bind_eq_some_iff] at found
      obtain ⟨⟨expr, between⟩, first, ⟨others, last⟩, rest, made⟩ := found
      cases made
      exact List.forall_mem_cons.mpr ⟨Tree.Ordered.expr ordered.1 first, Tree.AllOrdered.exprs ordered.2 rest⟩

end

/-! ## Anchored texts -/

/-- What a text means as a regular expression of its own, however large its automaton. -/
def meaning? (source : String) : Option Expr :=
  (Tree.ofText? source.toList).bind Tree.expr?

/-- Reading a text as an expression ends before the text does, at a closing parenthesis. -/
def ClosesEarly (source : String) : Prop :=
  ∃ tree names rest,
    expression? (source.toList.length + 1) false [] [] [] source.toList = some (tree, names, ')' :: rest)

theorem expression?_anchored (fuel : Nat) (text : List Char) :
    expression? (fuel + 2) false [] [] [] ("^(?:".toList ++ text) =
      match expression? fuel false [] [] [] text with
      | some (body, names, ')' :: rest) =>
          expression? fuel false names [] [.group false [] body, .assertion .lineStart] rest
      | _ => none := by
  rfl

/-- The anchored text is read up to the end of its group, and then on. -/
theorem reads_of_anchored {source : String} {tree : Tree} (found : Tree.ofText? (anchored source) = some tree) :
    tree.depth ≤ depthLimit ∧ ∃ body names onward after,
      Reads false [] [] [] (source.toList ++ [')', '$']) body names (')' :: onward) ∧
        Reads false names [] [.group false [] body, .assertion .lineStart] onward tree after [] := by
  have whole : anchored source = "^(?:".toList ++ (source.toList ++ [')', '$']) := List.append_assoc _ _ _
  have fuel : (anchored source).length + 1 = (source.toList.length + 5) + 2 := by simp [whole]
  unfold Tree.ofText? at found
  split at found
  · next tree after read =>
    split at found
    · next shallow =>
      cases found
      rw [fuel, whole, expression?_anchored] at read
      split at read
      · next body names onward inside =>
        exact ⟨shallow, body, names, onward, after, reads_of_expression? inside, reads_of_expression? read⟩
      · cases read
    · cases found
  · cases found

/-- The group ends at the closing parenthesis behind the text, or at one inside it. -/
theorem Reads.alone {source : List Char} {body : Tree} {names : List String} {onward : List Char}
    (reads : Reads false [] [] [] (source ++ [')', '$']) body names (')' :: onward)) :
    (onward = ['$'] ∧ Reads false [] [] [] source body names []) ∨
      ∃ rest, onward = rest ++ [')', '$'] ∧ Reads false [] [] [] source body names (')' :: rest) := by
  have ends : [')', '$'] <:+ ')' :: onward := by
    rcases List.suffix_or_suffix_of_suffix reads.suffix (List.suffix_append source [')', '$']) with short | long
    · rcases List.suffix_cons_iff.mp short with same | inside
      · exact same ▸ List.suffix_rfl
      · rcases List.suffix_cons_iff.mp inside with same | nothing
        · cases same
        · cases List.suffix_nil.mp nothing
    · exact long
  have here := reads.upTo ends
  rw [upTo_append] at here
  rcases List.suffix_cons_iff.mp ends with same | ⟨rest, rfl⟩
  · cases same
    exact Or.inl ⟨rfl, upTo_self ['$'] ▸ here⟩
  · exact Or.inr ⟨rest, rfl, upTo_append (')' :: rest) ['$'] ▸ here⟩

theorem Reads.ofText?_eq {text : List Char} {tree : Tree} {names : List String}
    (reads : Reads false [] [] [] text tree names []) (shallow : tree.depth ≤ depthLimit) :
    Tree.ofText? text = some tree := by
  simp [Tree.ofText?, reads.expression?_eq (Nat.lt_succ_self _), shallow]

theorem Reads.eq_of_anchor {names after : List String} {parts : List Tree} {tree : Tree}
    (reads : Reads false names [] parts ['$'] tree after []) :
    tree = Tree.sequence (.assertion .lineEnd :: parts).reverse := by
  have read := reads.expression?_eq (Nat.lt_succ_self _)
  simp [expression?, skip, Tree.choice] at read
  simp [← read.1]

/-! ## What an anchored text means -/

theorem exists_tree_of_ofText? {text : List Char} {expr : Expr} (found : Expr.ofText? text = some expr) :
    ∃ tree, Tree.ofText? text = some tree ∧ tree.expr? = some expr := by
  simp only [Expr.ofText?, Option.bind_eq_bind, Option.bind_eq_some_iff] at found
  obtain ⟨tree, read, outline, -, found⟩ := found
  split at found
  · exact ⟨tree, read, found⟩
  · cases found

theorem ordered_of_ofText? {text : List Char} {expr : Expr} (found : Expr.ofText? text = some expr) : expr.Ordered := by
  obtain ⟨tree, read, meant⟩ := exists_tree_of_ofText? found
  obtain ⟨⟨value, after⟩, assembled, made⟩ := Option.map_eq_some_iff.mp meant
  cases made
  unfold Tree.ofText? at read
  split at read
  · next names read' =>
    split at read
    · cases read
      exact ((reads_of_expression? read').ordered (by simp) (by simp)).expr assembled
    · cases read
  · cases read

/-- An expression between the start and the end of a text. -/
def Expr.anchored (expr : Expr) : Expr :=
  .seq (.look .textStart) (.seq expr (.seq (.look .textEnd) .empty))

/-- An anchored expression matches only the whole of a text. -/
theorem matches_anchored_iff {expr : Expr} {text : Array Char} {start stop : Nat} :
    Matches text expr.anchored start stop ↔ start = 0 ∧ stop = text.size ∧ Matches text expr 0 text.size := by
  simp only [Expr.anchored, matches_seq_iff, matches_look_iff, matches_empty_iff, Look.holds, beq_iff_eq]
  constructor
  · rintro ⟨first, ⟨rfl, rfl⟩, last, whole, end', ⟨rfl, rfl⟩, rfl⟩
    exact ⟨rfl, rfl, whole⟩
  · rintro ⟨rfl, rfl, whole⟩
    exact ⟨0, ⟨rfl, rfl⟩, text.size, whole, text.size, ⟨rfl, rfl⟩, rfl⟩

theorem expr?_of_anchors {body : Tree} {expr : Expr}
    (meant : (Tree.concat [.assertion .lineStart, .group false [] body, .assertion .lineEnd]).expr? = some expr) :
    ∃ meaning, body.expr? = some meaning ∧ expr = meaning.anchored := by
  simp [Tree.expr?, Tree.assemble?, Tree.assembleAll?, Settings.setAll, Option.bind_eq_some_iff] at meant
  obtain ⟨meaning, ⟨after, inner⟩, rfl⟩ := meant
  exact ⟨meaning, by simp [Tree.expr?, inner], rfl⟩

/-- If the anchored text of a pattern is an expression, then the text is one on its own and has to match the whole, or it
closes a group that it does not open. -/
theorem exists_meaning_or_closesEarly {source : String} {expr : Expr}
    (found : Expr.ofText? (anchored source) = some expr) :
    (∃ meaning, meaning? source = some meaning ∧ expr = meaning.anchored) ∨ ClosesEarly source := by
  obtain ⟨tree, read, meant⟩ := exists_tree_of_ofText? found
  obtain ⟨shallow, body, names, onward, after, inside, behind⟩ := reads_of_anchored read
  obtain ⟨rfl, alone⟩ | ⟨rest, -, alone⟩ := inside.alone
  · obtain rfl := behind.eq_of_anchor
    obtain ⟨meaning, own, same⟩ := expr?_of_anchors meant
    have shallow : body.depth ≤ depthLimit := by
      simp [Tree.sequence, Tree.depth, Tree.depthOfAll] at shallow
      omega
    exact Or.inl ⟨meaning, by simp [meaning?, alone.ofText?_eq shallow, own], same⟩
  · exact Or.inr ⟨body, names, rest, alone.expression?_eq (Nat.lt_succ_self _)⟩

theorem ClosesEarly.meaning?_eq_none {source : String} (closes : ClosesEarly source) : meaning? source = none := by
  obtain ⟨tree, names, rest, read⟩ := closes
  simp [meaning?, Tree.ofText?, read]

/-- A text that is neither an expression on its own nor closes early is no pattern. -/
theorem ofSource?_eq_none {source : String} (absent : meaning? source = none) (stays : ¬ ClosesEarly source) :
    ofSource? source = none := by
  unfold ofSource?
  split
  · next expr found =>
    obtain ⟨meaning, own, -⟩ | closes := exists_meaning_or_closesEarly found
    · cases absent.symm.trans own
    · exact absurd closes stays
  · rfl

/-- The text of a pattern is an expression on its own or closes early, but not both. -/
theorem isSome_meaning?_iff (regex : Regex) : (meaning? regex.source).isSome ↔ ¬ ClosesEarly regex.source := by
  constructor
  · intro own closes
    rw [closes.meaning?_eq_none] at own
    cases own
  · intro stays
    obtain ⟨meaning, own, -⟩ := (exists_meaning_or_closesEarly regex.expr_eq).resolve_right stays
    exact Option.isSome_of_mem own

/-- A pattern whose text is an expression on its own accepts what that expression matches as a whole. -/
theorem accepts_iff_of_meaning {regex : Regex} {meaning : Expr} (own : meaning? regex.source = some meaning)
    (text : String) :
    regex.accepts text ↔ Matches text.toList.toArray meaning 0 text.toList.length := by
  have shape : regex.expr = meaning.anchored := by
    obtain ⟨meaning', own', same⟩ | closes := exists_meaning_or_closesEarly regex.expr_eq
    · cases own.symm.trans own'
      exact same
    · cases closes.meaning?_eq_none.symm.trans own
  have ordered := ordered_of_ofText? regex.expr_eq
  rw [accepts, matchesWithin_iff ordered, shape]
  simp only [matches_anchored_iff, List.size_toArray]
  constructor
  · rintro ⟨start, stop, -, rfl, rfl, whole⟩
    exact whole
  · intro whole
    exact ⟨0, _, Nat.zero_le _, rfl, rfl, whole⟩

end Regex
end Collocation
