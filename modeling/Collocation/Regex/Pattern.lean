import Collocation.Regex.Meaning

/-!
# Regular expressions that test a whole text

The text of a pattern is set between anchors, as `^(?:` and `)$`, and the whole is read as one regular
expression.  The pattern accepts a text if that expression matches some stretch of it.
-/

namespace Collocation

/-- A pattern whose anchored text is a regular expression. -/
structure Regex where
  /-- The text of the pattern, without anchors. -/
  source : String
  /-- The meaning of the anchored text. -/
  expr : Regex.Expr
  /-- The meaning is the one that the text has. -/
  expr_eq : Regex.Expr.ofText? ("^(?:".toList ++ source.toList ++ ")$".toList) = some expr

namespace Regex

/-- The anchored text of a pattern. -/
def anchored (source : String) : List Char :=
  "^(?:".toList ++ source.toList ++ ")$".toList

/-- The pattern of a text, if its anchored text is a regular expression. -/
def ofSource? (source : String) : Option Regex :=
  match meaning : Expr.ofText? (anchored source) with
  | some expr => some ⟨source, expr, meaning⟩
  | none => none

/-- Whether the pattern accepts a text. -/
def accepts (regex : Regex) (text : String) : Bool :=
  regex.expr.matchesWithin text.toList.toArray

/-- A pattern is determined by its text. -/
theorem eq_of_source_eq {left right : Regex} (same : left.source = right.source) : left = right := by
  obtain ⟨source, expr, meaning⟩ := left
  obtain ⟨source', expr', meaning'⟩ := right
  obtain rfl : source = source' := same
  obtain rfl : expr = expr' := Option.some.inj (meaning.symm.trans meaning')
  rfl

instance : DecidableEq Regex := fun left right =>
  if same : left.source = right.source then isTrue (eq_of_source_eq same)
  else isFalse fun equal => same (congrArg source equal)

/-- Reading the text of a pattern gives the pattern back. -/
@[simp]
theorem ofSource?_source (regex : Regex) : ofSource? regex.source = some regex := by
  unfold ofSource?
  split
  · exact congrArg some (eq_of_source_eq rfl)
  · next absent => exact absurd (absent.symm.trans regex.expr_eq) (by simp)

/-- The pattern read from a text has that text. -/
theorem source_of_ofSource? {source : String} {regex : Regex}
    (found : ofSource? source = some regex) : regex.source = source := by
  unfold ofSource? at found
  split at found
  · rw [← Option.some.inj found]
  · simp at found

end Regex
end Collocation
