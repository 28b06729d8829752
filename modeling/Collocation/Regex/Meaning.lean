import Collocation.Regex.Automaton
import Collocation.Regex.Reader

/-!
# From the text of an expression to its meaning

`Expr.ofText?` reads a text, resolves its switches, and gives the expression that it means.  A text
whose automaton would be too large is refused.
-/

namespace Collocation
namespace Regex

/-- Expressions one after another. -/
def Expr.sequence (parts : List Expr) : Expr :=
  parts.foldr .seq .empty

/-- A choice between expressions. -/
def Expr.choice (parts : List Expr) : Expr :=
  parts.foldr .alt (.one .empty)

/-- How an expression is built from its parts.  What a group remembers and how many rounds are
preferred never changes whether a text matches. -/
def Expr.assembly : Assembly Expr where
  empty := .empty
  one := .one
  look := .look
  sequence := .sequence
  choice := .choice
  group := id
  rounds body least most _ := .rounds body least most

/-- The meaning of a tree. -/
def Tree.expr? (tree : Tree) : Option Expr :=
  (tree.assemble? Expr.assembly .standard).map Prod.fst

/-- The outline of a tree. -/
def Tree.outline? (tree : Tree) : Option Outline :=
  (tree.assemble? Outline.assembly .standard).map Prod.fst

/-- The expression of a whole text, or `none` if the text is not a regular expression. -/
def Expr.ofText? (text : List Char) : Option Expr := do
  let tree ← Tree.ofText? text
  let outline ← tree.outline?
  if outline.fits then tree.expr? else none

end Regex
end Collocation
