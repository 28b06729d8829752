import Collocation.Regex.Expr

/-!
# Putting an expression together from its parts

`Tree.assemble?` resolves the switches of a tree and builds a value from the parts, in whatever way an
`Assembly` says.  A switch set in a sequence holds for all that follows in the enclosing group, through
every alternative.  A dot, a negated class, and a character beyond ASCII in a class are refused where
Unicode is switched off, since they could match half a character.
-/

namespace Collocation
namespace Regex

open Unicode

/-- A way to build values from the parts of an expression. -/
structure Assembly (Value : Type) where
  /-- The empty stretch. -/
  empty : Value
  /-- One character of a set. -/
  one : CodeSet → Value
  /-- The empty stretch where a condition holds. -/
  look : Look → Value
  /-- Parts one after another. -/
  sequence : List Value → Value
  /-- A choice between parts. -/
  choice : List Value → Value
  /-- A part whose stretch is to be remembered. -/
  group : Value → Value
  /-- A number of rounds of a part, without an upper bound if the second number is absent; the flag
  asks for few rounds rather than many. -/
  rounds : Value → Nat → Option Nat → Bool → Value

/-- The characters that a literal matches. -/
def Literal.set? (settings : Settings) (literal : Literal) : Option CodeSet :=
  if !settings.unicode ∧ literal.isByte ∧ 128 ≤ literal.char.toNat then none
  else some (settings.close (.singleton literal.char))

/-- The characters that the dot matches: all of them, or all but the ends of lines. -/
def dot? (settings : Settings) : Option CodeSet :=
  if !settings.unicode then none
  else if settings.dotAll then some .whole
  else if settings.carriage then some (CodeSet.complement ⟨[(0x0A, 0x0B), (0x0D, 0x0E)]⟩)
  else some (CodeSet.complement ⟨[(0x0A, 0x0B)]⟩)

/-- The condition of an assertion. -/
def Assertion.look (settings : Settings) : Assertion → Look
  | .lineStart => if settings.multiLine then .lineStart settings.carriage else .textStart
  | .lineEnd => if settings.multiLine then .lineEnd settings.carriage else .textEnd
  | .textStart => .textStart
  | .textEnd => .textEnd
  | .wordBoundary => .word settings.unicode .boundary
  | .notWordBoundary => .word settings.unicode .noBoundary
  | .wordStart => .word settings.unicode .start
  | .wordEnd => .word settings.unicode .stop
  | .wordStartHalf => .word settings.unicode .halfStart
  | .wordEndHalf => .word settings.unicode .halfStop

mutual

/-- The value of an expression, and the settings that hold after it. -/
def Tree.assemble? {Value : Type} (assembly : Assembly Value) (settings : Settings) :
    Tree → Option (Value × Settings)
  | .empty => some (assembly.empty, settings)
  | .literal char => (char.set? settings).map fun set => (assembly.one set, settings)
  | .dot => (dot? settings).map fun set => (assembly.one set, settings)
  | .assertion kind => some (assembly.look (kind.look settings), settings)
  | .shorthand kind negated =>
      (kind.classSet? settings negated).map fun set => (assembly.one set, settings)
  | .property name negated =>
      (name.classSet? settings negated).map fun set => (assembly.one set, settings)
  | .bracketed negated inner => do
      let set ← inner.set? settings
      let whole ← bracketedSet? settings negated set
      some (assembly.one whole, settings)
  | .switches changes => some (assembly.empty, settings.setAll changes)
  | .group captures changes body => do
      let (value, _) ← body.assemble? assembly (settings.setAll changes)
      some (if captures then assembly.group value else value, settings)
  | .repetition body least most marked => do
      let (value, _) ← body.assemble? assembly settings
      some (assembly.rounds value least most (marked != settings.lazy), settings)
  | .concat parts => do
      let (values, after) ← Tree.assembleAll? assembly settings parts
      some (assembly.sequence values, after)
  | .alternation parts => do
      let (values, after) ← Tree.assembleAll? assembly settings parts
      some (assembly.choice values, after)

/-- The values of expressions one after another, and the settings that hold after the last one. -/
def Tree.assembleAll? {Value : Type} (assembly : Assembly Value) (settings : Settings) :
    List Tree → Option (List Value × Settings)
  | [] => some ([], settings)
  | part :: parts => do
      let (value, settings) ← part.assemble? assembly settings
      let (values, settings) ← Tree.assembleAll? assembly settings parts
      some (value :: values, settings)

end

end Regex
end Collocation
