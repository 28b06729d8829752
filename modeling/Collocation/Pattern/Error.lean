/-!
# Why a pattern is rejected

Each cause keeps the label, tag or text that it is about.  `PatternError.message` words it.  The last cause
is no fault of the pattern: the program stops in the middle of an addition.
-/

namespace Collocation

/-- Why a pattern is rejected. -/
inductive PatternError where
  /-- The text is not a pattern. -/
  | malformed
  /-- A test names no attribute of a token. -/
  | unknownAttribute (name clause : String)
  /-- A part of speech is tested against a regular expression. -/
  | regexTag (clause : String)
  /-- A value between slashes is not a regular expression. -/
  | invalidRegex (clause : String)
  /-- A part of speech is not known for the language. -/
  | unknownTag (tag language clause : String)
  /-- A bound is not a number of 64 bits. -/
  | malformedBounds (clause : String)
  /-- A bound is negative. -/
  | negativeBound (clause : String)
  /-- The lower bound exceeds the upper one. -/
  | invertedBounds (least most : Int) (clause : String)
  /-- Two slots have the same label. -/
  | duplicateLabel (label clause : String)
  /-- No slot has a label. -/
  | undeclaredLabel (label clause : String)
  /-- A reference does not name a label and a feature. -/
  | malformedReference (clause : String)
  /-- The slot of the head or of the collocate is missing. -/
  | missingSlot (label : String)
  /-- A sum is too large for a word of 64 bits. -/
  | overflow
  deriving DecidableEq, Repr

/-- The wording of a cause. -/
def PatternError.message : PatternError → String
  | malformed => "syntax error"
  | unknownAttribute name clause => s!"unknown attribute `{name}` in `{clause}`"
  | regexTag clause => s!"POS tests must name a literal tag: `{clause}`"
  | invalidRegex clause => s!"invalid regex in `{clause}`"
  | unknownTag tag language clause =>
      s!"unknown POS tag `{tag}` for language `{language}` in `{clause}`"
  | malformedBounds clause => s!"malformed distance bounds `{clause}`"
  | negativeBound clause => s!"negative distance bound in `{clause}`"
  | invertedBounds least most clause =>
      s!"distance bounds out of order ({least} > {most}) in `{clause}`"
  | duplicateLabel label clause => s!"slot label `{label}` declared twice in `{clause}`"
  | undeclaredLabel label clause => s!"undeclared slot label `{label}` in `{clause}`"
  | malformedReference clause => s!"malformed feature reference in `{clause}`"
  | missingSlot label => s!"pattern has no slot labeled `{label}`"
  | overflow => "attempt to add with overflow"

end Collocation
