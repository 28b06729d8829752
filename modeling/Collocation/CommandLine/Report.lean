import Collocation.Accessibility.Basic
import Collocation.Score.Sketch
import Collocation.Text.Fixed

/-!
# Reports

A sketch is printed as lines with columns of fixed least width; a longer entry pushes the others to the
right.  Texts stand on the left of their columns and numbers on the right.
-/

namespace Collocation
namespace Report

/-- A text on the left of a column. -/
def left (width : Nat) (text : String) : String :=
  text ++ String.ofList (List.replicate (width - text.length) ' ')

/-- A text on the right of a column. -/
def right (width : Nat) (text : String) : String :=
  String.ofList (List.replicate (width - text.length) ' ') ++ text

/-- The columns of a line. -/
def line (relation collocate tag frequency logDice information t examples : String) : String :=
  " ".intercalate [left 16 relation, left 20 collocate, left 6 tag, right 8 frequency,
    right 8 logDice, right 8 information, right 8 t] ++ "  " ++ examples

/-- The line above the records. -/
def heading : String :=
  line "relation" "collocate" "pos" "freq" "logDice" "MI" "t" "examples"

/-- The line of a record. -/
def recordLine (record : Record) : String :=
  line record.pairing.relation record.pairing.collocate.base record.pairing.collocate.tag
    (toString record.frequency) (Text.fixed 2 record.association.logDice.toFloat)
    (Text.fixed 2 record.association.mutualInformation.toFloat)
    (Text.fixed 2 record.association.tScore.toFloat)
    (",".intercalate (record.examples.map toString))

/-- The line of an accessibility. -/
def accessibilityLine (entry : Accessibility) : String :=
  let source := if entry.corpusOnly then " (corpus only)" else ""
  s!"accessibility of {entry.lexeme.base}/{entry.lexeme.tag}: {Text.fixed 3 entry.score}{source}"

/-- The lines of a sketch. -/
def lines (records : List Record) (accessibility : Option Accessibility) : List String :=
  heading :: records.map recordLine ++
    match accessibility with
    | none => []
    | some entry => ["", accessibilityLine entry]

end Report
end Collocation
