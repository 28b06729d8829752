import Collocation.Tally.Lexeme
import Collocation.Table
import Collocation.Text.Blank
import Collocation.Text.Bytes
import Collocation.Text.Fields
import Collocation.Text.Quoted
import Collocation.Text.Real

/-!
# Norms

Norms say how frequent a lexeme is outside the corpus.  They are read from a text with a lexeme on each
line: its lemma, its part of speech, its frequency per million words and, if it is known, its contextual
diversity, with tabulators between them.  Blank lines and lines that begin with a number sign are passed
over.  The last line of a lexeme counts.
-/

namespace Collocation

/-- What is known of a lexeme outside the corpus. -/
structure Norm where
  /-- The frequency per million words. -/
  frequency : Float
  /-- The contextual diversity, if it is known. -/
  diversity : Option Float

/-- Norms of lexemes. -/
abbrev Norms :=
  Table Lexeme Norm

/-- What is wrong with a line of norms. -/
inductive NormFault where
  /-- The line has a wrong number of fields. -/
  | fields (count : Nat)
  /-- A field is no number. -/
  | number (name field : String)
  deriving DecidableEq

/-- Why norms cannot be read. -/
inductive NormError where
  /-- The bytes are missing or are no text. -/
  | unreadable
  /-- A line is malformed. -/
  | malformed (line : Nat) (fault : NormFault)
  deriving DecidableEq

/-- The wording of a fault. -/
def NormFault.message : NormFault → String
  | fields count => s!"expected 3 or 4 tab-separated fields, got {count}"
  | number name field => s!"invalid {name}: {Text.quoted field}"

/-- The wording of an error. -/
def NormError.message : NormError → String
  | unreadable => "failed to read norms"
  | malformed line fault => s!"line {line}: {fault.message}"

namespace Norms

/-- The number in a field, blanks around it being ignored. -/
def number (name : String) (field : List Char) : Except NormFault Float :=
  match Text.real? (Text.trim field) with
  | some value => .ok value
  | none => .error (.number name (String.ofList field))

/-- The lexeme and the norm of fields. -/
def entry : List (List Char) → Except NormFault (Lexeme × Norm)
  | [base, tag, frequency] => do
      let frequency ← number "frequency" frequency
      return (⟨String.ofList base, String.ofList tag⟩, ⟨frequency, none⟩)
  | [base, tag, frequency, diversity] => do
      let frequency ← number "frequency" frequency
      let diversity ←
        if Text.allBlank diversity then pure none
        else (number "diversity" (Text.trim diversity)).map some
      return (⟨String.ofList base, String.ofList tag⟩, ⟨frequency, diversity⟩)
  | fields => .error (.fields fields.length)

/-- Whether a line says nothing. -/
def isIdle (line : List Char) : Bool :=
  Text.allBlank line || line.head? == some '#'

/-- Read lines into norms; `place` is the place of the first line. -/
def ofLines (norms : Norms) (place : Nat) : List (List UInt8) → Except NormError Norms
  | [] => .ok norms
  | line :: lines =>
      match Text.decode? line with
      | none => .error .unreadable
      | some text =>
          let text := Text.withoutLineEnd text.toList
          if isIdle text then ofLines norms (place + 1) lines
          else
            match entry (Text.fields '\t' text) with
            | .error fault => .error (.malformed place fault)
            | .ok (lexeme, norm) => ofLines (norms.insert lexeme norm) (place + 1) lines

/-- The norms of a document. -/
def ofBytes (bytes : List UInt8) : Except NormError Norms :=
  ofLines ∅ 1 (Text.byteLines bytes)

end Norms
end Collocation
