import Collocation.Sentence.Basic
import Collocation.Text.Bytes
import Collocation.Text.Integer

/-!
# CoNLL-U

A CoNLL-U document is a sequence of blocks with blank lines between them.  A block holds comments, which
begin with a number sign, and token lines with ten columns.  `read` gives an item for every block: a
sentence, or what is wrong with it.  A line that is not text ends its block and is an item of its own.
-/

namespace Collocation
namespace Conllu

/-- What the reader finds. -/
inductive Item where
  /-- A sentence. -/
  | sentence (sentence : Sentence)
  /-- A block with a malformed line: its number, the line's number, and what is wrong. -/
  | malformed (id : SentenceId) (line : Nat) (cause : String)
  /-- A line that is not text, and the number that the next block would get. -/
  | unreadable (id : SentenceId) (line : Nat)
  deriving DecidableEq

/-- The number of the item's sentence. -/
def Item.id : Item → SentenceId
  | sentence found => found.id
  | malformed id _ _ => id
  | unreadable id _ => id

/-- What is wrong with a line. -/
def lineMessage (line : Nat) (cause : String) : String :=
  s!"parse error at line {line}: {cause}"

/-- What is wrong with a sentence. -/
def sentenceMessage (id : SentenceId) (line : Nat) (cause : String) : String :=
  s!"sentence {id}: {lineMessage line cause}"

/-! ## Lines -/

/-- A line by its role in a block. -/
inductive Line where
  /-- Nothing but blanks: the end of a block. -/
  | blank
  /-- Bytes that are not text. -/
  | unreadable
  /-- A comment that gives a value to a key. -/
  | entry (key value : String)
  /-- Any other comment, or a line for a range of tokens or an empty node. -/
  | nothing
  /-- A token. -/
  | token (token : Token)
  /-- A malformed line. -/
  | malformed (cause : String)
  deriving DecidableEq

/-- The value of the digits at the start of a text, a sign allowed before them.  A minus sign allows only
zero; a value beyond 64 bits is none; and so is a text that begins with neither digit nor sign. -/
def leadingNumber? (text : List Char) : Option Nat :=
  let (signed, negative, digits) := match text with
    | '-' :: rest => (true, true, rest.takeWhile Char.isDigit)
    | '+' :: rest => (true, false, rest.takeWhile Char.isDigit)
    | text => (false, false, text.takeWhile Char.isDigit)
  let value := Text.decimalValue digits
  if digits = [] ∧ !signed then none
  else if negative ∧ value ≠ 0 then none
  else if value < UInt64.size then some value else none

/-- Which kind of line an ID makes. -/
inductive IdKind where
  /-- A token. -/
  | word
  /-- A range of tokens, or a node that is not in the text. -/
  | other
  deriving DecidableEq, Repr

/-- The kind of an ID: digits with a value above zero for a token, and two numbers around a hyphen or a
point for a line that is passed over. -/
def idKind? (id : List Char) : Option IdKind :=
  match Text.cut? '-' id, Text.cut? '.' id with
  | some (left, right), _ =>
      if (leadingNumber? left).isSome ∧ (leadingNumber? right).isSome then some .other else none
  | none, some (left, right) =>
      if (leadingNumber? left).isSome ∧ (leadingNumber? right).isSome then some .other else none
  | none, none =>
      if id.all Char.isDigit ∧ (leadingNumber? id).any (0 < ·) then some .word else none

/-- A line with ten columns. -/
def columnsLine (id : List Char) (form base tag features : List Char) : Line :=
  match idKind? id with
  | some .word =>
      .token ⟨String.ofList form, String.ofList base, String.ofList tag,
        Features.ofText (String.ofList features)⟩
  | some .other => .nothing
  | none => .malformed s!"invalid ID: {String.ofList id}"

/-- A line that is neither blank nor a comment. -/
def columnLine (text : List Char) : Line :=
  match Text.fields '\t' text with
  | [id, form, base, tag, _, features, _, _, _, _] => columnsLine id form base tag features
  | columns => .malformed s!"expected 10 fields, found {min columns.length 11}"

/-- A comment after its number sign. -/
def commentLine (text : List Char) : Line :=
  match Text.cut? '=' text with
  | some (key, value) =>
      .entry (String.ofList (Text.trim key)) (String.ofList (Text.trim value))
  | none => .nothing

/-- The role of a line of text. -/
def lineOfText (text : List Char) : Line :=
  if Text.allBlank text then .blank
  else
    match text with
    | '#' :: comment => commentLine comment
    | text => columnLine text

/-- The role of a line of bytes. -/
def lineOfBytes (bytes : List UInt8) : Line :=
  match Text.decode? bytes with
  | some text => lineOfText (Text.withoutLineEnd text.toList)
  | none => .unreadable

/-! ## Blocks -/

/-- The lines of a block so far. -/
structure Block where
  /-- The text of the last comment on the number of the sentence. -/
  sentId : Option String := none
  /-- The plain text. -/
  text : Option String := none
  /-- The text in another language. -/
  gloss : Option String := none
  /-- The tokens before the first malformed line. -/
  tokens : List Token := []
  /-- The first malformed line and what is wrong with it. -/
  fault : Option (Nat × String) := none
  deriving DecidableEq, Inhabited

namespace Block

/-- A comment that gives a value to a key; a later one with the same meaning replaces it. -/
def addEntry (block : Block) (key value : String) : Block :=
  match key with
  | "sent_id" => { block with sentId := some value }
  | "text" => { block with text := some value }
  | "translation" => { block with gloss := some value }
  | "text_en" => { block with gloss := some value }
  | _ => block

/-- One more line.  Behind a malformed line only comments count. -/
def add (block : Block) (number : Nat) : Line → Block
  | .entry key value => block.addEntry key value
  | .token token =>
      if block.fault.isSome then block else { block with tokens := block.tokens ++ [token] }
  | .malformed cause =>
      if block.fault.isSome then block else { block with fault := some (number, cause) }
  | _ => block

/-- The number of the block's sentence: that of its comment if it is one, else its place. -/
def id (block : Block) (ordinal : SentenceId) : SentenceId :=
  (block.sentId.bind fun text => Text.word? text.toList).getD ordinal

/-- The item of a whole block. -/
def item (block : Block) (ordinal : SentenceId) : Item :=
  match block.fault with
  | some (line, cause) => .malformed (block.id ordinal) line cause
  | none => .sentence ⟨block.id ordinal, block.tokens, block.text, block.gloss⟩

end Block

/-! ## Documents -/

/-- The items of lines, and the place of the block that would follow.  `number` is the number of the
first line and `block` the block that it continues, if any. -/
def itemsFrom (ordinal : SentenceId) (number : Nat) (block : Option Block) :
    List Line → List Item × SentenceId
  | [] =>
      match block with
      | none => ([], ordinal)
      | some block => ([block.item ordinal], ordinal + 1)
  | .blank :: lines =>
      match block with
      | none => itemsFrom ordinal (number + 1) none lines
      | some block =>
          let later := itemsFrom (ordinal + 1) (number + 1) none lines
          (block.item ordinal :: later.1, later.2)
  | .unreadable :: lines =>
      let later := itemsFrom ordinal (number + 1) none lines
      (.unreadable ordinal number :: later.1, later.2)
  | line :: lines =>
      itemsFrom ordinal (number + 1) (some ((block.getD {}).add number line)) lines

/-- The items of a document and the place of the block that would follow it, the first block having the
place `start`. -/
def read (start : SentenceId) (bytes : List UInt8) : List Item × SentenceId :=
  itemsFrom start 1 none ((Text.byteLines bytes).map lineOfBytes)

end Conllu
end Collocation
