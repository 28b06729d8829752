import Collocation.Digest.Sha256
import Collocation.Sentence.Features
import Collocation.Text.Blank
import Collocation.Text.Hexadecimal

/-!
# Tagged sentences

A sentence is a sequence of tokens under a number.  Each token has its form, its lemma, a part of
speech and morphological features.  The content address of a sentence is the digest of its tokens
alone, so sentences with the same tokens share it.
-/

namespace Collocation

/-- The number of a sentence in a corpus. -/
abbrev SentenceId := UInt64

/-- One word of a sentence. -/
structure Token where
  /-- The word as it stands in the text. -/
  form : String
  /-- Its dictionary form. -/
  base : String
  /-- Its part of speech. -/
  tag : String
  /-- Its morphological features. -/
  features : Features := .empty
  deriving DecidableEq, Inhabited

/-- The address of a sequence of tokens: a digest of 32 bytes. -/
structure ContentHash where
  /-- The bytes of the digest. -/
  bytes : List UInt8
  deriving DecidableEq

namespace ContentHash

/-- The byte that stands before each field of a token but the first. -/
def fieldMark : UInt8 := 0x1f

/-- The byte that ends each token. -/
def tokenMark : UInt8 := 0x1e

/-- The bytes of a text. -/
def textBytes (text : String) : List UInt8 :=
  text.toUTF8.toList

/-- The bytes of a feature. -/
def featureBytes (feature : String × String) : List UInt8 :=
  fieldMark :: textBytes feature.1 ++ '='.toUInt8 :: textBytes feature.2

/-- The bytes of a token: its fields, and then its features in ascending order of their keys. -/
def tokenBytes (token : Token) : List UInt8 :=
  textBytes token.form ++ fieldMark :: textBytes token.base ++ fieldMark :: textBytes token.tag ++
    token.features.entries.flatMap featureBytes ++ [tokenMark]

/-- The bytes of a sequence of tokens. -/
def stream (tokens : List Token) : List UInt8 :=
  tokens.flatMap tokenBytes

/-- The address of a sequence of tokens. -/
def ofTokens (tokens : List Token) : ContentHash :=
  ⟨Sha256.digest (stream tokens)⟩

/-- The address in hexadecimal digits. -/
def hex (hash : ContentHash) : String :=
  Text.hexBytes hash.bytes

/-- The first digits of the address, for a reader. -/
def short (hash : ContentHash) : String :=
  s!"ContentHash({hash.hex.take 12})"

end ContentHash

/-- Why a sentence is left out of the counts. -/
inductive SkipReason where
  /-- The token at a position has no lemma. -/
  | missingBase (position : Nat)
  /-- The token at a position has no part of speech. -/
  | missingTag (position : Nat)
  /-- The sentence could not be read. -/
  | malformed (cause : String)
  deriving DecidableEq

/-- The text of a reason. -/
def SkipReason.message : SkipReason → String
  | missingBase position => s!"token {position} has no lemma"
  | missingTag position => s!"token {position} has no POS tag"
  | malformed cause => s!"malformed input: {cause}"

/-- A sentence that was left out. -/
structure Skipped where
  /-- The number of the sentence. -/
  id : SentenceId
  /-- Why it was left out. -/
  reason : SkipReason
  deriving DecidableEq

/-- A sentence of a corpus. -/
structure Sentence where
  /-- Its number. -/
  id : SentenceId
  /-- Its tokens in order. -/
  tokens : List Token
  /-- Its plain text, if the source has it. -/
  text : Option String := none
  /-- Its text in another language, if the source has one. -/
  gloss : Option String := none
  deriving DecidableEq

/-- Whether a lemma or a part of speech is missing: nothing but blanks, or an underscore. -/
def isMissing (field : String) : Bool :=
  let text := Text.trim field.toList
  text.isEmpty || text == ['_']

namespace Sentence

/-- The address of the sentence's tokens. -/
def hash (sentence : Sentence) : ContentHash :=
  .ofTokens sentence.tokens

/-- The first token from a position on that has no lemma or no part of speech. -/
def firstFlaw? (position : Nat) : List Token → Option SkipReason
  | [] => none
  | token :: tokens =>
      if isMissing token.base then some (.missingBase position)
      else if isMissing token.tag then some (.missingTag position)
      else firstFlaw? (position + 1) tokens

/-- The reason to leave the sentence out of the counts, if there is one. -/
def flaw? (sentence : Sentence) : Option SkipReason :=
  firstFlaw? 0 sentence.tokens

/-- Whether every token has a lemma and a part of speech. -/
def isValid (sentence : Sentence) : Bool :=
  sentence.flaw?.isNone

end Sentence
end Collocation
