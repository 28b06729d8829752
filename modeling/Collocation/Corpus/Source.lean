import Collocation.Archive.Gzip
import Collocation.Corpus.Conllu
import Collocation.Corpus.Selection
import Collocation.Text.Elapsed

/-!
# Sources of sentences

A source hands out the sentences of a selection, and reports the selected ones that it could not read.
A corpus is a source made of CoNLL-U files; blocks without a number of their own are numbered through
all files.
-/

namespace Collocation

/-- Why a source gives no sentences. -/
inductive SourceError where
  /-- It took longer than the given milliseconds. -/
  | timeout (milliseconds : Nat)
  /-- A file could not be read. -/
  | unreadable (path : String)
  /-- There is nothing to read from. -/
  | unavailable (cause : String)
  deriving DecidableEq, Repr

/-- The wording of an error. -/
def SourceError.message : SourceError → String
  | timeout milliseconds => s!"sentence fetch timed out after {Text.elapsed milliseconds}"
  | unreadable path => s!"failed to read {path}"
  | unavailable cause => s!"sentence source unavailable: {cause}"

/-- The sentences of a selection. -/
structure Fetched where
  /-- The sentences that could be read, in the order of the corpus. -/
  sentences : List Sentence := []
  /-- The others, in the order of the corpus. -/
  rejected : List Skipped := []
  deriving DecidableEq

/-- A file of a corpus. -/
structure CorpusFile where
  /-- Its path. -/
  path : String
  /-- Its bytes, absent if it cannot be read. -/
  content : Option (List UInt8)

namespace CorpusFile

/-- The last part of a path. -/
def lastPart (path : String) : List Char :=
  (path.toList.reverse.takeWhile (· != '/')).reverse

/-- Whether a path names a compressed file: its last part ends in `.gz` and has something before. -/
def isCompressed (path : String) : Bool :=
  let name := lastPart path
  3 < name.length && name.drop (name.length - 3) == ".gz".toList

/-- The bytes of the document in a file. -/
def document? (file : CorpusFile) : Option (List UInt8) :=
  if isCompressed file.path then file.content.bind Gzip.expand? else file.content

end CorpusFile

namespace Fetched

/-- Both parts one after the other. -/
def append (left right : Fetched) : Fetched :=
  ⟨left.sentences ++ right.sentences, left.rejected ++ right.rejected⟩

instance : Append Fetched :=
  ⟨append⟩

/-- What a selection takes from an item; a line that is not text is no sentence. -/
def ofItem (selection : Selection) (item : Conllu.Item) : Fetched :=
  if selection.contains item.id then
    match item with
    | .sentence sentence => ⟨[sentence], []⟩
    | .malformed id line cause => ⟨[], [⟨id, .malformed (Conllu.lineMessage line cause)⟩]⟩
    | .unreadable _ _ => {}
  else {}

/-- What a selection takes from items. -/
def ofItems (selection : Selection) : List Conllu.Item → Fetched
  | [] => {}
  | item :: items => ofItem selection item ++ ofItems selection items

/-- The sentences of a selection in memory. -/
def ofSentences (selection : Selection) (sentences : List Sentence) : Fetched :=
  ⟨sentences.filter fun sentence => selection.contains sentence.id, []⟩

end Fetched

/-- Files in the order in which they are read. -/
structure Corpus where
  /-- The files. -/
  files : List CorpusFile

namespace Corpus

/-- Whether an item is a line that is not text. -/
def isUnreadable : Conllu.Item → Bool
  | .unreadable _ _ => true
  | _ => false

/-- The items of all files, the first block having the place `ordinal`; a file that cannot be read, or
that holds a line that is not text, is an error. -/
def itemsFrom (ordinal : SentenceId) : List CorpusFile → Except SourceError (List Conllu.Item)
  | [] => .ok []
  | file :: files =>
      match file.document? with
      | none => .error (.unreadable file.path)
      | some bytes =>
          let (items, next) := Conllu.read ordinal bytes
          if items.any isUnreadable then .error (.unreadable file.path)
          else (itemsFrom next files).map (items ++ ·)

/-- The sentences of a selection. -/
def fetch (corpus : Corpus) (selection : Selection) : Except SourceError Fetched :=
  if corpus.files.isEmpty then .error (.unavailable "corpus has no files")
  else (itemsFrom 1 corpus.files).map (Fetched.ofItems selection)

end Corpus

/-- What hands out sentences. -/
inductive Source where
  /-- Sentences in memory. -/
  | memory (sentences : List Sentence)
  /-- Files. -/
  | corpus (corpus : Corpus)
  /-- A source that always takes too long. -/
  | slow
  /-- A source that has nothing to read from. -/
  | failing (cause : String)

/-- The sentences of a selection, asked for with a number of milliseconds to wait. -/
def Source.fetch (source : Source) (selection : Selection) (timeout : Nat) :
    Except SourceError Fetched :=
  match source with
  | memory sentences => .ok (.ofSentences selection sentences)
  | corpus files => files.fetch selection
  | slow => .error (.timeout timeout)
  | failing cause => .error (.unavailable cause)

end Collocation
