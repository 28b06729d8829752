import Collocation.Corpus.Path

/-!
# File name patterns

A file name pattern is a path whose parts may hold wildcards: a question mark for any character, a star
for any characters, and a class of characters between brackets.  A part of two stars stands for any
number of directories.  `Glob.expand` finds the paths that match, given a way to list directories.
-/

namespace Collocation

/-- What a class between brackets lists. -/
inductive GlobSpan where
  /-- A character. -/
  | char (char : Char)
  /-- The characters from one to another. -/
  | range (first last : Char)
  deriving DecidableEq, Repr

/-- One token of a part. -/
inductive GlobToken where
  /-- The character itself. -/
  | char (char : Char)
  /-- Any character. -/
  | anyChar
  /-- Any characters. -/
  | anyText
  /-- Any number of directories. -/
  | anyDirectories
  /-- A character that a class lists, or one that it does not list. -/
  | oneOf (negated : Bool) (spans : List GlobSpan)
  deriving DecidableEq, Repr

namespace Glob

/-- The spans of a class. -/
def spans : List Char → List GlobSpan
  | first :: '-' :: last :: rest => .range first last :: spans rest
  | char :: rest => .char char :: spans rest
  | [] => []

/-- A class after its opening bracket.  A closing bracket that comes first is listed. -/
def class? (text : List Char) : Option (GlobToken × List Char) :=
  let close := fun (negated : Bool) (text : List Char) =>
    match text with
    | first :: rest =>
        match rest.dropWhile (· != ']') with
        | _ :: after =>
            some (GlobToken.oneOf negated (spans (first :: rest.takeWhile (· != ']'))), after)
        | [] => none
    | [] => none
  match text with
  | '!' :: rest => close true rest
  | text => close false text

/-- The tokens of a pattern.  Two stars have to be a whole part, and more are never allowed; `fresh` says
whether a part begins.  Every round reads a character, so the length of the text is fuel enough. -/
def tokens? : Nat → Bool → List Char → Option (List GlobToken)
  | 0, _, _ => none
  | _, _, [] => some []
  | fuel + 1, fresh, '*' :: rest =>
      match rest with
      | '*' :: rest =>
          if !fresh then none
          else
            match rest with
            | [] => some [.anyDirectories]
            | '/' :: rest => (tokens? fuel true rest).map (.anyDirectories :: ·)
            | _ => none
      | rest => (tokens? fuel false rest).map (.anyText :: ·)
  | fuel + 1, _, '?' :: rest => (tokens? fuel false rest).map (.anyChar :: ·)
  | fuel + 1, _, '[' :: rest => do
      let (token, rest) ← class? rest
      (tokens? fuel false rest).map (token :: ·)
  | fuel + 1, _, char :: rest => (tokens? fuel (char == '/') rest).map (.char char :: ·)

/-- Whether a span lists a character. -/
def lists (char : Char) : GlobSpan → Bool
  | .char single => char == single
  | .range first last => first ≤ char && char ≤ last

/-- Whether a token stands for a character. -/
def accepts (char : Char) : GlobToken → Bool
  | .char single => char == single
  | .anyChar => true
  | .oneOf negated spans => spans.any (lists char) != negated
  | _ => false

/-- Whether tokens match a whole name. -/
def matchesName : List GlobToken → List Char → Bool
  | [], name => name.isEmpty
  | .anyText :: tokens, [] => matchesName tokens []
  | .anyText :: tokens, char :: name =>
      matchesName tokens (char :: name) || matchesName (.anyText :: tokens) name
  | .anyDirectories :: tokens, [] => matchesName tokens []
  | .anyDirectories :: tokens, char :: name =>
      matchesName tokens (char :: name) || matchesName (.anyDirectories :: tokens) name
  | token :: tokens, char :: name => accepts char token && matchesName tokens name
  | _ :: _, [] => false
termination_by tokens name => tokens.length + name.length

/-- The name that tokens spell if there is no wildcard among them. -/
def plainName? (tokens : List GlobToken) : Option (List Char) :=
  tokens.mapM fun
    | .char char => some char
    | _ => none

end Glob

/-- A file name pattern. -/
structure Glob where
  /-- Whether it starts at the root of the file system. -/
  absolute : Bool
  /-- Its parts. -/
  parts : List (List GlobToken)
  /-- Whether only directories match. -/
  directoryOnly : Bool

/-- An entry of a directory. -/
structure DirectoryEntry where
  /-- Its name. -/
  name : String
  /-- Whether it is a directory itself. -/
  isDirectory : Bool
  deriving DecidableEq, Repr

namespace Glob

/-- The pattern of a text.  A pattern without parts has a single empty one. -/
def ofText? (source : String) : Option Glob := do
  let text := source.toList
  let _ ← tokens? (text.length + 1) true text
  let relative := text.dropWhile (· == '/')
  let pieces := if relative = [] then [[]] else Path.pieces relative
  let parts ← pieces.mapM fun part => tokens? (part.length + 1) true part
  some ⟨Path.isAbsolute source, parts, text.getLast? == some '/'⟩

/-- Whether a part stands for any number of directories. -/
def isRecursive (part : List GlobToken) : Bool :=
  part.contains .anyDirectories

variable {m : Type → Type} [Monad m]

/-- The path of a directory that is its own or that of the one above it. -/
def aside (path name : String) : String :=
  if path = "" ∧ name = "." then "" else Path.child path name

/-- The entries below a directory that match the parts of a pattern.  `entries` lists a directory, the
current one under the empty path, and gives nothing for a path that is none.  The fuel bounds the parts
that are read plus the directories that are entered for two stars. -/
def descend (entries : String → m (Option (List DirectoryEntry))) (directoryOnly : Bool) :
    Nat → List (List GlobToken) → String → m (List String)
  | 0, _, _ => pure []
  | _, [], _ => pure []
  | fuel + 1, part :: rest, path => do
      let some children ← entries path | pure []
      let finish := fun (entry : DirectoryEntry) (rest : List (List GlobToken)) => do
        let next := Path.child path entry.name
        if rest.isEmpty then
          pure (if entry.isDirectory || !directoryOnly then [next] else [])
        else descend entries directoryOnly fuel rest next
      let stay := fun (path : String) =>
        if rest.isEmpty then pure [path] else descend entries directoryOnly fuel rest path
      match plainName? part with
      | some [] => if path = "" then pure [] else stay path
      | some ['.'] => stay (aside path ".")
      | some ['.', '.'] => stay (aside path "..")
      | some name =>
          match children.find? fun entry => entry.name == String.ofList name with
          | some entry => finish entry rest
          | none => pure []
      | none =>
          if isRecursive part then
            let rest := rest.dropWhile isRecursive
            let found ← children.mapM fun entry => do
              let next := Path.child path entry.name
              let deeper ←
                if entry.isDirectory then descend entries directoryOnly fuel (part :: rest) next
                else pure []
              let here ← match rest with
                | [] => pure (if entry.isDirectory then [next] else [])
                | first :: others =>
                    if matchesName first entry.name.toList then finish entry others else pure []
              pure (deeper ++ here)
            pure found.flatten
          else
            let special := ["..", "."].filter fun name =>
              part.head? == some (.char '.') && matchesName part name.toList
            let around ← special.mapM fun name => stay (aside path name)
            let found ← children.mapM fun entry =>
              if matchesName part entry.name.toList then finish entry rest else pure []
            pure (around.flatten ++ found.flatten)

/-- The paths that match a pattern, in ascending order. -/
def expand (glob : Glob) (entries : String → m (Option (List DirectoryEntry))) (depth : Nat) :
    m (List String) := do
  let found ← descend entries glob.directoryOnly depth glob.parts (if glob.absolute then "/" else "")
  pure (found.mergeSort Path.le)

end Glob
end Collocation
