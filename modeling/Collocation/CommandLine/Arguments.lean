import Collocation.Text.Fields
import Collocation.Text.Integer
import Collocation.Text.Quoted
import Collocation.Text.Real

/-!
# Arguments

The command line takes options with values.  An option has a long name behind two hyphens, and some have
a letter behind one; the value is the next argument, or stands behind an equals sign, or directly behind
the letter.  No option is given twice.
-/

namespace Collocation

/-- What can be given on the command line. -/
inductive CommandOption where
  /-- The file of the configuration. -/
  | config
  /-- The file of the grammars. -/
  | grammars
  /-- The pattern for the files of the corpus. -/
  | corpus
  /-- The file of the norms. -/
  | norms
  /-- The lemma to make a sketch of. -/
  | headword
  /-- The part of speech of the lemma. -/
  | pos
  /-- The only relation that matters. -/
  | relation
  /-- The least logDice. -/
  | minScore
  /-- How many records are wanted at most. -/
  | limit
  deriving DecidableEq, Repr

namespace CommandOption

/-- All options. -/
def all : List CommandOption :=
  [config, grammars, corpus, norms, headword, pos, relation, minScore, limit]

/-- The long name. -/
def name : CommandOption → String
  | config => "config"
  | grammars => "grammars"
  | corpus => "corpus"
  | norms => "norms"
  | headword => "headword"
  | pos => "pos"
  | relation => "relation"
  | minScore => "min-score"
  | limit => "limit"

/-- The letter. -/
def letter? : CommandOption → Option Char
  | grammars => some 'g'
  | corpus => some 'c'
  | _ => none

/-- What stands for the value in the help. -/
def placeholder (option : CommandOption) : String :=
  "<" ++ (option.name.toUpper.map fun char => if char = '-' then '_' else char) ++ ">"

/-- What the help says. -/
def description : CommandOption → String
  | config => "Engine configuration (JSON)"
  | grammars => "Sketch grammar set (JSON)"
  | corpus => "CoNLL-U corpus files, as a glob pattern"
  | norms => "Frequency norms: lemma, pos, fpm and optional diversity, tab separated"
  | headword => "Headword lemma to sketch"
  | pos => "Only records whose headword has this POS"
  | relation => "Only records of this relation"
  | minScore => "Minimum logDice score"
  | limit => "[default: 25]"

/-- Whether the option has to be given. -/
def isRequired (option : CommandOption) : Bool :=
  option == grammars || option == corpus || option == headword

/-- Whether a value is allowed: a file has a name, and numbers are numbers. -/
def allows (option : CommandOption) (value : List Char) : Bool :=
  match option with
  | config | grammars | norms => !value.isEmpty
  | minScore => (Text.real? value).isSome
  | limit => (Text.word? value).isSome
  | corpus | headword | pos | relation => true

/-- The option with a long name. -/
def ofName? (name : String) : Option CommandOption :=
  all.find? (·.name == name)

/-- The option with a letter. -/
def ofLetter? (letter : Char) : Option CommandOption :=
  all.find? (·.letter? == some letter)

end CommandOption

/-- Why no work is begun. -/
inductive Refusal where
  /-- Help was asked for. -/
  | help
  /-- An argument is not understood. -/
  | unexpected (argument : String)
  /-- An option has no value. -/
  | noValue (option : CommandOption)
  /-- An option has a value that is not allowed. -/
  | badValue (option : CommandOption) (value : String)
  /-- An option is given twice. -/
  | repeated (option : CommandOption)
  /-- Options are missing. -/
  | missing (options : List CommandOption)
  deriving DecidableEq, Repr

/-- Options with their values. -/
abbrev Settings :=
  List (CommandOption × String)

namespace Settings

/-- The value of an option. -/
def get? (settings : Settings) (option : CommandOption) : Option String :=
  (settings.find? (·.1 == option)).map Prod.snd

/-- Give an option a value. -/
def give (settings : Settings) (option : CommandOption) (value : List Char) :
    Except Refusal Settings :=
  if (settings.get? option).isSome then .error (.repeated option)
  else if option.allows value then .ok (settings ++ [(option, String.ofList value)])
  else .error (.badValue option (String.ofList value))

/-- Whether an argument is an option rather than a value. -/
def isOption : List Char → Bool
  | '-' :: _ :: _ => true
  | _ => false

/-- What an argument says. -/
inductive Reading where
  /-- An option with its value. -/
  | whole (option : CommandOption) (value : List Char)
  /-- An option that waits for its value. -/
  | waiting (option : CommandOption)
  /-- Nothing more is an option. -/
  | stop
  /-- Something to refuse. -/
  | refused (refusal : Refusal)

/-- What an argument says by itself. -/
def readArgument (argument : List Char) : Reading :=
  let unexpected := Reading.refused (.unexpected (String.ofList argument))
  match argument with
  | ['-', '-'] => .stop
  | '-' :: '-' :: text =>
      match Text.cut? '=' text with
      | some (name, value) =>
          match CommandOption.ofName? (String.ofList name) with
          | some option => .whole option value
          | none => unexpected
      | none =>
          if text = "help".toList then .refused .help
          else
            match CommandOption.ofName? (String.ofList text) with
            | some option => .waiting option
            | none => unexpected
  | '-' :: 'h' :: _ => .refused .help
  | '-' :: letter :: text =>
      match CommandOption.ofLetter? letter, text with
      | some option, [] => .waiting option
      | some option, '=' :: value => .whole option value
      | some option, value => .whole option value
      | none, _ => unexpected
  | _ => unexpected

/-- Add what arguments say to settings. -/
def read (settings : Settings) : List String → Except Refusal Settings
  | [] => .ok settings
  | argument :: arguments =>
      match readArgument argument.toList with
      | .refused refusal => .error refusal
      | .stop =>
          match arguments with
          | [] => .ok settings
          | next :: _ => .error (.unexpected next)
      | .whole option value => do read (← settings.give option value) arguments
      | .waiting option =>
          match arguments with
          | [] => .error (.noValue option)
          | value :: arguments =>
              if isOption value.toList then .error (.noValue option)
              else do read (← settings.give option value.toList) arguments

end Settings

/-- What the command line asks for. -/
structure Arguments where
  /-- The file of the configuration. -/
  config : Option String
  /-- The file of the grammars. -/
  grammars : String
  /-- The pattern for the files of the corpus. -/
  corpus : String
  /-- The file of the norms. -/
  norms : Option String
  /-- The lemma to make a sketch of. -/
  headword : String
  /-- The part of speech of the lemma. -/
  tag : Option String
  /-- The only relation that matters. -/
  relation : Option String
  /-- The least logDice. -/
  minScore : Option Float
  /-- How many records are wanted at most. -/
  limit : Nat

namespace Arguments

/-- The arguments that settings give. -/
def ofSettings (settings : Settings) : Except Refusal Arguments :=
  match settings.get? .grammars, settings.get? .corpus, settings.get? .headword with
  | some grammars, some corpus, some headword =>
      .ok {
        config := settings.get? .config
        grammars, corpus
        norms := settings.get? .norms
        headword
        tag := settings.get? .pos
        relation := settings.get? .relation
        minScore := (settings.get? .minScore).bind fun text => Text.real? text.toList
        limit := ((settings.get? .limit).bind fun text => Text.word? text.toList).elim 25 UInt64.toNat }
  | _, _, _ =>
      .error (.missing (CommandOption.all.filter fun option =>
        option.isRequired && (settings.get? option).isNone))

/-- The arguments of a command line. -/
def ofList (arguments : List String) : Except Refusal Arguments := do
  ofSettings (← Settings.read [] arguments)

end Arguments

namespace Refusal

/-- An option as it is written. -/
def written (option : CommandOption) : String :=
  "--" ++ option.name

/-- The wording of a refusal. -/
def message : Refusal → String
  | help => "help"
  | unexpected argument => "unexpected argument " ++ Text.quoted argument
  | noValue option => "no value for " ++ written option
  | badValue option value => "invalid value " ++ Text.quoted value ++ " for " ++ written option
  | repeated option => written option ++ " is given more than once"
  | missing options => "missing " ++ ", ".intercalate (options.map written)

/-- A line of the help: the names of an option, then what it is for. -/
def helpLine (letter : Option Char) (name description : String) : String :=
  let start := match letter with
    | some letter => "  -" ++ letter.toString ++ ", --" ++ name
    | none => "      --" ++ name
  start ++ String.ofList (List.replicate (31 - start.length) ' ') ++ description

/-- The help for a program with a name. -/
def helpLines (program : String) : List String :=
  let required := " ".intercalate
    ((CommandOption.all.filter (·.isRequired)).map fun option =>
      written option ++ " " ++ option.placeholder)
  ["Extract and rank collocations from a tagged corpus", "",
    s!"Usage: {program} [OPTIONS] {required}", "", "Options:"] ++
  CommandOption.all.map (fun option =>
    helpLine option.letter? s!"{option.name} {option.placeholder}" option.description) ++
  [helpLine (some 'h') "help" "Print help"]

end Refusal
end Collocation
