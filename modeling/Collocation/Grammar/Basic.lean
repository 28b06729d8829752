import Collocation.Json.Reader
import Collocation.Json.Writer

/-!
# Grammars

A grammar gives a name to the text of a pattern, and may narrow the pattern with parts of speech and
agreement rules that stand outside its text.  A grammar set is a list of grammars under a version.
-/

namespace Collocation

/-- The definition of a grammatical relation. -/
structure Grammar where
  /-- The name of the relation. -/
  name : String
  /-- The text of its pattern. -/
  source : String
  /-- The language of its parts of speech. -/
  language : String
  /-- Parts of speech allowed at slots, by their labels. -/
  allowed : Dictionary (List String) := .empty
  /-- Further agreement rules, as pairs of references such as `1.Case`. -/
  agreements : List (String × String) := []
  /-- Whether head and collocate may change roles. -/
  bidirectional : Bool := false
  /-- The place of the relation in its set: smaller numbers come first. -/
  priority : Int := 0
  /-- Whether the relation is looked for. -/
  active : Bool := true
  deriving DecidableEq

/-- Grammars under a version. -/
structure GrammarSet where
  /-- The version. -/
  version : String
  /-- The grammars. -/
  grammars : List Grammar
  deriving DecidableEq

namespace Grammar

/-- The grammar that a JSON value describes. -/
def ofJson? (json : Json) : Option Grammar := do
  let fields ← json.fields? ["pattern_name", "pattern_source", "language", "pos_constraints",
    "agreement_constraints", "bidirectional", "priority", "active"]
  match fields with
  | [name, source, language, allowed, agreements, bidirectional, priority, active] =>
      some {
        name := ← Json.required? Json.text? name
        source := ← Json.required? Json.text? source
        language := ← Json.required? Json.text? language
        allowed := ← Json.optional? .empty (Json.dictionary? (Json.list? Json.text?)) allowed
        agreements := ←
          Json.optional? [] (Json.list? (Json.pair? Json.text? Json.text?)) agreements
        bidirectional := ← Json.optional? false Json.bool? bidirectional
        priority := ← Json.optional? 0 Json.signed32? priority
        active := ← Json.optional? true Json.bool? active }
  | _ => none

/-- The JSON value that describes a grammar. -/
def toJson (grammar : Grammar) : Json :=
  .ofFields [("pattern_name", .ofText grammar.name), ("pattern_source", .ofText grammar.source),
    ("language", .ofText grammar.language),
    ("pos_constraints", .ofFields (grammar.allowed.entries.map fun entry =>
      (entry.1, .ofList .ofText entry.2))),
    ("agreement_constraints", .ofList (fun sides => .array [.ofText sides.1, .ofText sides.2])
      grammar.agreements),
    ("bidirectional", .bool grammar.bidirectional), ("priority", .ofInt grammar.priority),
    ("active", .bool grammar.active)]

end Grammar

namespace GrammarSet

/-- The grammar set that a JSON value describes. -/
def ofJson? (json : Json) : Option GrammarSet := do
  let fields ← json.fields? ["version", "grammars"]
  match fields with
  | [version, grammars] =>
      some {
        version := ← Json.required? Json.text? version
        grammars := ← Json.required? (Json.list? Grammar.ofJson?) grammars }
  | _ => none

/-- The JSON value that describes a grammar set. -/
def toJson (set : GrammarSet) : Json :=
  .ofFields [("version", .ofText set.version), ("grammars", .ofList Grammar.toJson set.grammars)]

/-- The grammar set that a document describes. -/
def ofText? (text : String) : Option GrammarSet := do
  ofJson? (← Json.ofText? text)

end GrammarSet
end Collocation
