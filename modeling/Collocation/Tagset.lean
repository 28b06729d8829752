import Collocation.Dictionary

/-!
# Parts of speech

Every language has the universal parts of speech.  A registry adds further ones for single languages.
-/

namespace Collocation

/-- The parts of speech of every language. -/
def universalTags : List String :=
  ["ADJ", "ADP", "ADV", "AUX", "CCONJ", "DET", "INTJ", "NOUN", "NUM", "PART", "PRON", "PROPN",
   "PUNCT", "SCONJ", "SYM", "VERB", "X"]

/-- The parts of speech that single languages have besides the universal ones. -/
abbrev Tagsets := Dictionary (List String)

/-- Whether a language has a part of speech. -/
def Tagsets.isKnown (tagsets : Tagsets) (language tag : String) : Bool :=
  universalTags.contains tag || ((tagsets.get? language).getD []).contains tag

end Collocation
