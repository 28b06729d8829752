import Collocation.Sentence.Basic
import Std.Data.ExtTreeMap

/-!
# What is counted

A lexeme is a lemma with its part of speech.  A pairing is a pair of lexemes under a relation: a head
and its collocate.  Both are ordered field by field.
-/

namespace Collocation

/-- A lemma with its part of speech. -/
structure Lexeme where
  /-- The lemma. -/
  base : String
  /-- The part of speech. -/
  tag : String
  deriving DecidableEq, Repr

/-- The lexeme of a token. -/
def Token.lexeme (token : Token) : Lexeme :=
  ⟨token.base, token.tag⟩

/-- A head and a collocate under a relation. -/
structure Pairing where
  /-- The head. -/
  head : Lexeme
  /-- The collocate. -/
  collocate : Lexeme
  /-- The name of the relation. -/
  relation : String
  deriving DecidableEq, Repr

/-- The pairing with head and collocate in each other's place. -/
def Pairing.swap (pairing : Pairing) : Pairing :=
  ⟨pairing.collocate, pairing.head, pairing.relation⟩

@[simp]
theorem Pairing.swap_swap (pairing : Pairing) : pairing.swap.swap = pairing :=
  rfl

theorem Pairing.swap_eq_iff {first second : Pairing} : first.swap = second ↔ first = second.swap :=
  ⟨fun same => same ▸ rfl, fun same => same ▸ rfl⟩

/-! ## Order -/

namespace Lexeme

/-- The order by lemma, then by part of speech. -/
def order : Lexeme → Lexeme → Ordering :=
  compareLex (compareOn base) (compareOn tag)

instance : Ord Lexeme :=
  ⟨order⟩

instance : Std.TransOrd Lexeme :=
  inferInstanceAs (Std.TransCmp (compareLex (compareOn base) (compareOn tag)))

instance : Std.LawfulEqOrd Lexeme where
  eq_of_compare {left right} equal := by
    obtain ⟨bases, tags⟩ := compareLex_eq_eq.mp equal
    cases left
    cases right
    exact congr (congrArg mk (Std.LawfulEqCmp.compare_eq_iff_eq.mp bases))
      (Std.LawfulEqCmp.compare_eq_iff_eq.mp tags)

end Lexeme

namespace Pairing

/-- The order by head, then by collocate, then by relation. -/
def order : Pairing → Pairing → Ordering :=
  compareLex (compareOn head) (compareLex (compareOn collocate) (compareOn relation))

instance : Ord Pairing :=
  ⟨order⟩

instance : Std.TransOrd Pairing :=
  inferInstanceAs (Std.TransCmp
    (compareLex (compareOn head) (compareLex (compareOn collocate) (compareOn relation))))

instance : Std.LawfulEqOrd Pairing where
  eq_of_compare {left right} equal := by
    obtain ⟨heads, others⟩ := compareLex_eq_eq.mp equal
    obtain ⟨collocates, relations⟩ := compareLex_eq_eq.mp others
    cases left
    cases right
    simp only [mk.injEq]
    exact ⟨Std.LawfulEqCmp.compare_eq_iff_eq.mp heads,
      Std.LawfulEqCmp.compare_eq_iff_eq.mp collocates,
      Std.LawfulEqCmp.compare_eq_iff_eq.mp relations⟩

end Pairing
end Collocation
