import Collocation.Proofs.Count.Invariants
import Collocation.Proofs.Count.Sightings
import Collocation.Score.Record

/-!
# Relations in both directions

A match of a relation that is used in both directions is seen twice, with head and collocate in each other's place.  So
whatever is known of a pairing under such a relation is known of the swapped pairing; and if all relations are such, a
lexeme is a head as often as it is a collocate.
-/

namespace Collocation

namespace Tally

variable {name : String} {tally : Tally}

theorem getElem?_pairings_seePairing (tally : Tally) (id : SentenceId) (pairing other : Pairing) :
    (tally.seePairing id pairing).pairings[other]? =
      if pairing = other then some (Attestation.see tally.sampleLimit tally.pairings[other]? id)
      else tally.pairings[other]? := by
  rw [seePairing]
  split
  · next same =>
      subst same
      rw [Table.getElem?_join_self]
  · next different =>
      have apart : (pairing, id).1 ≠ other := different
      rw [Table.getElem?_join_of_ne _ _ apart]

/-! ## Pairings and swapped pairings -/

/-- Under a name, as much is known of every pairing as of the swapped one. -/
def Symmetric (name : String) (tally : Tally) : Prop :=
  ∀ pairing : Pairing, pairing.relation = name → tally.pairings[pairing]? = tally.pairings[pairing.swap]?

/-- A pairing that is seen in both ways makes no difference between them. -/
theorem Symmetric.seeBoth (symmetric : tally.Symmetric name) (id : SentenceId) (pairing : Pairing) :
    ((tally.seePairing id pairing.swap).seePairing id pairing).Symmetric name := by
  intro other named
  have before := symmetric other named
  have own : (tally.seePairing id pairing.swap).sampleLimit = tally.sampleLimit := rfl
  simp only [getElem?_pairings_seePairing, own, Pairing.swap_eq_iff, Pairing.swap_swap, before]
  by_cases straight : pairing = other
  · subst straight
    by_cases twin : pairing = pairing.swap
    · simp only [← twin]
    · simp only [twin, if_true, if_false]
  · by_cases crossed : pairing = other.swap
    · subst crossed
      simp only [straight, if_true, if_false]
    · simp only [straight, crossed, if_false]

theorem Symmetric.seeOther (symmetric : tally.Symmetric name) (id : SentenceId) {pairing : Pairing}
    (apart : pairing.relation ≠ name) : (tally.seePairing id pairing).Symmetric name := by
  intro other named
  have first : pairing ≠ other := fun same => apart (same ▸ named)
  have second : pairing ≠ other.swap := fun same => apart (same ▸ named)
  rw [getElem?_pairings_seePairing, getElem?_pairings_seePairing, if_neg first, if_neg second]
  exact symmetric other named

theorem Symmetric.append {later : Tally} (symmetric : tally.Symmetric name) (laterSymmetric : later.Symmetric name) :
    (tally ++ later).Symmetric name := by
  intro pairing named
  rw [append_eq, Tally.append, Table.getElem?_combine, Table.getElem?_combine, symmetric pairing named,
    laterSymmetric pairing named]

end Tally

namespace RelationSet

variable {relations : RelationSet} {limit : Nat} {name : String}

/-- A match is seen in both ways if its relation is used so, and otherwise as it is, or not at all. -/
theorem pairings_cases (relations : RelationSet) (tokens : List Token) (found : RelationMatch) :
    relations.pairings tokens found = [] ∨ ∃ pairing : Pairing, pairing.relation = found.relation ∧
      relations.pairings tokens found =
        if relations.isBidirectional found.relation then [pairing.swap, pairing] else [pairing] := by
  rw [pairings]
  cases made : found.pairing? tokens with
  | none => exact .inl rfl
  | some pairing =>
      refine .inr ⟨pairing, ?_, rfl⟩
      simp only [RelationMatch.pairing?, Option.bind_eq_bind, Option.bind_eq_some_iff, Option.some.injEq] at made
      obtain ⟨head, -, collocate, -, rfl⟩ := made
      rfl

theorem countAnalysed_of_matches (property : Tally → Prop) {tally : Tally} {sentence : Sentence} {analysis : Analysis}
    (before : property (tally.seeTokens sentence.tokens))
    (kept : ∀ found ∈ analysis, ∀ tally, property tally →
      property ((relations.pairings sentence.tokens found).foldl (·.seePairing sentence.id) tally)) :
    property (relations.countAnalysed tally sentence analysis) := by
  rw [countAnalysed, List.foldl_flatMap]
  exact List.foldlRecOn (motive := property) analysis _ before fun tally holds found member => kept found member tally holds

/-- A name that is used in both directions is symmetric in every tally, whatever analyses are used. -/
theorem keeps_symmetric (relations : RelationSet) (limit : Nat) (both : relations.isBidirectional name = true) :
    relations.Keeps limit (fun _ => True) (Tally.Symmetric name) where
  empty := fun pairing _ => by simp [Tally.empty]
  counted := fun {tally} symmetric sentence {analysis} _ => by
    refine countAnalysed_of_matches (Tally.Symmetric name) symmetric fun found _ tally symmetric => ?_
    rcases relations.pairings_cases sentence.tokens found with none | ⟨pairing, named, seen⟩
    · rw [none]
      exact symmetric
    · rw [seen]
      split
      · exact symmetric.seeBoth sentence.id pairing
      · next single =>
          have apart : pairing.relation ≠ name := fun same => single (named ▸ same ▸ both)
          exact symmetric.seeOther sentence.id apart
  noted := fun symmetric _ => symmetric
  joined := Tally.Symmetric.append
  made := fun _ => trivial

/-! ## Heads and collocates -/

/-- If all matches of an analysis are seen in both ways, a lexeme is a head as often as it is a collocate. -/
theorem keeps_heads_eq_collocates (relations : RelationSet) (limit : Nat)
    (both : ∀ relation ∈ relations.active, relation.bidirectional = true) :
    relations.Keeps limit (fun analysis => ∀ found ∈ analysis, relations.isBidirectional found.relation = true)
      fun tally => tally.heads = tally.collocates where
  empty := rfl
  counted := fun {tally} same sentence {analysis} use => by
    refine countAnalysed_of_matches (fun tally => tally.heads = tally.collocates) same
      fun found member tally same => ?_
    rcases relations.pairings_cases sentence.tokens found with none | ⟨pairing, -, seen⟩
    · rw [none]
      exact same
    · rw [seen, if_pos (use found member)]
      simp only [List.foldl_cons, List.foldl_nil, Tally.seePairing, Pairing.swap, same]
      exact Counts.see_comm _ _ _
  noted := fun same _ => same
  joined := fun same laterSame => by
    rw [Tally.append_eq, Tally.append, same, laterSame]
  made := fun tokens found member => by
    obtain ⟨relation, active, member⟩ := List.mem_flatMap.mp member
    obtain ⟨_, -, rfl⟩ := List.mem_map.mp member
    exact isBidirectional_iff.mpr ⟨relation, active, both relation active, rfl⟩

/-! ## All tallies -/

theorem logDice_association_swap {tally : Tally} (same : tally.heads = tally.collocates) (pairing : Pairing)
    (frequency : UInt64) :
    (tally.association pairing.swap frequency).logDice = (tally.association pairing frequency).logDice := by
  simp only [Tally.association, Association.of, Association.logDiceOf, Pairing.swap, same]
  rw [UInt64.add_comm]

/-- Whatever tallies the relations of an accepted set have given, joined and summed, with samples of one length: under the
name of an active bidirectional grammar, whatever the caches kept, as much is known of a pairing as of the swapped one, its
frequency and its examples in order.  If all active grammars are bidirectional and the caches kept nothing but analyses of
these relations, a lexeme is a head as often as it is a collocate, so logDice is the same for a pairing and the swapped
one. -/
theorem symmetric_of_bidirectional {set : GrammarSet} {tagsets : Tagsets} {relations : RelationSet}
    (accepted : set.relations tagsets = .ok relations) (limit : Nat) :
    (∀ grammar ∈ set.grammars, grammar.active = true → grammar.bidirectional = true →
      ∀ tally : Tally, tally.ObtainedWith relations limit (fun _ => True) → ∀ first second : Lexeme,
        tally.pairings[(⟨first, second, grammar.name⟩ : Pairing)]? =
          tally.pairings[(⟨second, first, grammar.name⟩ : Pairing)]?) ∧
    ((∀ grammar ∈ set.grammars, grammar.active = true → grammar.bidirectional = true) →
      ∀ tally : Tally, tally.ObtainedWith relations limit (relations.Coherent fun _ => True) →
        (∀ lexeme : Lexeme, tally.heads[lexeme]? = tally.collocates[lexeme]?) ∧
        ∀ (first second : Lexeme) (name : String) (frequency : UInt64),
          (tally.association ⟨first, second, name⟩ frequency).logDice =
            (tally.association ⟨second, first, name⟩ frequency).logDice) := by
  constructor
  · intro grammar member active both tally obtained first second
    have used := (isBidirectional_iff_grammar accepted).mpr ⟨grammar, member, active, both, rfl⟩
    have symmetric := (keeps_symmetric relations limit used).obtained (fun _ _ _ _ => trivial) obtained
    exact symmetric ⟨first, second, grammar.name⟩ rfl
  · intro all tally obtained
    have both : ∀ relation ∈ relations.active, relation.bidirectional = true := by
      intro relation active
      obtain ⟨grammar, member, looked, made⟩ := (GrammarSet.mem_active_iff accepted).mp active
      obtain ⟨pattern, -, rfl⟩ := Grammar.relation_eq_ok_iff.mp made
      exact all grammar member looked
    have keeps := keeps_heads_eq_collocates relations limit both
    have same : tally.heads = tally.collocates := by
      refine keeps.obtained (fun cache coherent entry member => ?_) obtained
      obtain ⟨tokens, -, -, analysis⟩ := coherent entry member
      rw [analysis]
      exact keeps.made tokens
    exact ⟨fun lexeme => by rw [same], fun first second name frequency =>
      (logDice_association_swap same ⟨first, second, name⟩ frequency).symm⟩

/-- An adjective in front of a noun, in both directions, in sentences that are counted twice and joined. -/
theorem symmetric_of_bidirectional_phrases :
    let exchanged : Grammar :=
      { name := "next", source := "2:[pos=\"ADJ\"] 1:[pos=\"NOUN\"]", language := "en", bidirectional := true }
    let house := Phrase.house.lexeme
    let old := Phrase.old.lexeme
    ∃ relations, GrammarSet.relations ⟨"v1", [exchanged]⟩ .empty = .ok relations ∧
      let counted := (relations.count 1 (Cache.empty 1) Phrase.sentences).1
      let tally := counted ++ counted
      tally.pairings[(⟨house, old, "next"⟩ : Pairing)]? = some ⟨4, [1]⟩ ∧
        tally.pairings[(⟨house, old, "next"⟩ : Pairing)]? = tally.pairings[(⟨old, house, "next"⟩ : Pairing)]? ∧
        tally.heads[old]? = some 4 ∧ tally.heads[old]? = tally.collocates[old]? := by
  intro exchanged house old
  obtain ⟨relations, accepted, seen⟩ : ∃ relations,
      GrammarSet.relations ⟨"v1", [exchanged]⟩ .empty = .ok relations ∧
        (let counted := (relations.count 1 (Cache.empty 1) Phrase.sentences).1
        ((counted ++ counted).pairings[(⟨house, old, "next"⟩ : Pairing)]?, (counted ++ counted).heads[old]?)) =
          (some ⟨4, [1]⟩, some 4) :=
    exists_ok_of_toOption (by decide +kernel)
  refine ⟨relations, accepted, ?_⟩
  intro counted tally
  obtain ⟨known, asHead⟩ := Prod.mk.inj seen
  have obtained {admitted : AnalysisCache → Prop} (within : admitted (Cache.empty 1)) :
      tally.ObtainedWith relations 1 admitted := by
    have once : counted.ObtainedWith relations 1 admitted :=
      .counted within (congrArg Prod.fst (countUnless_never (relations.count 1) _ Phrase.sentences))
    exact once.joined once
  obtain ⟨pairings, marginals⟩ := symmetric_of_bidirectional accepted 1
  have symmetric := pairings exchanged List.mem_cons_self rfl rfl tally (obtained trivial) house old
  have all : ∀ grammar ∈ [exchanged], grammar.active = true → grammar.bidirectional = true := by simp [exchanged]
  obtain ⟨same, -⟩ := marginals all tally (obtained (Cache.every_empty 1))
  exact ⟨known, symmetric, asHead, same old⟩

end RelationSet
end Collocation
