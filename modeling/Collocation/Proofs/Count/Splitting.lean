import Collocation.Proofs.Count.Sightings
import Collocation.Proofs.Tally.Marginals
import Mathlib.Data.List.Perm.Basic

/-!
# Parts of a grammar set

When the grammars of a set are split into two sets, the matches of the whole are those of the parts.  But a name is used
in both directions as soon as one active grammar of this name is, so matches of a part may be seen both ways in the whole
and only one way in the part itself.  What the whole counts is the sum of what the parts count, and of the swapped pairings
of such names; it is the plain sum where the parts use a name alike.
-/

namespace Collocation

/-- The sighting with head and collocate in each other's place. -/
def Sighting.swap (sighting : Sighting) : Sighting :=
  ⟨sighting.id, sighting.pairing.swap⟩

namespace Tally

/-- How often each pairing was seen. -/
def frequencies (tally : Tally) : Counts Pairing :=
  tally.pairings.map fun _ attestation => attestation.frequency

theorem Reflects.getElem?_frequencies {limit : Nat} {sightings : List Sighting} {sentences : List Sentence}
    {tally : Tally} (reflects : tally.Reflects limit sightings sentences) (pairing : Pairing) :
    tally.frequencies[pairing]? = countOf (sightings.countP fun sighting => sighting.pairing = pairing) := by
  rw [frequencies, Std.ExtTreeMap.getElem?_map, reflects.pairings, attestationOf, countOf, ← length_sentencesOf]
  by_cases nothing : sentencesOf pairing sightings = []
  · rw [if_pos nothing, nothing]
    rfl
  · rw [if_neg nothing, if_neg (mt List.length_eq_zero_iff.mp nothing)]
    rfl

theorem Reflects.count_frequencies {limit : Nat} {sightings : List Sighting} {sentences : List Sentence}
    {tally : Tally} (reflects : tally.Reflects limit sightings sentences) (pairing : Pairing) :
    tally.frequencies.count pairing = UInt64.ofNat (sightings.countP fun sighting => sighting.pairing = pairing) := by
  rw [Counts.count, reflects.getElem?_frequencies, getD_countOf]

end Tally

namespace RelationSet

/-! ## Matches one way -/

/-- The sightings of the matches of some relations, each in its own direction. -/
def straightSightings (active : List Relation) (sentences : List Sentence) : List Sighting :=
  (sentences.filter Sentence.isValid).flatMap fun sentence =>
    active.flatMap fun relation =>
      (relation.pattern.matchesIn sentence.tokens).map fun found =>
        ⟨sentence.id, lexemeAt sentence.tokens found.head, lexemeAt sentence.tokens found.collocate, relation.name⟩

/-- A sighting, and before it the swapped one if its name is used in both directions. -/
def inDirections (both : String → Bool) (sighting : Sighting) : List Sighting :=
  if both sighting.pairing.relation then [sighting.swap, sighting] else [sighting]

theorem sightings_eq_flatMap (relations : RelationSet) (sentences : List Sentence) :
    relations.sightings sentences =
      (straightSightings relations.active sentences).flatMap (inDirections relations.isBidirectional) := by
  have one (sentence : Sentence) (name : String) : relations.sightingsOfMatch sentence name = fun found =>
      inDirections relations.isBidirectional
        ⟨sentence.id, lexemeAt sentence.tokens found.head, lexemeAt sentence.tokens found.collocate, name⟩ := by
    funext found
    simp only [sightingsOfMatch, inDirections, ← isBidirectional_iff]
    rfl
  simp only [sightings, straightSightings, List.flatMap_assoc, List.flatMap_map, one]

theorem perm_straightSightings {active first second : List Relation} (split : active.Perm (first ++ second))
    (sentences : List Sentence) :
    (straightSightings active sentences).Perm
      (straightSightings first sentences ++ straightSightings second sentences) := by
  refine List.Perm.trans ?_ (List.flatMap_append_perm _ _ _).symm
  refine List.Perm.flatMap_left _ fun sentence _ => ?_
  rw [← List.flatMap_append]
  exact split.flatMap_right _

/-! ## Counting both ways -/

variable {both : String → Bool} {active : List Relation} {sentences : List Sentence}

theorem flatMap_inDirections_congr {other : String → Bool} {sightings : List Sighting}
    (alike : ∀ sighting ∈ sightings, both sighting.pairing.relation = other sighting.pairing.relation) :
    sightings.flatMap (inDirections both) = sightings.flatMap (inDirections other) := by
  rw [List.flatMap_def, List.flatMap_def]
  refine congrArg List.flatten (List.map_congr_left fun sighting member => ?_)
  rw [inDirections, inDirections, alike sighting member]

theorem countP_inDirections (both : String → Bool) (sighting : Sighting) (pairing : Pairing) :
    ((inDirections both sighting).countP fun seen => seen.pairing = pairing) =
      (if sighting.pairing = pairing then 1 else 0) +
        if both pairing.relation then if sighting.pairing = pairing.swap then 1 else 0 else 0 := by
  rw [inDirections]
  by_cases named : sighting.pairing.relation = pairing.relation
  · rw [named]
    split
    · simp only [List.countP_cons, List.countP_nil, Sighting.swap, Pairing.swap_eq_iff, decide_eq_true_eq]
      omega
    · simp only [List.countP_singleton, decide_eq_true_eq, Nat.add_zero]
  · have straight : sighting.pairing ≠ pairing := fun same => named (same ▸ rfl)
    have crossed : sighting.pairing ≠ pairing.swap := fun same => named (same ▸ rfl)
    split <;> simp [Sighting.swap, Pairing.swap_eq_iff, straight, crossed]

theorem countP_flatMap_inDirections (both : String → Bool) (sightings : List Sighting) (pairing : Pairing) :
    ((sightings.flatMap (inDirections both)).countP fun sighting => sighting.pairing = pairing) =
      (sightings.countP fun sighting => sighting.pairing = pairing) +
        if both pairing.relation then sightings.countP fun sighting => sighting.pairing = pairing.swap else 0 := by
  induction sightings with
  | nil => simp
  | cons sighting sightings induction =>
      rw [List.flatMap_cons, List.countP_append, induction, countP_inDirections, List.countP_cons, List.countP_cons]
      cases both pairing.relation <;> simp only [decide_eq_true_eq, Bool.false_eq_true, if_true, if_false] <;> omega

/-! ## Two parts -/

theorem countP_flatMap_of_imp {whole part : String → Bool} (sightings : List Sighting) (pairing : Pairing)
    (implied : part pairing.relation = true → whole pairing.relation = true) :
    let seen (pairing : Pairing) := (sightings.flatMap (inDirections part)).countP fun sighting => sighting.pairing = pairing
    ((sightings.flatMap (inDirections whole)).countP fun sighting => sighting.pairing = pairing) =
      seen pairing + if whole pairing.relation && !part pairing.relation then seen pairing.swap else 0 := by
  intro seen
  have same : pairing.swap.relation = pairing.relation := rfl
  simp only [seen, countP_flatMap_inDirections, same, Pairing.swap_swap]
  cases here : part pairing.relation with
  | true => simp [implied here]
  | false => cases whole pairing.relation <;> simp

end RelationSet

/-! ## Names -/

namespace GrammarSet

/-- Whether an active grammar has a name. -/
def uses (set : GrammarSet) (name : String) : Bool :=
  set.grammars.any fun grammar => grammar.active && grammar.name == name

/-- Whether an active grammar of a name is bidirectional. -/
def exchanges (set : GrammarSet) (name : String) : Bool :=
  set.grammars.any fun grammar => grammar.active && grammar.bidirectional && grammar.name == name

/-- If both of two sets use a name, either both use it in both directions or neither does. -/
def AgreeOn (first second : GrammarSet) (name : String) : Prop :=
  first.uses name = true → second.uses name = true → first.exchanges name = second.exchanges name

theorem AgreeOn.symm {first second : GrammarSet} {name : String} (agree : first.AgreeOn second name) :
    second.AgreeOn first name :=
  fun used also => (agree also used).symm

variable {set first second : GrammarSet} {tagsets : Tagsets} {relations left right : RelationSet} {name : String}

theorem uses_of_exchanges (both : set.exchanges name = true) : set.uses name = true := by
  simp only [exchanges, uses, List.any_eq_true, Bool.and_eq_true] at both ⊢
  obtain ⟨grammar, member, ⟨active, -⟩, named⟩ := both
  exact ⟨grammar, member, active, named⟩

theorem isBidirectional_eq_exchanges (accepted : set.relations tagsets = .ok relations) :
    relations.isBidirectional name = set.exchanges name := by
  rw [Bool.eq_iff_iff, RelationSet.isBidirectional_iff_grammar accepted]
  simp only [exchanges, List.any_eq_true, Bool.and_eq_true, beq_iff_eq, and_assoc]

theorem uses_of_mem_active (accepted : set.relations tagsets = .ok relations) {relation : Relation}
    (member : relation ∈ relations.active) : set.uses relation.name = true := by
  obtain ⟨grammar, inside, active, made⟩ := (mem_active_iff accepted).mp member
  obtain ⟨pattern, -, rfl⟩ := Grammar.relation_eq_ok_iff.mp made
  simp only [uses, List.any_eq_true, Bool.and_eq_true, beq_iff_eq]
  exact ⟨grammar, inside, active, rfl⟩

theorem exchanges_of_split (split : set.grammars.Perm (first.grammars ++ second.grammars)) (name : String) :
    set.exchanges name = (first.exchanges name || second.exchanges name) := by
  rw [exchanges, split.any_eq, List.any_append]
  rfl

theorem exchanges_eq_of_agreeOn (split : set.grammars.Perm (first.grammars ++ second.grammars))
    (agree : first.AgreeOn second name) (used : first.uses name = true) : set.exchanges name = first.exchanges name := by
  rw [exchanges_of_split split]
  cases both : second.exchanges name with
  | false => exact Bool.or_false _
  | true => rw [agree used (uses_of_exchanges both), both, Bool.or_true]

theorem exists_relations_of_split (accepted : set.relations tagsets = .ok relations)
    (split : set.grammars.Perm (first.grammars ++ second.grammars)) :
    ∃ left right, first.relations tagsets = .ok left ∧ second.relations tagsets = .ok right ∧
      relations.active.Perm (left.active ++ right.active) := by
  obtain ⟨listed, compiled, same⟩ := exists_perm_active accepted
  obtain ⟨results, also, permuted⟩ := exists_mapM_of_perm split compiled
  obtain ⟨earlier, later, firstCompiled, secondCompiled, rfl⟩ := mapM_append_eq_ok_iff.mp also
  refine ⟨_, _, relations_eq_ok_iff.mpr ⟨earlier, firstCompiled, rfl⟩,
    relations_eq_ok_iff.mpr ⟨later, secondCompiled, rfl⟩, same.trans ((permuted.filter _).trans ?_)⟩
  rw [List.filter_append]
  exact ((List.mergeSort_perm earlier inOrder).symm.filter _).append ((List.mergeSort_perm later inOrder).symm.filter _)

end GrammarSet

/-! ## What the parts count -/

namespace RelationSet

open GrammarSet (exchanges AgreeOn)

variable {set first second : GrammarSet} {tagsets : Tagsets} {relations left right : RelationSet}
  {sentences : List Sentence}

theorem sightings_of_accepted (accepted : set.relations tagsets = .ok relations) (sentences : List Sentence) :
    relations.sightings sentences =
      (straightSightings relations.active sentences).flatMap (inDirections set.exchanges) := by
  have same : relations.isBidirectional = set.exchanges := by
    funext name
    exact GrammarSet.isBidirectional_eq_exchanges accepted
  rw [sightings_eq_flatMap, same]

/-- What a set has seen of its matches when they are counted in the directions of another one. -/
def sightingsAs (both : String → Bool) (relations : RelationSet) (sentences : List Sentence) : List Sighting :=
  (straightSightings relations.active sentences).flatMap (inDirections both)

theorem perm_sightings_of_split (accepted : set.relations tagsets = .ok relations)
    (split : relations.active.Perm (left.active ++ right.active)) (sentences : List Sentence) :
    (relations.sightings sentences).Perm
      (left.sightingsAs set.exchanges sentences ++ right.sightingsAs set.exchanges sentences) := by
  rw [sightings_of_accepted accepted, sightingsAs, sightingsAs, ← List.flatMap_append]
  exact (perm_straightSightings split sentences).flatMap_right _

theorem uses_of_mem_straightSightings (accepted : first.relations tagsets = .ok left) {sighting : Sighting}
    (member : sighting ∈ straightSightings left.active sentences) :
    first.uses sighting.pairing.relation = true := by
  obtain ⟨sentence, -, member⟩ := List.mem_flatMap.mp member
  obtain ⟨relation, active, member⟩ := List.mem_flatMap.mp member
  obtain ⟨found, -, rfl⟩ := List.mem_map.mp member
  exact GrammarSet.uses_of_mem_active accepted active

/-- In the directions of the whole, a part also sees the swapped pairings of the names that it does not use so itself. -/
theorem countP_sightingsAs (accepted : first.relations tagsets = .ok left)
    (split : set.grammars.Perm (first.grammars ++ second.grammars)) (sentences : List Sentence) (pairing : Pairing) :
    let seen (pairing : Pairing) := (left.sightings sentences).countP fun sighting => sighting.pairing = pairing
    ((left.sightingsAs set.exchanges sentences).countP fun sighting => sighting.pairing = pairing) =
      seen pairing +
        if set.exchanges pairing.relation && !first.exchanges pairing.relation then seen pairing.swap else 0 := by
  simp only [sightings_of_accepted accepted]
  refine countP_flatMap_of_imp _ pairing fun both => ?_
  rw [GrammarSet.exchanges_of_split split, both, Bool.true_or]

theorem countP_sightingsAs_of_agreeOn (accepted : first.relations tagsets = .ok left)
    (split : set.grammars.Perm (first.grammars ++ second.grammars)) (sentences : List Sentence) {pairing : Pairing}
    (agree : first.AgreeOn second pairing.relation) :
    ((left.sightingsAs set.exchanges sentences).countP fun sighting => sighting.pairing = pairing) =
      (left.sightings sentences).countP fun sighting => sighting.pairing = pairing := by
  rw [sightings_of_accepted accepted, sightingsAs, countP_flatMap_inDirections, countP_flatMap_inDirections]
  cases used : first.uses pairing.relation with
  | true => rw [GrammarSet.exchanges_eq_of_agreeOn split agree used]
  | false =>
      have unseen : ((straightSightings left.active sentences).countP fun sighting =>
          sighting.pairing = pairing.swap) = 0 := by
        refine List.countP_eq_zero.mpr fun sighting member same => ?_
        have uses := uses_of_mem_straightSightings accepted member
        rw [of_decide_eq_true same] at uses
        exact Bool.false_ne_true (used.symm.trans uses)
      rw [unseen, ite_self, ite_self]

theorem sightingsAs_of_agreeOn (accepted : first.relations tagsets = .ok left)
    (split : set.grammars.Perm (first.grammars ++ second.grammars)) (sentences : List Sentence)
    (agree : ∀ name, first.AgreeOn second name) :
    left.sightingsAs set.exchanges sentences = left.sightings sentences := by
  rw [sightings_of_accepted accepted, sightingsAs]
  exact flatMap_inDirections_congr fun sighting member =>
    GrammarSet.exchanges_eq_of_agreeOn split (agree _) (uses_of_mem_straightSightings accepted member)

/-- The whole sees as much as both parts do in its directions. -/
theorem countP_sightings_of_split (accepted : set.relations tagsets = .ok relations)
    (split : relations.active.Perm (left.active ++ right.active)) (sentences : List Sentence)
    (wanted : Sighting → Bool) :
    (relations.sightings sentences).countP wanted =
      (left.sightingsAs set.exchanges sentences).countP wanted +
        (right.sightingsAs set.exchanges sentences).countP wanted := by
  rw [(perm_sightings_of_split accepted split sentences).countP_eq, List.countP_append]

end RelationSet

/-- What the tallies of two parts of a set say about the tally of the whole. -/
structure GrammarSet.SumsUp (set first second : GrammarSet) (whole one other : Tally) : Prop where
  /-- A pairing was seen as often as in both parts together, and as often as the swapped pairing in a part that does not
  use the name in both directions, if the whole does. -/
  frequencies : ∀ pairing : Pairing,
    let exchangedFor (part : GrammarSet) (tally : Tally) : UInt64 :=
      if set.exchanges pairing.relation && !part.exchanges pairing.relation then tally.frequencies.count pairing.swap
      else 0
    whole.frequencies.count pairing =
      (one.frequencies.count pairing + exchangedFor first one) +
        (other.frequencies.count pairing + exchangedFor second other)
  /-- Under a name that the parts use alike, it was seen as often as in both parts together. -/
  alike : ∀ pairing : Pairing, first.AgreeOn second pairing.relation →
    whole.frequencies[pairing]? = (one.frequencies.add other.frequencies)[pairing]?
  /-- If they use all names alike, all counts are the sums. -/
  allAlike : (∀ name, first.AgreeOn second name) →
    whole.heads = one.heads.add other.heads ∧ whole.collocates = one.collocates.add other.collocates ∧
      whole.frequencies = one.frequencies.add other.frequencies

namespace RelationSet

open GrammarSet (SumsUp)

variable {set first second : GrammarSet} {tagsets : Tagsets} {relations left right : RelationSet}
  {sentences : List Sentence} {limit : Nat} {whole one other : Tally} {counted : List Sentence}

theorem sumsUp_of_reflects (accepted : set.relations tagsets = .ok relations)
    (leftAccepted : first.relations tagsets = .ok left) (rightAccepted : second.relations tagsets = .ok right)
    (split : set.grammars.Perm (first.grammars ++ second.grammars))
    (active : relations.active.Perm (left.active ++ right.active))
    (reflects : whole.Reflects limit (relations.sightings sentences) counted)
    (leftReflects : one.Reflects limit (left.sightings sentences) counted)
    (rightReflects : other.Reflects limit (right.sightings sentences) counted) :
    set.SumsUp first second whole one other := by
  have swapped : set.grammars.Perm (second.grammars ++ first.grammars) := split.trans List.perm_append_comm
  have sums (wanted : Sighting → Bool) := countP_sightings_of_split accepted active sentences wanted
  have alike (pairing : Pairing) (agree : first.AgreeOn second pairing.relation) :
      whole.frequencies[pairing]? = (one.frequencies.add other.frequencies)[pairing]? := by
    rw [Counts.getElem?_add leftReflects.getElem?_frequencies rightReflects.getElem?_frequencies,
      reflects.getElem?_frequencies, sums, countP_sightingsAs_of_agreeOn leftAccepted split sentences agree,
      countP_sightingsAs_of_agreeOn rightAccepted swapped sentences agree.symm]
  refine ⟨fun pairing => ?_, alike, fun agree => ?_⟩
  · simp only [reflects.count_frequencies, leftReflects.count_frequencies, rightReflects.count_frequencies, sums,
      countP_sightingsAs leftAccepted split, countP_sightingsAs rightAccepted swapped, UInt64.ofNat_add,
      apply_ite UInt64.ofNat]
    rfl
  · have together (wanted : Sighting → Bool) : (relations.sightings sentences).countP wanted =
        (left.sightings sentences).countP wanted + (right.sightings sentences).countP wanted := by
      rw [sums, sightingsAs_of_agreeOn leftAccepted split sentences agree,
        sightingsAs_of_agreeOn rightAccepted swapped sentences fun name => (agree name).symm]
    refine ⟨Std.ExtTreeMap.ext_getElem? fun lexeme => ?_, Std.ExtTreeMap.ext_getElem? fun lexeme => ?_,
      Std.ExtTreeMap.ext_getElem? fun pairing => alike pairing (agree _)⟩
    · rw [Counts.getElem?_add leftReflects.heads rightReflects.heads, reflects.heads, together]
    · rw [Counts.getElem?_add leftReflects.collocates rightReflects.collocates, reflects.collocates, together]

/-- However the grammars of an accepted set are split, both parts are accepted; and with coherent caches, whatever they
keep, every list of sentences is counted by the whole as by the parts together, up to the directions of names that the
parts do not use alike.  A match of the whole is counted as it is, and swapped exactly if some active grammar of its name is
bidirectional. -/
theorem counts_of_split (accepted : set.relations tagsets = .ok relations)
    (split : set.grammars.Perm (first.grammars ++ second.grammars)) {known : List Token → Prop}
    (distinguishes : ContentHash.Distinguishes known) (occur : Familiar known sentences) (limit : Nat) :
    ∃ left right, first.relations tagsets = .ok left ∧ second.relations tagsets = .ok right ∧
      ∀ cache leftCache rightCache, relations.Coherent known cache → left.Coherent known leftCache →
        right.Coherent known rightCache →
        let whole := (relations.count limit cache sentences).1
        set.SumsUp first second whole (left.count limit leftCache sentences).1 (right.count limit rightCache sentences).1 ∧
          ∀ pairing : Pairing,
            let found (pairing : Pairing) : Nat :=
              (straightSightings relations.active sentences).countP fun sighting => sighting.pairing = pairing
            whole.frequencies.count pairing = UInt64.ofNat (found pairing +
              if set.exchanges pairing.relation then found pairing.swap else 0) := by
  obtain ⟨left, right, leftAccepted, rightAccepted, active⟩ := GrammarSet.exists_relations_of_split accepted split
  refine ⟨left, right, leftAccepted, rightAccepted, ?_⟩
  intro cache leftCache rightCache coherent leftCoherent rightCoherent whole
  have reflects {set : GrammarSet} {relations : RelationSet} {cache : AnalysisCache}
      (accepted : set.relations tagsets = .ok relations) (coherent : relations.Coherent known cache) :
      (relations.count limit cache sentences).1.Reflects limit (relations.sightings sentences)
        (sentences.filter Sentence.isValid) := by
    rw [(coherent.count distinguishes occur limit).1]
    exact reflects_countAfresh (within_analyze accepted) limit sentences
  refine ⟨sumsUp_of_reflects accepted leftAccepted rightAccepted split active (reflects accepted coherent)
    (reflects leftAccepted leftCoherent) (reflects rightAccepted rightCoherent), fun pairing => ?_⟩
  rw [(reflects accepted coherent).count_frequencies, sightings_of_accepted accepted, countP_flatMap_inDirections]

/-- Nouns with adjectives, and nouns that are next to each other in both directions, under different names. -/
theorem counts_of_split_phrases :
    let compounds : GrammarSet :=
      { version := "v1"
        grammars :=
          [{ name := "next", source := "1:[pos=\"NOUN\"] 2:[pos=\"NOUN\"]", language := "en", bidirectional := true }] }
    let set : GrammarSet := ⟨"v1", GrammarSet.adjectives.grammars ++ compounds.grammars⟩
    ∃ relations left right, set.relations .empty = .ok relations ∧
      GrammarSet.adjectives.relations .empty = .ok left ∧ compounds.relations .empty = .ok right ∧
      let whole := (relations.count 5 (Cache.empty 64) Phrase.sentences).1
      let one := (left.count 5 (Cache.empty 64) Phrase.sentences).1
      let other := (right.count 5 (Cache.empty 64) Phrase.sentences).1
      whole.heads = one.heads.add other.heads ∧ whole.collocates = one.collocates.add other.collocates ∧
        whole.frequencies = one.frequencies.add other.frequencies ∧
        whole.frequencies[(⟨Phrase.house.lexeme, Phrase.old.lexeme, "modifier"⟩ : Pairing)]? = some 2 := by
  intro compounds set
  let pairing : Pairing := ⟨Phrase.house.lexeme, Phrase.old.lexeme, "modifier"⟩
  obtain ⟨listed, compiled, seen⟩ : ∃ listed,
      (set.grammars.mapM fun grammar => grammar.relation .empty) = .ok listed ∧
        (decide (listed.Pairwise fun left right => GrammarSet.inOrder left right = true),
          (RelationSet.count ⟨"v1", set.fingerprint, listed⟩ 5 (Cache.empty 64) Phrase.sentences).1.frequencies[pairing]?) =
            (true, some 2) :=
    exists_ok_of_toOption (by decide +kernel)
  obtain ⟨ordered, known⟩ := Prod.mk.inj seen
  have accepted := GrammarSet.relations_eq_ok_of_inOrder compiled (of_decide_eq_true ordered)
  obtain ⟨left, right, leftAccepted, rightAccepted, counts⟩ :=
    counts_of_split accepted (List.Perm.refl set.grammars) Phrase.distinguishes_listed Phrase.familiar_sentences 5
  have coherent (relations : RelationSet) : relations.Coherent Phrase.Listed (Cache.empty 64) := Cache.every_empty 64
  obtain ⟨sums, -⟩ := counts _ _ _ (coherent _) (coherent left) (coherent right)
  have agree (name : String) : GrammarSet.adjectives.AgreeOn compounds name := by
    intro used also
    simp only [GrammarSet.uses, GrammarSet.adjectives, compounds, List.any_cons, List.any_nil, Bool.or_false,
      Bool.true_and, beq_iff_eq] at used also
    exact absurd (used.trans also.symm) (by decide)
  obtain ⟨heads, collocates, frequencies⟩ := sums.allAlike agree
  exact ⟨_, left, right, accepted, leftAccepted, rightAccepted, heads, collocates, frequencies, known⟩

/-- A noun with an adjective in front of it is counted one way by the grammar that is not bidirectional, and not at all by
the other grammar of its name.  Together they count it both ways. -/
theorem counts_of_neighbours_apart :
    let first : GrammarSet := ⟨"v1", GrammarSet.neighbours.grammars.take 1⟩
    let second : GrammarSet := ⟨"v1", GrammarSet.neighbours.grammars.drop 1⟩
    let sentences : List Sentence := [⟨7, [Phrase.old, Phrase.house], none, none⟩]
    let old := Phrase.old.lexeme
    let pairing : Pairing := ⟨old, Phrase.house.lexeme, "next"⟩
    GrammarSet.neighbours.grammars = first.grammars ++ second.grammars ∧ second.exchanges "next" = false ∧
      ∃ relations left right, GrammarSet.neighbours.relations .empty = .ok relations ∧
        first.relations .empty = .ok left ∧ second.relations .empty = .ok right ∧
        let whole := (relations.count 5 (Cache.empty 64) sentences).1
        let one := (left.count 5 (Cache.empty 64) sentences).1
        let other := (right.count 5 (Cache.empty 64) sentences).1
        whole.frequencies[pairing]? = some 1 ∧ (one.frequencies.add other.frequencies)[pairing]? = none ∧
          whole.heads[old]? = some 1 ∧ whole.heads ≠ one.heads.add other.heads := by
  intro first second sentences old pairing
  let counted (relations : RelationSet) : Option UInt64 × Option UInt64 :=
    let tally := (relations.count 5 (Cache.empty 64) sentences).1
    (tally.frequencies[pairing]?, tally.heads[old]?)
  obtain ⟨listed, compiled, seen⟩ : ∃ listed,
      (GrammarSet.neighbours.grammars.mapM fun grammar => grammar.relation .empty) = .ok listed ∧
        (decide (listed.Pairwise fun left right => GrammarSet.inOrder left right = true),
          counted ⟨GrammarSet.neighbours.version, GrammarSet.neighbours.fingerprint, listed⟩) = (true, some 1, some 1) :=
    exists_ok_of_toOption (by decide +kernel)
  obtain ⟨ordered, both⟩ := Prod.mk.inj seen
  obtain ⟨left, leftAccepted, leftSeen⟩ : ∃ left, first.relations .empty = .ok left ∧ counted left = (none, none) :=
    exists_ok_of_toOption (by decide +kernel)
  obtain ⟨right, rightAccepted, rightSeen⟩ : ∃ right, second.relations .empty = .ok right ∧
      counted right = (none, none) :=
    exists_ok_of_toOption (by decide +kernel)
  obtain ⟨known, asHead⟩ := Prod.mk.inj both
  obtain ⟨unknownLeft, neverLeft⟩ := Prod.mk.inj leftSeen
  obtain ⟨unknownRight, neverRight⟩ := Prod.mk.inj rightSeen
  refine ⟨rfl, by decide, _, left, right, GrammarSet.relations_eq_ok_of_inOrder compiled (of_decide_eq_true ordered),
    leftAccepted, rightAccepted, known, ?_, asHead, fun same => ?_⟩
  · rw [Counts.add, Table.getElem?_combine, unknownLeft, unknownRight]
  · have none_of_parts := congrArg (fun counts : Counts Lexeme => counts[old]?) same
    rw [asHead, Counts.add, Table.getElem?_combine, neverLeft, neverRight] at none_of_parts
    cases none_of_parts

end RelationSet
end Collocation
