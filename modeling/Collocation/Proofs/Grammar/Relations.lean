import Collocation.Analysis
import Collocation.Proofs.Pattern.Checks

/-!
# Relations of accepted grammars

When a grammar set is accepted, the relations that are looked for stand in the order of their priorities and
names, and an analysis never speaks of tokens that are not in the sentence.
-/

namespace Collocation

namespace GrammarSet

theorem inOrder_iff {left right : Relation} :
    inOrder left right = true ↔
      left.priority < right.priority ∨ left.priority = right.priority ∧ left.name ≤ right.name := by
  simp [inOrder]

theorem inOrder_trans (first second third : Relation) (before : inOrder first second = true)
    (after : inOrder second third = true) : inOrder first third = true := by
  rw [inOrder_iff] at before after ⊢
  rcases before with lower | ⟨same, before⟩
  · omega
  · rcases after with lower | ⟨equal, after⟩
    · omega
    · exact Or.inr ⟨same.trans equal, String.le_trans before after⟩

theorem inOrder_total (left right : Relation) : (inOrder left right || inOrder right left) = true := by
  rw [Bool.or_eq_true, inOrder_iff, inOrder_iff]
  rcases Int.lt_trichotomy left.priority right.priority with lower | same | higher
  · exact Or.inl (Or.inl lower)
  · exact (String.le_total left.name right.name).imp (fun before => Or.inr ⟨same, before⟩)
      fun after => Or.inr ⟨same.symm, after⟩
  · exact Or.inr (Or.inl higher)

variable {set : GrammarSet} {tagsets : Tagsets} {relations : RelationSet}

theorem relations_eq_ok_iff :
    set.relations tagsets = .ok relations ↔
      ∃ listed, (set.grammars.mapM fun grammar => grammar.relation tagsets) = .ok listed ∧
        relations = ⟨set.version, set.fingerprint, listed.mergeSort inOrder⟩ := by
  simp only [GrammarSet.relations, bind_eq_ok_iff, pure_eq_ok_iff, eq_comm (a := relations)]

/-- Grammars whose relations are in order already are accepted with the relations as they are listed. -/
theorem relations_eq_ok_of_inOrder {listed : List Relation}
    (compiled : (set.grammars.mapM fun grammar => grammar.relation tagsets) = .ok listed)
    (ordered : listed.Pairwise fun left right => inOrder left right = true) :
    set.relations tagsets = .ok ⟨set.version, set.fingerprint, listed⟩ :=
  relations_eq_ok_iff.mpr ⟨listed, compiled, by rw [List.mergeSort_of_pairwise ordered]⟩

theorem exists_perm_active (accepted : set.relations tagsets = .ok relations) :
    ∃ listed, (set.grammars.mapM fun grammar => grammar.relation tagsets) = .ok listed ∧
      relations.active.Perm (listed.filter Relation.active) := by
  obtain ⟨listed, compiled, rfl⟩ := relations_eq_ok_iff.mp accepted
  exact ⟨listed, compiled, (List.mergeSort_perm listed inOrder).filter _⟩

theorem pairwise_active (accepted : set.relations tagsets = .ok relations) :
    relations.active.Pairwise fun left right =>
      left.priority < right.priority ∨ left.priority = right.priority ∧ left.name ≤ right.name := by
  obtain ⟨listed, -, rfl⟩ := relations_eq_ok_iff.mp accepted
  have sorted := (List.pairwise_mergeSort inOrder_trans inOrder_total listed).imp inOrder_iff.mp
  exact sorted.sublist List.filter_sublist

/-- Every active grammar has its relation among those that are looked for, and they are no others. -/
theorem mem_active_iff (accepted : set.relations tagsets = .ok relations) {relation : Relation} :
    relation ∈ relations.active ↔
      ∃ grammar ∈ set.grammars, grammar.active = true ∧ grammar.relation tagsets = .ok relation := by
  obtain ⟨listed, compiled, same⟩ := exists_perm_active accepted
  rw [same.mem_iff, List.mem_filter, mem_iff_of_mapM_eq_ok compiled]
  constructor
  · rintro ⟨⟨grammar, member, made⟩, active⟩
    obtain ⟨pattern, -, rfl⟩ := Grammar.relation_eq_ok_iff.mp made
    exact ⟨grammar, member, active, made⟩
  · rintro ⟨grammar, member, active, made⟩
    refine ⟨⟨grammar, member, made⟩, ?_⟩
    obtain ⟨pattern, -, rfl⟩ := Grammar.relation_eq_ok_iff.mp made
    exact active

theorem exists_relation_of_mem (accepted : set.relations tagsets = .ok relations) {grammar : Grammar}
    (member : grammar ∈ set.grammars) : ∃ relation, grammar.relation tagsets = .ok relation := by
  obtain ⟨listed, compiled, -⟩ := relations_eq_ok_iff.mp accepted
  exact exists_mapM_eq_ok_iff.mp ⟨listed, compiled⟩ grammar member

theorem wellPlaced_of_mem (accepted : set.relations tagsets = .ok relations) {relation : Relation}
    (member : relation ∈ relations.relations) : relation.pattern.WellPlaced := by
  obtain ⟨listed, compiled, rfl⟩ := relations_eq_ok_iff.mp accepted
  obtain ⟨grammar, -, made⟩ := exists_of_mem_of_mapM_eq_ok compiled (List.mem_mergeSort.mp member)
  obtain ⟨pattern, checked, rfl⟩ := Grammar.relation_eq_ok_iff.mp made
  simp only [Grammar.pattern, bind_eq_ok_iff] at checked
  obtain ⟨written, -, narrowed, -, whole, -, passes⟩ := checked
  exact Draft.wellPlaced_of_checked passes

/-- A relation between an adjective and the noun right after it. -/
def adjectives : GrammarSet where
  version := "v1"
  grammars :=
    [{ name := "modifier", source := "2:[pos=\"ADJ\"] 1:[pos=\"NOUN\"]", language := "en" }]

theorem exists_relations_adjectives : ∃ relations, adjectives.relations .empty = .ok relations := by
  have accepted : (adjectives.relations .empty).isOk = true := by decide +kernel
  cases compiled : adjectives.relations .empty with
  | error cause => simp [compiled, Except.isOk, Except.toBool] at accepted
  | ok relations => exact ⟨relations, rfl⟩

end GrammarSet

/-- A name is used in both directions if an active grammar of this name is bidirectional. -/
theorem RelationSet.isBidirectional_iff_grammar {set : GrammarSet} {tagsets : Tagsets} {relations : RelationSet}
    (accepted : set.relations tagsets = .ok relations) {name : String} :
    relations.isBidirectional name = true ↔
      ∃ grammar ∈ set.grammars, grammar.active = true ∧ grammar.bidirectional = true ∧ grammar.name = name := by
  simp only [isBidirectional, List.any_eq_true, Bool.and_eq_true, beq_iff_eq, GrammarSet.mem_active_iff accepted]
  constructor
  · rintro ⟨relation, ⟨grammar, member, active, made⟩, both, named⟩
    obtain ⟨pattern, -, rfl⟩ := Grammar.relation_eq_ok_iff.mp made
    exact ⟨grammar, member, active, both, named⟩
  · rintro ⟨grammar, member, active, both, named⟩
    obtain ⟨relation, made⟩ := GrammarSet.exists_relation_of_mem accepted member
    refine ⟨relation, ⟨grammar, member, active, made⟩, ?_⟩
    obtain ⟨pattern, -, rfl⟩ := Grammar.relation_eq_ok_iff.mp made
    exact ⟨both, named⟩

/-- Heads and collocates of an analysis are tokens of a sequence. -/
def Analysis.Within (tokens : List Token) (analysis : Analysis) : Prop :=
  ∀ found ∈ analysis, found.found.head < tokens.length ∧ found.found.collocate < tokens.length

/-- With accepted grammars, heads and collocates are tokens of the sequence that is analysed. -/
theorem RelationSet.within_analyze {set : GrammarSet} {tagsets : Tagsets} {relations : RelationSet}
    (accepted : set.relations tagsets = .ok relations) (tokens : List Token) :
    (relations.analyze tokens).Within tokens := by
  intro found member
  obtain ⟨relation, active, member⟩ := List.mem_flatMap.mp member
  obtain ⟨result, matched, rfl⟩ := List.mem_map.mp member
  have placed := GrammarSet.wellPlaced_of_mem accepted (List.mem_filter.mp active).1
  exact placed.within matched

end Collocation
