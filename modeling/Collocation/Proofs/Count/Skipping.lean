import Collocation.Proofs.Count.Sharding

/-!
# Sentences that are left out

A sentence that lacks a lemma or a part of speech is noted and adds nothing else.  So whatever a cache keeps, a tally of
sentences is the tally of the valid ones, with a note of all others in their order; and counting in shards notes the
same.
-/

namespace Collocation

/-! ## Flaws -/

/-- A token has a lemma and a part of speech. -/
def Token.Complete (token : Token) : Prop :=
  isMissing token.base = false ∧ isMissing token.tag = false

namespace Sentence

/-- A sentence is left out for a reason: the reason names the first token that is not complete, and says that it has no
lemma, or that it has a lemma but no part of speech. -/
def FlawedBy (sentence : Sentence) (reason : SkipReason) : Prop :=
  ∃ before token after, sentence.tokens = before ++ token :: after ∧ (∀ other ∈ before, other.Complete) ∧
    (isMissing token.base = true ∧ reason = .missingBase before.length ∨
      isMissing token.base = false ∧ isMissing token.tag = true ∧ reason = .missingTag before.length)

theorem firstFlaw?_append {before : List Token} (complete : ∀ other ∈ before, other.Complete) (position : Nat)
    (tokens : List Token) : firstFlaw? position (before ++ tokens) = firstFlaw? (position + before.length) tokens := by
  induction before generalizing position with
  | nil => rfl
  | cons token before induction =>
      obtain ⟨base, tag⟩ := complete token List.mem_cons_self
      have others := induction (fun other member => complete other (List.mem_cons_of_mem token member)) (position + 1)
      simp only [List.cons_append, firstFlaw?, base, tag, Bool.false_eq_true, if_false, others, List.length_cons]
      congr 1
      omega

theorem exists_of_firstFlaw?_eq_some {position : Nat} {tokens : List Token} {reason : SkipReason}
    (flaw : firstFlaw? position tokens = some reason) :
    ∃ before token after, tokens = before ++ token :: after ∧ (∀ other ∈ before, other.Complete) ∧
      (isMissing token.base = true ∧ reason = .missingBase (position + before.length) ∨
        isMissing token.base = false ∧ isMissing token.tag = true ∧
          reason = .missingTag (position + before.length)) := by
  induction tokens generalizing position with
  | nil => cases flaw
  | cons token tokens induction =>
      rw [firstFlaw?] at flaw
      split at flaw
      · next missing =>
          cases flaw
          exact ⟨[], token, tokens, rfl, fun _ member => absurd member List.not_mem_nil, .inl ⟨missing, rfl⟩⟩
      · next base =>
          rw [Bool.not_eq_true] at base
          split at flaw
          · next missing =>
              cases flaw
              exact ⟨[], token, tokens, rfl, fun _ member => absurd member List.not_mem_nil,
                .inr ⟨base, missing, rfl⟩⟩
          · next tag =>
              rw [Bool.not_eq_true] at tag
              obtain ⟨before, other, after, rfl, complete, missing⟩ := induction flaw
              refine ⟨token :: before, other, after, rfl, List.forall_mem_cons.mpr ⟨⟨base, tag⟩, complete⟩, ?_⟩
              rwa [List.length_cons, Nat.add_comm before.length 1, ← Nat.add_assoc]

/-- The flaw of a sentence is the reason to leave it out. -/
theorem flaw?_eq_some_iff {sentence : Sentence} {reason : SkipReason} :
    sentence.flaw? = some reason ↔ sentence.FlawedBy reason := by
  constructor
  · intro flaw
    have found := exists_of_firstFlaw?_eq_some flaw
    simp only [Nat.zero_add] at found
    exact found
  · rintro ⟨before, token, after, tokens, complete, missing⟩
    rw [flaw?, tokens, firstFlaw?_append complete, Nat.zero_add]
    rcases missing with ⟨base, rfl⟩ | ⟨base, tag, rfl⟩
    · simp only [firstFlaw?, base, if_true]
    · simp only [firstFlaw?, base, tag, Bool.false_eq_true, if_false, if_true]

end Sentence

/-- The notes of the sentences that are left out. -/
def leftOut (sentences : List Sentence) : List Skipped :=
  sentences.filterMap fun sentence => sentence.flaw?.map (⟨sentence.id, ·⟩)

/-- Every sentence is valid or left out. -/
theorem countP_isValid_add_length_leftOut (sentences : List Sentence) :
    sentences.countP Sentence.isValid + (leftOut sentences).length = sentences.length := by
  rw [leftOut, List.length_filterMap_eq_countP, List.length_eq_countP_add_countP Sentence.isValid]
  congr 1
  refine List.countP_congr fun sentence _ => ?_
  cases flaw : sentence.flaw? <;> simp [Sentence.isValid, flaw]

theorem leftOut_append (first second : List Sentence) :
    leftOut (first ++ second) = leftOut first ++ leftOut second :=
  List.filterMap_append

/-! ## Counting -/

/-- A tally with other notes. -/
def Tally.noting (skipped : List Skipped) (tally : Tally) : Tally :=
  { tally with skipped }

/-- A tally without its notes, and a cache. -/
def unnoted (state : Tally × AnalysisCache) : Tally × AnalysisCache :=
  (state.1.noting [], state.2)

namespace RelationSet

variable {relations : RelationSet} {limit : Nat}

theorem countAnalysed_noting (relations : RelationSet) (skipped : List Skipped) (tally : Tally) (sentence : Sentence)
    (analysis : Analysis) :
    relations.countAnalysed (tally.noting skipped) sentence analysis =
      (relations.countAnalysed tally sentence analysis).noting skipped := by
  have commutes (tally : Tally) (pairing : Pairing) : (tally.noting skipped).seePairing sentence.id pairing =
      (tally.seePairing sentence.id pairing).noting skipped := rfl
  change List.foldl _ ((tally.seeTokens sentence.tokens).noting skipped) _ = _
  exact List.foldl_hom (Tally.noting skipped) commutes

theorem skipped_countAnalysed (tally : Tally) (sentence : Sentence) (analysis : Analysis) :
    (relations.countAnalysed tally sentence analysis).skipped = tally.skipped :=
  (congrArg Tally.skipped (relations.countAnalysed_noting tally.skipped tally sentence analysis) :)

theorem sentences_countAnalysed (tally : Tally) (sentence : Sentence) (analysis : Analysis) :
    (relations.countAnalysed tally sentence analysis).sentences = tally.sentences + 1 :=
  List.foldlRecOn (motive := fun counted : Tally => counted.sentences = tally.sentences + 1) _
    (fun tally => tally.seePairing sentence.id) rfl fun _ same _ _ => same

theorem unnoted_countSentence (relations : RelationSet) (state : Tally × AnalysisCache) (sentence : Sentence) :
    unnoted (relations.countSentence state sentence) =
      if sentence.isValid then relations.countSentence (unnoted state) sentence else unnoted state := by
  rw [countSentence, countSentence, Sentence.isValid]
  cases sentence.flaw? with
  | some reason => rfl
  | none => exact congrArg (·, _) (relations.countAnalysed_noting [] state.1 sentence _).symm

theorem skipped_countSentence (relations : RelationSet) (state : Tally × AnalysisCache) (sentence : Sentence) :
    (relations.countSentence state sentence).1.skipped = state.1.skipped ++ leftOut [sentence] := by
  rw [countSentence, leftOut, List.filterMap_cons]
  cases sentence.flaw? with
  | some reason => rfl
  | none => exact (skipped_countAnalysed _ _ _).trans (List.append_nil _).symm

theorem sentences_countSentence (relations : RelationSet) (state : Tally × AnalysisCache) (sentence : Sentence) :
    (relations.countSentence state sentence).1.sentences =
      state.1.sentences + UInt64.ofNat ([sentence].countP Sentence.isValid) := by
  rw [countSentence, List.countP_singleton, Sentence.isValid]
  cases sentence.flaw? with
  | some reason => exact (UInt64.add_zero _).symm
  | none => exact sentences_countAnalysed _ _ _

/-- All sentences that are left out are noted, in their order. -/
theorem skipped_count (relations : RelationSet) (limit : Nat) (cache : AnalysisCache) (sentences : List Sentence) :
    (relations.count limit cache sentences).1.skipped = leftOut sentences := by
  have continues (state : Tally × AnalysisCache) :
      (sentences.foldl relations.countSentence state).1.skipped = state.1.skipped ++ leftOut sentences := by
    induction sentences generalizing state with
    | nil => exact (List.append_nil _).symm
    | cons sentence sentences induction =>
        rw [List.foldl_cons, induction, skipped_countSentence, List.append_assoc, ← leftOut_append]
        rfl
  exact continues (.empty limit, cache)

/-- All others are counted. -/
theorem sentences_count (relations : RelationSet) (limit : Nat) (cache : AnalysisCache) (sentences : List Sentence) :
    (relations.count limit cache sentences).1.sentences = UInt64.ofNat (sentences.countP Sentence.isValid) := by
  have continues (state : Tally × AnalysisCache) :
      (sentences.foldl relations.countSentence state).1.sentences =
        state.1.sentences + UInt64.ofNat (sentences.countP Sentence.isValid) := by
    induction sentences generalizing state with
    | nil => exact (UInt64.add_zero _).symm
    | cons sentence sentences induction =>
        rw [List.foldl_cons, induction, sentences_countSentence, UInt64.add_assoc, ← UInt64.ofNat_add,
          ← List.countP_append]
        rfl
  exact (continues (.empty limit, cache)).trans (UInt64.zero_add _)

/-- The valid sentences come to the same tally and the same cache, without the notes. -/
theorem count_filter_isValid (relations : RelationSet) (limit : Nat) (cache : AnalysisCache)
    (sentences : List Sentence) :
    relations.count limit cache (sentences.filter Sentence.isValid) =
      unnoted (relations.count limit cache sentences) := by
  have continues (state : Tally × AnalysisCache) :
      (sentences.filter Sentence.isValid).foldl relations.countSentence (unnoted state) =
        unnoted (sentences.foldl relations.countSentence state) := by
    rw [List.foldl_filter]
    exact List.foldl_hom unnoted fun state sentence => (relations.unnoted_countSentence state sentence).symm
  exact continues (.empty limit, cache)

/-! ## Counting in shards -/

theorem countSentence_append (relations : RelationSet) {tally later : Tally} (own : tally.sampleLimit = limit)
    (sampled : later.WellSampled limit) (cache : AnalysisCache) (sentence : Sentence) :
    let counted := relations.countSentence (later, cache) sentence
    relations.countSentence (tally ++ later, cache) sentence = (tally ++ counted.1, counted.2) ∧
      counted.1.WellSampled limit := by
  simp only [countSentence]
  cases sentence.flaw? with
  | some reason => exact ⟨congrArg (·, cache) (Tally.append_skip _ _ _).symm, sampled.skip _⟩
  | none =>
      obtain ⟨joined, next⟩ := relations.append_countAnalysed own sampled sentence
        (relations.analyzeWith cache sentence).1
      exact ⟨congrArg (·, _) joined.symm, next⟩

theorem foldl_countSentence_append (relations : RelationSet) {tally later : Tally} (own : tally.sampleLimit = limit)
    (sampled : later.WellSampled limit) (cache : AnalysisCache) (sentences : List Sentence) :
    let counted := sentences.foldl relations.countSentence (later, cache)
    sentences.foldl relations.countSentence (tally ++ later, cache) = (tally ++ counted.1, counted.2) ∧
      counted.1.WellSampled limit := by
  induction sentences generalizing later cache with
  | nil => exact ⟨rfl, sampled⟩
  | cons sentence sentences induction =>
      obtain ⟨added, next⟩ := relations.countSentence_append own sampled cache sentence
      rw [List.foldl_cons, List.foldl_cons, added]
      exact induction next _

/-- Sentences that are counted after others can be counted in a tally of their own. -/
theorem foldl_countSentence_eq (relations : RelationSet) {tally : Tally} (own : tally.sampleLimit = limit)
    (cache : AnalysisCache) (sentences : List Sentence) :
    sentences.foldl relations.countSentence (tally, cache) =
      (tally ++ (relations.count limit cache sentences).1, (relations.count limit cache sentences).2) := by
  have joined := (relations.foldl_countSentence_append own (Tally.wellSampled_empty limit) cache sentences).1
  rwa [Tally.append_empty] at joined

theorem foldl_append_countParts (relations : RelationSet) {tally : Tally} (own : tally.sampleLimit = limit)
    (cache : AnalysisCache) (parts : List (List Sentence)) :
    ((relations.countParts limit cache parts).1.foldl Tally.append tally, (relations.countParts limit cache parts).2) =
      parts.flatten.foldl relations.countSentence (tally, cache) := by
  induction parts generalizing tally cache with
  | nil => rfl
  | cons part parts induction =>
      have first := relations.foldl_countSentence_eq own cache part
      have joined : (tally ++ (relations.count limit cache part).1).sampleLimit = limit := own
      rw [List.flatten_cons, List.foldl_append, first, ← induction joined]
      rfl

/-- Whatever the cache keeps, counting one shard after another is counting one sentence after another. -/
theorem countSharded_eq_count (relations : RelationSet) (limit size : Nat) (cache : AnalysisCache)
    (sentences : List Sentence) :
    relations.countSharded limit size cache sentences = relations.count limit cache sentences := by
  have own : (Tally.empty limit).sampleLimit = limit := rfl
  have joined := relations.foldl_append_countParts own cache (shards size sentences)
  rwa [flatten_shards] at joined

end RelationSet

/-! ## Reports -/

/-- What is left out of some sentences and what was rejected before are reported together, in the order of their numbers;
under one number the sentences come first, and both are in the order that they had. -/
structure Reported (sentences : List Sentence) (rejected skipped : List Skipped) : Prop where
  /-- All of them are reported, and nothing else. -/
  perm : skipped.Perm (leftOut sentences ++ rejected)
  /-- The numbers ascend. -/
  ascending : skipped.Pairwise fun left right => left.id ≤ right.id
  /-- Under one number the order is the old one. -/
  stable : ∀ id : SentenceId, (skipped.filter fun skipped => skipped.id = id) =
    ((leftOut sentences).filter fun skipped => skipped.id = id) ++ rejected.filter fun skipped => skipped.id = id

theorem sorted_mergeSort_id (list : List Skipped) :
    let sorted := list.mergeSort fun left right => left.id ≤ right.id
    (sorted.Pairwise fun left right => left.id ≤ right.id) ∧
      ∀ id : SentenceId, (sorted.filter fun skipped => skipped.id = id) = list.filter fun skipped => skipped.id = id := by
  intro sorted
  let inOrder (left right : Skipped) : Bool := left.id ≤ right.id
  have trans (first second third : Skipped) : inOrder first second = true → inOrder second third = true →
      inOrder first third = true := by
    simp only [inOrder, decide_eq_true_eq]
    exact UInt64.le_trans
  have total (left right : Skipped) : (inOrder left right || inOrder right left) = true := by
    simp only [inOrder, Bool.or_eq_true, decide_eq_true_eq]
    exact UInt64.le_total _ _
  refine ⟨(List.pairwise_mergeSort trans total list).imp of_decide_eq_true, fun id => ?_⟩
  let chosen (skipped : Skipped) : Bool := skipped.id = id
  have together : (list.filter chosen).Pairwise fun left right => inOrder left right = true := by
    refine List.pairwise_of_forall_mem_list fun left leftInside right rightInside => ?_
    have leftId : left.id = id := of_decide_eq_true (List.mem_filter.mp leftInside).2
    have rightId : right.id = id := of_decide_eq_true (List.mem_filter.mp rightInside).2
    simp only [inOrder, leftId, rightId, decide_eq_true_eq]
    exact UInt64.le_refl id
  have part : (list.filter chosen).Sublist ((list.mergeSort inOrder).filter chosen) := by
    have kept := (List.sublist_mergeSort trans total together List.filter_sublist).filter chosen
    simpa only [List.filter_filter, Bool.and_self] using kept
  exact (part.eq_of_length ((List.mergeSort_perm list inOrder).filter chosen).length_eq.symm).symm

theorem Tally.reported_addRejected {tally : Tally} {sentences : List Sentence}
    (noted : tally.skipped = leftOut sentences) (rejected : List Skipped) :
    Reported sentences rejected (tally.addRejected rejected).skipped := by
  obtain ⟨ascending, stable⟩ := sorted_mergeSort_id (leftOut sentences ++ rejected)
  rw [addRejected, noted]
  exact ⟨List.mergeSort_perm _ _, ascending, fun id => (stable id).trans (List.filter_append _ _)⟩

end Collocation
