import Collocation.Proofs.Tally.Sightings

/-!
# Marginals

A tally counts every sighting of a pairing three times over: for the pairing, for its head and for its collocate.  So as
long as no count runs over, the count of a head is the sum of the frequencies of its pairings, and likewise for
collocates and for tokens.  `Tally.Conserved` says so of a tally by itself, whatever its history.
-/

namespace Collocation

/-! ## Counting by keys -/

/-- What some numbers amount to together. -/
def total (numbers : List Nat) : Nat :=
  numbers.foldr (· + ·) 0

theorem le_total_of_mem {numbers : List Nat} {number : Nat} (member : number ∈ numbers) : number ≤ total numbers := by
  induction numbers with
  | nil => cases member
  | cons first numbers induction =>
      rw [total, List.foldr_cons, ← total]
      rcases List.mem_cons.mp member with rfl | later
      · exact Nat.le_add_right _ _
      · exact Nat.le_trans (induction later) (Nat.le_add_left _ _)

theorem total_map_countP {α κ : Type} [DecidableEq κ] (view : α → κ) (items : List α) {keys : List κ}
    (distinct : keys.Nodup) :
    total (keys.map fun key => items.countP fun item => view item = key) =
      items.countP fun item => view item ∈ keys := by
  induction keys with
  | nil => simp [total]
  | cons key keys induction =>
      obtain ⟨fresh, distinct⟩ := List.nodup_cons.mp distinct
      have here : (fun item => decide (view item ∈ key :: keys) && decide (view item = key)) =
          fun item => decide (view item = key) := by
        funext item
        rw [Bool.eq_iff_iff]
        simp +contextual
      have elsewhere : (fun item => decide (view item ∈ key :: keys) && !decide (view item = key)) =
          fun item => decide (view item ∈ keys) := by
        funext item
        rw [Bool.eq_iff_iff]
        simp only [Bool.and_eq_true, Bool.not_eq_true', decide_eq_true_eq, decide_eq_false_iff_not, List.mem_cons]
        exact ⟨fun both => both.1.resolve_left both.2, fun inside => ⟨.inr inside, fun same => fresh (same ▸ inside)⟩⟩
      rw [List.map_cons, total, List.foldr_cons, ← total, induction distinct,
        List.countP_eq_countP_filter_add items (fun item => decide (view item ∈ key :: keys))
          fun item => decide (view item = key), List.countP_filter, List.countP_filter, here, elsewhere]

theorem Table.total_filter_toList {κ α : Type} [Ord κ] [Std.TransOrd κ] [Std.LawfulEqOrd κ] {table : Table κ α}
    {amount : α → Nat} {times : κ → Nat}
    (counted : ∀ (key : κ) (value : α), table[key]? = some value → amount value = times key) (wanted : κ → Bool) :
    total ((table.toList.filter fun entry => wanted entry.1).map fun entry => amount entry.2) =
      total ((table.keys.filter wanted).map times) := by
  have keyed : (table.toList.filter fun entry => wanted entry.1).map (fun entry => amount entry.2) =
      (table.toList.filter fun entry => wanted entry.1).map fun entry => times entry.1 :=
    List.map_congr_left fun entry member =>
      counted entry.1 entry.2 (Std.ExtTreeMap.mem_toList_iff_getElem?_eq_some.mp (List.mem_filter.mp member).1)
  rw [keyed, ← Std.ExtTreeMap.map_fst_toList_eq_keys, List.filter_map, List.map_map]
  rfl

theorem toNat_getD_countOf {times : Nat} (below : times < UInt64.size) : ((countOf times).getD 0).toNat = times := by
  rw [getD_countOf, UInt64.toNat_ofNat_of_lt' below]

/-! ## Conservation -/

/-- What is known of a pairing was seen: it has a frequency and a sample that is no larger, and empty only if nothing
may be kept. -/
structure Attestation.Sound (limit : Nat) (attestation : Attestation) : Prop extends attestation.WellSampled limit where
  /-- It was seen. -/
  seen : 0 < attestation.frequency.toNat
  /-- There are no more examples than sightings. -/
  covered : attestation.examples.length ≤ attestation.frequency.toNat
  /-- An example is kept if there is room for one. -/
  kept : 0 < limit → attestation.examples ≠ []

namespace Tally

/-- How often the pairings that have a lexeme at a place were seen, all together. -/
def frequencyOf (tally : Tally) (place : Pairing → Lexeme) (lexeme : Lexeme) : Nat :=
  total ((tally.pairings.toList.filter fun entry => place entry.1 = lexeme).map fun entry => entry.2.frequency.toNat)

/-- The marginals of a tally are the sums of its joint counts. -/
structure Conserved (limit : Nat) (tally : Tally) : Prop where
  heads : ∀ lexeme : Lexeme, (tally.heads.count lexeme).toNat = tally.frequencyOf Pairing.head lexeme
  collocates : ∀ lexeme : Lexeme, (tally.collocates.count lexeme).toNat = tally.frequencyOf Pairing.collocate lexeme
  tokens : tally.tokens.toNat = total (tally.lexemes.toList.map fun entry => entry.2.toNat)
  attested : ∀ (pairing : Pairing) (attestation : Attestation), tally.pairings[pairing]? = some attestation →
    attestation.Sound limit ∧ tally.tokens ≠ 0

end Tally

/-- No count of what was seen runs over. -/
structure Countable (sightings : List Sighting) (sentences : List Sentence) : Prop where
  heads : ∀ lexeme : Lexeme, (sightings.countP fun sighting => sighting.pairing.head = lexeme) < UInt64.size
  collocates : ∀ lexeme : Lexeme, (sightings.countP fun sighting => sighting.pairing.collocate = lexeme) < UInt64.size
  tokens : (tokensOf sentences).length < UInt64.size

variable {limit : Nat} {sightings : List Sighting} {sentences : List Sentence} {tally : Tally}

theorem length_sentencesOf (pairing : Pairing) (sightings : List Sighting) :
    (sentencesOf pairing sightings).length = sightings.countP fun sighting => sighting.pairing = pairing := by
  rw [sentencesOf, List.length_map, List.countP_eq_length_filter]

theorem Countable.pairings (countable : Countable sightings sentences) (pairing : Pairing) :
    (sightings.countP fun sighting => sighting.pairing = pairing) < UInt64.size := by
  refine Nat.lt_of_le_of_lt (List.countP_mono_left fun sighting _ same => ?_) (countable.heads pairing.head)
  rw [decide_eq_true_eq] at same ⊢
  rw [same]

namespace Tally

theorem Reflects.toNat_frequency (reflects : tally.Reflects limit sightings sentences)
    (countable : Countable sightings sentences) {pairing : Pairing} {attestation : Attestation}
    (known : tally.pairings[pairing]? = some attestation) :
    attestation.frequency.toNat = sightings.countP fun sighting => sighting.pairing = pairing := by
  rw [reflects.pairings, attestationOf] at known
  split at known
  · cases known
  · obtain rfl := Option.some.inj known
    have below := countable.pairings pairing
    rw [← length_sentencesOf] at below ⊢
    exact UInt64.toNat_ofNat_of_lt' below

theorem Reflects.toNat_heads (reflects : tally.Reflects limit sightings sentences)
    (countable : Countable sightings sentences) (lexeme : Lexeme) :
    (tally.heads.count lexeme).toNat = sightings.countP fun sighting => sighting.pairing.head = lexeme := by
  rw [Counts.count, reflects.heads, toNat_getD_countOf (countable.heads lexeme)]

theorem Reflects.toNat_collocates (reflects : tally.Reflects limit sightings sentences)
    (countable : Countable sightings sentences) (lexeme : Lexeme) :
    (tally.collocates.count lexeme).toNat = sightings.countP fun sighting => sighting.pairing.collocate = lexeme := by
  rw [Counts.count, reflects.collocates, toNat_getD_countOf (countable.collocates lexeme)]

/-- Exactly the pairings that were seen are known. -/
theorem Reflects.mem_pairings_iff (reflects : tally.Reflects limit sightings sentences) (pairing : Pairing) :
    pairing ∈ tally.pairings.keys ↔ ∃ sighting ∈ sightings, sighting.pairing = pairing := by
  have seen : sentencesOf pairing sightings ≠ [] ↔ ∃ sighting ∈ sightings, sighting.pairing = pairing := by
    simp [sentencesOf, List.filter_eq_nil_iff]
  rw [Std.ExtTreeMap.mem_keys, Std.ExtTreeMap.mem_iff_isSome_getElem?, reflects.pairings, ← seen, attestationOf]
  split <;> simp_all

/-- The frequencies of the pairings with a lexeme at a place add up to its sightings there. -/
theorem Reflects.frequencyOf_eq (reflects : tally.Reflects limit sightings sentences)
    (countable : Countable sightings sentences) (place : Pairing → Lexeme) (lexeme : Lexeme) :
    tally.frequencyOf place lexeme = sightings.countP fun sighting => place sighting.pairing = lexeme := by
  have known (pairing : Pairing) (attestation : Attestation) (found : tally.pairings[pairing]? = some attestation) :=
    reflects.toNat_frequency countable found
  have distinct : (tally.pairings.keys.filter fun pairing => place pairing = lexeme).Nodup :=
    Std.ExtTreeMap.nodup_keys.filter _
  rw [frequencyOf, Table.total_filter_toList known fun pairing => place pairing = lexeme,
    total_map_countP Sighting.pairing sightings distinct]
  refine List.countP_congr fun sighting member => ?_
  rw [decide_eq_true_eq, decide_eq_true_eq, List.mem_filter, decide_eq_true_eq, and_iff_right_iff_imp]
  exact fun _ => (reflects.mem_pairings_iff _).mpr ⟨sighting, member, rfl⟩

theorem Reflects.tokens_eq_total (reflects : tally.Reflects limit sightings sentences)
    (countable : Countable sightings sentences) :
    tally.tokens.toNat = total (tally.lexemes.toList.map fun entry => entry.2.toNat) := by
  let times (lexeme : Lexeme) : Nat := (tokensOf sentences).countP fun token => token.lexeme = lexeme
  have few (lexeme : Lexeme) : times lexeme < UInt64.size := Nat.lt_of_le_of_lt List.countP_le_length countable.tokens
  have known (lexeme : Lexeme) (count : UInt64) (found : tally.lexemes[lexeme]? = some count) :
      count.toNat = times lexeme := by
    have same := toNat_getD_countOf (few lexeme)
    rwa [← reflects.lexemes, found, Option.getD_some] at same
  have all : total (tally.lexemes.toList.map fun entry => entry.2.toNat) = total (tally.lexemes.keys.map times) := by
    simpa only [List.filter_eq_self.mpr fun _ _ => rfl] using Table.total_filter_toList known fun _ => true
  rw [all, total_map_countP Token.lexeme _ Std.ExtTreeMap.nodup_keys, reflects.tokens,
    UInt64.toNat_ofNat_of_lt' countable.tokens, eq_comm, List.countP_eq_length]
  intro token member
  have seen : times token.lexeme ≠ 0 :=
    Nat.ne_of_gt (List.countP_pos_iff.mpr ⟨token, member, decide_eq_true rfl⟩)
  rw [decide_eq_true_eq, Std.ExtTreeMap.mem_keys, Std.ExtTreeMap.mem_iff_isSome_getElem?, reflects.lexemes, countOf,
    if_neg seen, Option.isSome_some]

/-- What is known of a pairing was seen. -/
theorem Reflects.sound (reflects : tally.Reflects limit sightings sentences)
    (countable : Countable sightings sentences) {pairing : Pairing} {attestation : Attestation}
    (known : tally.pairings[pairing]? = some attestation) : attestation.Sound limit := by
  have frequency := reflects.toNat_frequency countable known
  rw [← length_sentencesOf] at frequency
  rw [reflects.pairings] at known
  by_cases nothing : sentencesOf pairing sightings = []
  · rw [nothing, attestationOf, if_pos rfl] at known
    cases known
  · rw [attestationOf_of_ne_nil nothing] at known
    obtain rfl := Option.some.inj known
    refine ⟨⟨nodup_foldl_sample _ List.nodup_nil, length_foldl_sample_le _ (Nat.zero_le limit)⟩, ?_, ?_,
      fun room empty => ?_⟩
    · rw [frequency]
      exact List.length_pos_iff.mpr nothing
    · rw [frequency]
      simpa using length_foldl_sample_le_add limit (sentencesOf pairing sightings) []
    · obtain ⟨id, member⟩ := List.exists_mem_of_ne_nil _ nothing
      have kept : id ∈ (sentencesOf pairing sightings).foldl (sample limit) [] ∨ _ := mem_foldl_sample_or_full member []
      dsimp only at empty
      rw [empty] at kept
      exact kept.elim List.not_mem_nil fun full => Nat.not_lt_of_le full room

/-- Whatever the history of a tally is, its marginals are the sums of its joint counts as long as none runs over. -/
theorem MadeOf.conserved (made : tally.MadeOf limit sightings sentences)
    (countable : Countable sightings sentences) : tally.Conserved limit where
  heads := fun lexeme => by
    rw [made.reflects.frequencyOf_eq countable, made.reflects.toNat_heads countable]
  collocates := fun lexeme => by
    rw [made.reflects.frequencyOf_eq countable, made.reflects.toNat_collocates countable]
  tokens := made.reflects.tokens_eq_total countable
  attested := fun pairing attestation known => by
    refine ⟨made.reflects.sound countable known, fun none => ?_⟩
    have listed : pairing ∈ tally.pairings.keys := by
      rw [Std.ExtTreeMap.mem_keys, Std.ExtTreeMap.mem_iff_isSome_getElem?, known, Option.isSome_some]
    obtain ⟨sighting, member, -⟩ := (made.reflects.mem_pairings_iff pairing).mp listed
    have vacant : (tokensOf sentences).length = 0 := by
      rw [← UInt64.toNat_ofNat_of_lt' countable.tokens, ← made.reflects.tokens, none]
      rfl
    rw [made.sightings_eq_nil (List.length_eq_zero_iff.mp vacant)] at member
    exact List.not_mem_nil member

end Tally
end Collocation
