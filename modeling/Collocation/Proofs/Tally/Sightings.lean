import Collocation.Proofs.Tally.Append

/-!
# What a tally counts

A sighting is a pairing that was seen in a sentence.  `Tally.Reflects` says which tally some sightings and some counted
sentences have: every entry is a number of sightings or of tokens, there are no entries for what did not occur, and a
pairing has the first distinct sentences of its sightings.  Every way to make a tally keeps to this.
-/

namespace Collocation

/-- A pairing that was seen in a sentence. -/
structure Sighting where
  /-- The number of the sentence. -/
  id : SentenceId
  /-- The pairing. -/
  pairing : Pairing
  deriving DecidableEq

/-- The entry of what occurs a number of times. -/
def countOf (times : Nat) : Option UInt64 :=
  if times = 0 then none else some (UInt64.ofNat times)

/-- The entry of a pairing that was seen in some sentences, one after another. -/
def attestationOf (limit : Nat) (ids : List SentenceId) : Option Attestation :=
  if ids = [] then none else some ⟨UInt64.ofNat ids.length, ids.eraseDups.take limit⟩

/-- The sentences of the sightings of a pairing. -/
def sentencesOf (pairing : Pairing) (sightings : List Sighting) : List SentenceId :=
  (sightings.filter fun sighting => sighting.pairing = pairing).map Sighting.id

/-- The tokens of some sentences. -/
def tokensOf (sentences : List Sentence) : List Token :=
  sentences.flatMap Sentence.tokens

namespace Tally

/-- The tally of some sightings and some sentences. -/
structure Reflects (limit : Nat) (sightings : List Sighting) (sentences : List Sentence) (tally : Tally) : Prop where
  sampleLimit : tally.sampleLimit = limit
  heads : ∀ lexeme : Lexeme,
    tally.heads[lexeme]? = countOf (sightings.countP fun sighting => sighting.pairing.head = lexeme)
  collocates : ∀ lexeme : Lexeme,
    tally.collocates[lexeme]? = countOf (sightings.countP fun sighting => sighting.pairing.collocate = lexeme)
  pairings : ∀ pairing : Pairing, tally.pairings[pairing]? = attestationOf limit (sentencesOf pairing sightings)
  lexemes : ∀ lexeme : Lexeme,
    tally.lexemes[lexeme]? = countOf ((tokensOf sentences).countP fun token => token.lexeme = lexeme)
  tokens : tally.tokens = UInt64.ofNat (tokensOf sentences).length
  sentences : tally.sentences = UInt64.ofNat sentences.length

end Tally

/-! ## Entries -/

theorem getD_countOf (times : Nat) : (countOf times).getD 0 = UInt64.ofNat times := by
  rw [countOf]
  split
  · next none => rw [none]; rfl
  · rfl

theorem countOf_succ (times : Nat) : countOf (times + 1) = some ((countOf times).getD 0 + 1) := by
  rw [getD_countOf, countOf, if_neg (Nat.succ_ne_zero times), UInt64.ofNat_add]
  rfl

namespace Counts

variable {κ : Type} [Ord κ] [Std.TransOrd κ] [Std.LawfulEqOrd κ]

theorem getElem?_see_of_countOf [DecidableEq κ] {counts : Counts κ} {times : κ → Nat}
    (counted : ∀ key : κ, counts[key]? = countOf (times key)) (seen key : κ) :
    (counts.see seen)[key]? = countOf (times key + if seen = key then 1 else 0) := by
  rw [see]
  split
  · next same =>
      subst same
      rw [Table.getElem?_join_self, counted, countOf_succ]
      rfl
  · next apart => rw [Table.getElem?_join_of_ne increased counts apart, counted, Nat.add_zero]

theorem getElem?_foldl_see [DecidableEq κ] {α : Type} {counts : Counts κ} {times : κ → Nat}
    (counted : ∀ key : κ, counts[key]? = countOf (times key)) (view : α → κ) (list : List α) (key : κ) :
    (list.foldl (fun counts item => counts.see (view item)) counts)[key]? =
      countOf (times key + list.countP fun item => view item = key) := by
  induction list generalizing counts times with
  | nil => exact counted key
  | cons item list induction =>
      rw [List.foldl_cons, induction (getElem?_see_of_countOf counted (view item)), List.countP_cons]
      congr 1
      simp only [decide_eq_true_eq]
      omega

theorem getElem?_add {first second : Counts κ} {times more : κ → Nat}
    (counted : ∀ key : κ, first[key]? = countOf (times key))
    (others : ∀ key : κ, second[key]? = countOf (more key)) (key : κ) :
    (first.add second)[key]? = countOf (times key + more key) := by
  rw [add, Table.getElem?_combine, counted, others]
  by_cases none : more key = 0
  · rw [none, countOf, if_pos rfl, Nat.add_zero]
  · rw [show countOf (more key) = some (UInt64.ofNat (more key)) from if_neg none]
    dsimp only [increased]
    rw [getD_countOf, countOf, if_neg (by omega), UInt64.ofNat_add]

end Counts

theorem getD_attestationOf (limit : Nat) (ids : List SentenceId) :
    (attestationOf limit ids).getD {} = ⟨UInt64.ofNat ids.length, ids.foldl (sample limit) []⟩ := by
  rw [attestationOf, foldl_sample_nil]
  split
  · next none =>
      rw [none, List.eraseDups_nil, List.take_nil]
      rfl
  · rfl

theorem attestationOf_of_ne_nil {limit : Nat} {ids : List SentenceId} (seen : ids ≠ []) :
    attestationOf limit ids = some ⟨UInt64.ofNat ids.length, ids.foldl (sample limit) []⟩ := by
  rw [attestationOf, if_neg seen, foldl_sample_nil]

theorem see_attestationOf (limit : Nat) (ids : List SentenceId) (id : SentenceId) :
    some (Attestation.see limit (attestationOf limit ids) id) = attestationOf limit (ids ++ [id]) := by
  have seen : ids ++ [id] ≠ [] := List.append_ne_nil_of_right_ne_nil ids (List.cons_ne_nil id [])
  rw [Attestation.see, getD_attestationOf, attestationOf_of_ne_nil seen, List.foldl_append, List.length_append,
    UInt64.ofNat_add]
  rfl

theorem append_attestationOf (limit : Nat) (ids : List SentenceId) {later : List SentenceId} (seen : later ≠ []) :
    some (Attestation.append limit (attestationOf limit ids)
        ⟨UInt64.ofNat later.length, later.foldl (sample limit) []⟩) = attestationOf limit (ids ++ later) := by
  have joined := foldl_sample_foldl_sample limit List.nodup_nil later (ids.foldl (sample limit) [])
  rw [List.nil_append] at joined
  rw [attestationOf_of_ne_nil (List.append_ne_nil_of_right_ne_nil ids seen), Attestation.append, getD_attestationOf,
    joined, List.foldl_append, List.length_append, UInt64.ofNat_add]

/-! ## Steps -/

theorem sentencesOf_append (pairing : Pairing) (first second : List Sighting) :
    sentencesOf pairing (first ++ second) = sentencesOf pairing first ++ sentencesOf pairing second := by
  rw [sentencesOf, List.filter_append, List.map_append]
  rfl

theorem tokensOf_append (first second : List Sentence) :
    tokensOf (first ++ second) = tokensOf first ++ tokensOf second :=
  List.flatMap_append

namespace Tally

variable {limit : Nat} {sightings : List Sighting} {sentences : List Sentence} {tally : Tally}

theorem reflects_empty (limit : Nat) : (empty limit).Reflects limit [] [] where
  sampleLimit := rfl
  heads := fun _ => Std.ExtTreeMap.getElem?_empty
  collocates := fun _ => Std.ExtTreeMap.getElem?_empty
  pairings := fun _ => Std.ExtTreeMap.getElem?_empty
  lexemes := fun _ => Std.ExtTreeMap.getElem?_empty
  tokens := rfl
  sentences := rfl

theorem Reflects.noting (reflects : tally.Reflects limit sightings sentences) (skipped : List Skipped) :
    { tally with skipped }.Reflects limit sightings sentences :=
  { reflects with }

theorem Reflects.seePairing (reflects : tally.Reflects limit sightings sentences) (id : SentenceId)
    (pairing : Pairing) : (tally.seePairing id pairing).Reflects limit (sightings ++ [⟨id, pairing⟩]) sentences where
  sampleLimit := reflects.sampleLimit
  heads := fun lexeme => by
    rw [Tally.seePairing, Counts.getElem?_see_of_countOf reflects.heads, List.countP_append, List.countP_singleton]
    simp only [decide_eq_true_eq]
  collocates := fun lexeme => by
    rw [Tally.seePairing, Counts.getElem?_see_of_countOf reflects.collocates, List.countP_append,
      List.countP_singleton]
    simp only [decide_eq_true_eq]
  pairings := fun other => by
    rw [Tally.seePairing, reflects.sampleLimit, sentencesOf_append]
    by_cases same : pairing = other
    · subst same
      rw [Table.getElem?_join_self, reflects.pairings, see_attestationOf]
      simp [sentencesOf]
    · have apart : (pairing, id).1 ≠ other := same
      rw [Table.getElem?_join_of_ne _ _ apart, reflects.pairings]
      simp [sentencesOf, same]
  lexemes := reflects.lexemes
  tokens := reflects.tokens
  sentences := reflects.sentences

theorem Reflects.seeTokens (reflects : tally.Reflects limit sightings sentences) (sentence : Sentence) :
    (tally.seeTokens sentence.tokens).Reflects limit sightings (sentences ++ [sentence]) where
  sampleLimit := reflects.sampleLimit
  heads := reflects.heads
  collocates := reflects.collocates
  pairings := reflects.pairings
  lexemes := fun lexeme => by
    rw [Tally.seeTokens, Counts.getElem?_foldl_see reflects.lexemes, tokensOf_append, List.countP_append]
    simp [tokensOf]
  tokens := by
    rw [Tally.seeTokens, reflects.tokens, tokensOf_append, List.length_append, UInt64.ofNat_add]
    simp [tokensOf]
  sentences := by
    rw [Tally.seeTokens, reflects.sentences, List.length_append, UInt64.ofNat_add]
    rfl

theorem Reflects.foldl_seePairing (reflects : tally.Reflects limit sightings sentences) (id : SentenceId)
    (pairings : List Pairing) :
    (pairings.foldl (·.seePairing id) tally).Reflects limit (sightings ++ pairings.map (⟨id, ·⟩)) sentences := by
  induction pairings generalizing tally sightings with
  | nil =>
      rw [List.map_nil, List.append_nil]
      exact reflects
  | cons pairing pairings induction =>
      have others := induction (reflects.seePairing id pairing)
      rwa [List.append_assoc, List.singleton_append] at others

theorem Reflects.append {later : Tally} {more : List Sighting} {others : List Sentence}
    (reflects : tally.Reflects limit sightings sentences) (laterReflects : later.Reflects limit more others) :
    (tally ++ later).Reflects limit (sightings ++ more) (sentences ++ others) where
  sampleLimit := reflects.sampleLimit
  heads := fun lexeme => by
    rw [append_eq, Tally.append, Counts.getElem?_add reflects.heads laterReflects.heads, List.countP_append]
  collocates := fun lexeme => by
    rw [append_eq, Tally.append, Counts.getElem?_add reflects.collocates laterReflects.collocates,
      List.countP_append]
  pairings := fun pairing => by
    rw [append_eq, Tally.append, reflects.sampleLimit, Table.getElem?_combine, reflects.pairings,
      laterReflects.pairings, sentencesOf_append]
    by_cases nothing : sentencesOf pairing more = []
    · rw [nothing, List.append_nil, attestationOf, if_pos rfl]
    · rw [attestationOf_of_ne_nil nothing]
      exact append_attestationOf limit _ nothing
  lexemes := fun lexeme => by
    rw [append_eq, Tally.append, Counts.getElem?_add reflects.lexemes laterReflects.lexemes, tokensOf_append,
      List.countP_append]
  tokens := by
    rw [append_eq, Tally.append, reflects.tokens, laterReflects.tokens, tokensOf_append, List.length_append,
      UInt64.ofNat_add]
  sentences := by
    rw [append_eq, Tally.append, reflects.sentences, laterReflects.sentences, List.length_append, UInt64.ofNat_add]

end Tally

/-! ## Histories -/

namespace Tally

/-- A tally was made by counting sentences one after another, each with some pairings of its own, by joining tallies,
and by noting what is left out.  Its history is all that was seen.  No pairing is seen in a sentence without tokens. -/
inductive MadeOf (limit : Nat) : List Sighting → List Sentence → Tally → Prop where
  /-- Nothing was seen. -/
  | empty : MadeOf limit [] [] (.empty limit)
  /-- One more sentence is counted. -/
  | counted {sightings : List Sighting} {sentences : List Sentence} {tally : Tally}
      (made : MadeOf limit sightings sentences tally) (sentence : Sentence) {pairings : List Pairing}
      (grounded : sentence.tokens = [] → pairings = []) :
      MadeOf limit (sightings ++ pairings.map (⟨sentence.id, ·⟩)) (sentences ++ [sentence])
        (pairings.foldl (·.seePairing sentence.id) (tally.seeTokens sentence.tokens))
  /-- What is left out is noted. -/
  | noted {sightings : List Sighting} {sentences : List Sentence} {tally : Tally}
      (made : MadeOf limit sightings sentences tally) (skipped : List Skipped) :
      MadeOf limit sightings sentences { tally with skipped }
  /-- A later tally is joined to an earlier one. -/
  | joined {sightings more : List Sighting} {sentences others : List Sentence} {tally later : Tally}
      (made : MadeOf limit sightings sentences tally) (laterMade : MadeOf limit more others later) :
      MadeOf limit (sightings ++ more) (sentences ++ others) (tally ++ later)

variable {limit : Nat} {sightings : List Sighting} {sentences : List Sentence} {tally : Tally}

/-- However a tally was made, it is the tally of its history. -/
theorem MadeOf.reflects (made : tally.MadeOf limit sightings sentences) : tally.Reflects limit sightings sentences := by
  induction made with
  | empty => exact reflects_empty limit
  | counted _ sentence _ reflects => exact (reflects.seeTokens sentence).foldl_seePairing sentence.id _
  | noted _ skipped reflects => exact reflects.noting skipped
  | joined _ _ reflects laterReflects => exact reflects.append laterReflects

theorem MadeOf.sightings_eq_nil (made : tally.MadeOf limit sightings sentences) (vacant : tokensOf sentences = []) :
    sightings = [] := by
  induction made with
  | empty => rfl
  | noted _ _ induction => exact induction vacant
  | counted _ sentence grounded induction =>
      rw [tokensOf_append, List.append_eq_nil_iff] at vacant
      obtain ⟨before, here⟩ := vacant
      have tokenless : sentence.tokens = [] := by simpa [tokensOf] using here
      rw [induction before, grounded tokenless]
      rfl
  | joined _ _ induction laterInduction =>
      rw [tokensOf_append, List.append_eq_nil_iff] at vacant
      exact List.append_eq_nil_iff.mpr ⟨induction vacant.1, laterInduction vacant.2⟩

end Tally

/-! ## The order of sightings in a sentence -/

theorem Table.join_comm {κ α β : Type} [Ord κ] [Std.TransOrd κ] [Std.LawfulEqOrd κ] (make : Option α → β → α)
    (table : Table κ α) {first second : κ × β} (apart : first.1 ≠ second.1) :
    join make (join make table first) second = join make (join make table second) first := by
  refine Std.ExtTreeMap.ext_getElem? fun key => ?_
  by_cases here : first.1 = key
  · subst here
    rw [getElem?_join_of_ne _ _ apart.symm, getElem?_join_self, getElem?_join_self, getElem?_join_of_ne _ _ apart.symm]
  · rw [getElem?_join_of_ne _ (join make table second) here]
    by_cases there : second.1 = key
    · subst there
      rw [getElem?_join_self, getElem?_join_self, getElem?_join_of_ne _ _ here]
    · rw [getElem?_join_of_ne _ _ there, getElem?_join_of_ne _ _ there, getElem?_join_of_ne _ _ here]

theorem Counts.see_comm {κ : Type} [Ord κ] [Std.TransOrd κ] [Std.LawfulEqOrd κ] [DecidableEq κ] (counts : Counts κ)
    (first second : κ) : (counts.see first).see second = (counts.see second).see first := by
  by_cases same : first = second
  · rw [same]
  · exact Table.join_comm increased counts same

/-- Two pairings of one sentence can be seen in either order. -/
theorem Tally.seePairing_comm (tally : Tally) (id : SentenceId) (first second : Pairing) :
    (tally.seePairing id first).seePairing id second = (tally.seePairing id second).seePairing id first := by
  by_cases same : first = second
  · rw [same]
  · have apart : (first, id).1 ≠ (second, id).1 := same
    simp only [Tally.seePairing, Counts.see_comm _ first.head, Counts.see_comm _ first.collocate,
      Table.join_comm _ _ apart]

/-- The order in which the pairings of a sentence are seen makes no difference. -/
theorem Tally.foldl_seePairing_of_perm {pairings others : List Pairing} (permuted : pairings.Perm others)
    (id : SentenceId) (tally : Tally) :
    pairings.foldl (·.seePairing id) tally = others.foldl (·.seePairing id) tally :=
  permuted.foldl_eq' (fun first _ second _ tally => tally.seePairing_comm id first second) tally

end Collocation
