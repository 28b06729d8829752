import Collocation.Proofs.Score.Records
import Collocation.Score.Sketch

/-!
# The order of a sketch

Two records of one headword have the same rank only if they have the same key.  So records with distinct keys have one
order only, and a sketch depends on which records there are, not on how they are listed.
-/

namespace Collocation

namespace Double

/-! ## The total order of doubles -/

/-- Whether the sign bit of a double is set. -/
def isNegative (value : Double) : Bool :=
  0x8000000000000000 ≤ value.bits.toNat

/-- The bits of a double without its sign bit, as a number. -/
def magnitude (value : Double) : Nat :=
  value.bits.toNat % 0x8000000000000000

/-- The total order of doubles: what has a set sign bit is below what has none; without it a smaller magnitude is below
a larger one, and with it a larger magnitude is below a smaller one.  Undefined values have the largest magnitudes. -/
def TotallyBelow (left right : Double) : Prop :=
  match left.isNegative, right.isNegative with
  | true, false => True
  | false, true => False
  | false, false => left.magnitude < right.magnitude
  | true, true => right.magnitude < left.magnitude

theorem totalPlace_eq (value : Double) :
    value.totalPlace = if value.isNegative then -1 - (value.magnitude : Int) else value.magnitude := by
  have bound := value.bits.toNat_lt
  unfold totalPlace isNegative magnitude
  generalize value.bits.toNat = bits at bound
  simp only [decide_eq_true_eq]
  split <;> split <;> omega

theorem totalPlace_lt_iff {left right : Double} : left.totalPlace < right.totalPlace ↔ left.TotallyBelow right := by
  rw [totalPlace_eq, totalPlace_eq, TotallyBelow]
  cases left.isNegative <;> cases right.isNegative <;>
    simp only [Bool.false_eq_true, if_false, if_true, iff_true, iff_false] <;> omega

instance (left right : Double) : Decidable (left.TotallyBelow right) :=
  decidable_of_iff _ totalPlace_lt_iff

/-- Every double has its own place. -/
theorem totalPlace_eq_iff {left right : Double} : left.totalPlace = right.totalPlace ↔ left = right := by
  have leftBound := left.bits.toNat_lt
  have rightBound := right.bits.toNat_lt
  rw [Double.ext_iff, ← UInt64.toNat_inj]
  unfold totalPlace
  generalize left.bits.toNat = leftBits at leftBound
  generalize right.bits.toNat = rightBits at rightBound
  dsimp only
  split <;> split <;> omega

/-- An undefined value stands below everything else if its sign bit is set, and above everything else otherwise. -/
example :
    TotallyBelow ⟨0xfff8000000000000⟩ ⟨0xfff0000000000000⟩ ∧
      TotallyBelow ⟨0x7ff0000000000000⟩ ⟨0x7ff8000000000000⟩ := by
  decide +kernel

end Double

/-! ## Lexicographic orders -/

section Lexicographic

variable {α κ : Type} {left right : α}

theorem compareLex_eq_lt_iff {first second : α → α → Ordering} :
    compareLex first second left right = .lt ↔
      first left right = .lt ∨ first left right = .eq ∧ second left right = .lt :=
  Ordering.then_eq_lt

theorem compareOn_eq_iff [Ord κ] [Std.LawfulEqOrd κ] {view : α → κ} :
    compareOn view left right = .eq ↔ view left = view right := by
  rw [compareOn, Std.LawfulEqCmp.compare_eq_iff_eq]

theorem compareOn_int_eq_lt_iff {view : α → Int} : compareOn view left right = .lt ↔ view left < view right :=
  Std.compare_eq_lt

theorem compareOn_string_eq_lt_iff {view : α → String} :
    compareOn view left right = .lt ↔ view left < view right :=
  compareOfLessAndEq_eq_lt

end Lexicographic

/-! ## Ranks -/

namespace Record

/-- A record stands before another one: first comes the higher logDice in the total order of doubles, then the higher
frequency, then what is first by the lemma of the collocate, its part of speech, the relation, and the part of speech of
the head. -/
def Precedes (first second : Record) : Prop :=
  let score := first.association.logDice
  let other := second.association.logDice
  other.TotallyBelow score ∨ score = other ∧
    (second.frequency < first.frequency ∨ first.frequency = second.frequency ∧
      (first.pairing.collocate.base < second.pairing.collocate.base ∨
        first.pairing.collocate.base = second.pairing.collocate.base ∧
      (first.pairing.collocate.tag < second.pairing.collocate.tag ∨
        first.pairing.collocate.tag = second.pairing.collocate.tag ∧
      (first.pairing.relation < second.pairing.relation ∨ first.pairing.relation = second.pairing.relation ∧
        first.pairing.head.tag < second.pairing.head.tag))))

instance : Std.TransCmp rankOrder :=
  inferInstanceAs (Std.TransCmp (compareLex _ (compareLex _ (compareLex _ (compareLex _ (compareLex _ _))))))

variable {first second : Record}

theorem rankOrder_eq_lt_iff : first.rankOrder second = .lt ↔ first.Precedes second := by
  unfold rankOrder Precedes
  simp only [compareLex_eq_lt_iff, compareOn_int_eq_lt_iff, compareOn_string_eq_lt_iff, compareOn_eq_iff,
    Int.neg_lt_neg_iff, Int.neg_inj, Double.totalPlace_lt_iff, Double.totalPlace_eq_iff, Int.ofNat_lt, Int.ofNat_inj,
    ← UInt64.lt_iff_toNat_lt, UInt64.toNat_inj]

theorem key_eq_of_rankOrder (same : first.headword = second.headword) (equal : first.rankOrder second = .eq) :
    first.key = second.key := by
  unfold rankOrder at equal
  simp only [compareLex_eq_eq, compareOn_eq_iff] at equal
  obtain ⟨-, -, base, tag, relation, headTag⟩ := equal
  simp only [key, base, tag, relation, headTag, Prod.mk.injEq, and_true]
  exact same

theorem isLE_or_isLE (first second : Record) :
    ((first.rankOrder second).isLE || (second.rankOrder first).isLE) = true := by
  have turned : second.rankOrder first = (first.rankOrder second).swap := Std.OrientedCmp.eq_swap
  rw [turned, Ordering.isLE_swap]
  cases first.rankOrder second <;> decide

theorem Precedes.asymm (before : first.Precedes second) : ¬ second.Precedes first := by
  rw [← rankOrder_eq_lt_iff] at before ⊢
  exact Std.OrientedCmp.not_lt_of_lt before

end Record

namespace Query

/-- A record is one of those that a query asks for: it has the headword, and whatever else the query names. -/
structure Asks (query : Query) (record : Record) : Prop where
  headword : record.headword = query.headword
  tag : ∀ tag ∈ query.tag, record.pairing.head.tag = tag
  relation : ∀ relation ∈ query.relation, record.pairing.relation = relation
  minScore : ∀ least ∈ query.minScore, least ≤ record.association.logDice.toFloat

theorem accepts_iff {query : Query} {record : Record} : query.accepts record = true ↔ query.Asks record := by
  simp only [accepts, Bool.and_eq_true, beq_iff_eq, Option.all_eq_true, decide_eq_true_eq]
  exact ⟨fun ⟨⟨⟨headword, tag⟩, relation⟩, least⟩ => ⟨headword, tag, relation, least⟩,
    fun asks => ⟨⟨⟨asks.headword, asks.tag⟩, asks.relation⟩, asks.minScore⟩⟩

/-- All records that a query asks for, in order. -/
def ranked (query : Query) (records : List Record) : List Record :=
  (records.filter query.accepts).mergeSort fun left right => (left.rankOrder right).isLE

variable {query : Query} {records : List Record}

theorem rank_eq_take (query : Query) (records : List Record) :
    query.rank records = (query.ranked records).take query.limit :=
  rfl

theorem perm_ranked (query : Query) (records : List Record) :
    (query.ranked records).Perm (records.filter query.accepts) :=
  List.mergeSort_perm _ _

/-- Records with distinct keys are ranked without a tie. -/
theorem pairwise_ranked (distinct : (records.map Record.key).Nodup) :
    (query.ranked records).Pairwise Record.Precedes := by
  have sorted : (query.ranked records).Pairwise fun left right => (left.rankOrder right).isLE = true :=
    List.pairwise_mergeSort (fun _ _ _ => Std.TransCmp.isLE_trans) Record.isLE_or_isLE _
  have apart : (query.ranked records).Pairwise fun left right => left.key ≠ right.key := by
    have chosen : ((records.filter query.accepts).map Record.key).Nodup :=
      distinct.sublist (List.filter_sublist.map Record.key)
    exact List.pairwise_map.mp (((query.perm_ranked records).map Record.key).nodup_iff.mpr chosen)
  refine (sorted.and apart).imp_of_mem fun {left right} leftInside rightInside both => ?_
  obtain ⟨ordered, apart⟩ := both
  have headword {record : Record} (inside : record ∈ query.ranked records) : record.headword = query.headword :=
    (accepts_iff.mp (List.mem_filter.mp ((query.perm_ranked records).mem_iff.mp inside)).2).headword
  have untied : left.rankOrder right ≠ .eq := fun equal =>
    apart (Record.key_eq_of_rankOrder ((headword leftInside).trans (headword rightInside).symm) equal)
  rw [← Record.rankOrder_eq_lt_iff]
  cases order : left.rankOrder right with
  | lt => rfl
  | eq => exact absurd order untied
  | gt => simp [order] at ordered

/-- Records with distinct keys are ranked in one way, however they are listed. -/
theorem ranked_of_perm (distinct : (records.map Record.key).Nodup) {others : List Record}
    (permuted : others.Perm records) : query.ranked others = query.ranked records := by
  have same : (query.ranked others).Perm (query.ranked records) :=
    (query.perm_ranked others).trans ((permuted.filter _).trans (query.perm_ranked records).symm)
  have alsoDistinct : (others.map Record.key).Nodup := (permuted.map Record.key).nodup_iff.mpr distinct
  exact same.eq_of_pairwise (fun _ _ _ _ before after => absurd after before.asymm)
    (pairwise_ranked alsoDistinct) (pairwise_ranked distinct)

theorem rank_filter_headword (query : Query) (records : List Record) :
    query.rank (records.filter fun record => record.headword = query.headword) = query.rank records := by
  have both : (fun record => query.accepts record && decide (record.headword = query.headword)) = query.accepts := by
    funext record
    rw [Bool.eq_iff_iff, Bool.and_eq_true, decide_eq_true_eq, and_iff_left_iff_imp]
    exact fun accepted => (accepts_iff.mp accepted).headword
  rw [rank_eq_take, rank_eq_take, ranked, List.filter_filter, both, ranked]

end Query
end Collocation
