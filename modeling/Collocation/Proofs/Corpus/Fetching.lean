import Collocation.Corpus.Source
import Collocation.Proofs.Answers
import Collocation.Proofs.Corpus.Blocks
import Collocation.Proofs.Corpus.Separation

/-!
# Fetching from files

The blocks of all files are numbered together, whatever numbers their sentences have and whether they can be read
or not.  A selection takes each block that it means once: its sentence, or the reason why there is none.  So it
makes no difference whether the selection is applied while reading or afterwards, nor in which file a block stands.
-/

namespace Collocation
namespace Conllu

/-! ## What an item says -/

namespace Item

/-- The sentence of an item. -/
def sentence? : Item → Option Sentence
  | sentence found => some found
  | _ => none

/-- What is reported of an item that is no sentence. -/
def rejection? : Item → Option Skipped
  | malformed id line cause => some ⟨id, .malformed (lineMessage line cause)⟩
  | _ => none

/-- The item without the number of its line. -/
def unlined : Item → Item
  | sentence found => sentence found
  | malformed id _ cause => malformed id 0 cause
  | unreadable id _ => unreadable id 0

theorem unlined_moved (distance : Nat) (item : Item) : (item.moved distance).unlined = item.unlined := by
  cases item <;> rfl

end Item

theorem isUnreadable_itemOf (lines : List NumberedLine) (place : Nat) :
    Corpus.isUnreadable (itemOf lines place) = false := by
  unfold itemOf
  split <;> rfl

theorem not_any_isUnreadable_itemsAt (place : Nat) (blocks : List (List NumberedLine)) :
    (itemsAt place blocks).any Corpus.isUnreadable = false := by
  rw [itemsAt, List.any_map, List.any_eq_false]
  intro block member
  rw [Function.comp_apply, isUnreadable_itemOf]
  exact Bool.false_ne_true

end Conllu

open Conllu

/-! ## What a selection takes -/

namespace Fetched

/-- What a selection leaves. -/
def restrict (selection : Selection) (fetched : Fetched) : Fetched :=
  ⟨fetched.sentences.filter fun sentence => selection.contains sentence.id,
    fetched.rejected.filter fun skipped => selection.contains skipped.id⟩

variable (selection : Selection)

theorem append_eq (left right : Fetched) :
    left ++ right = ⟨left.sentences ++ right.sentences, left.rejected ++ right.rejected⟩ :=
  rfl

theorem ofItem_eq (item : Item) :
    ofItem selection item =
      if selection.contains item.id then ⟨item.sentence?.toList, item.rejection?.toList⟩ else {} := by
  unfold ofItem
  cases item <;> rfl

theorem ofItems_eq (items : List Item) :
    ofItems selection items =
      ⟨(items.filter fun item => selection.contains item.id).filterMap Item.sentence?,
        (items.filter fun item => selection.contains item.id).filterMap Item.rejection?⟩ := by
  induction items with
  | nil => rfl
  | cons item items induction =>
      rw [ofItems, ofItem_eq, induction, append_eq]
      simp only [List.filter_cons]
      by_cases selected : selection.contains item.id
      · rw [if_pos selected, if_pos selected]
        cases item <;> rfl
      · rw [if_neg selected, if_neg selected]
        rfl

theorem restrict_append (left right : Fetched) :
    (left ++ right).restrict selection = left.restrict selection ++ right.restrict selection := by
  rw [append_eq, append_eq, restrict, List.filter_append, List.filter_append]
  rfl

theorem restrict_ofItem (item : Item) : (ofItem .all item).restrict selection = ofItem selection item := by
  have every : Selection.all.contains item.id := rfl
  rw [ofItem_eq, ofItem_eq, if_pos every]
  by_cases selected : selection.contains item.id
  · rw [if_pos selected]
    cases item <;> simp_all [restrict, Item.sentence?, Item.rejection?, Item.id]
  · rw [if_neg selected]
    cases item <;> simp_all [restrict, Item.sentence?, Item.rejection?, Item.id]

/-- A selection may be applied afterwards. -/
theorem restrict_ofItems (items : List Item) :
    (ofItems .all items).restrict selection = ofItems selection items := by
  induction items with
  | nil => rfl
  | cons item items induction => rw [ofItems, ofItems, restrict_append, restrict_ofItem, induction]

theorem ofItem_unlined (item : Item) :
    (ofItem selection item.unlined).sentences = (ofItem selection item).sentences ∧
      (ofItem selection item.unlined).rejected.map Skipped.id =
        (ofItem selection item).rejected.map Skipped.id := by
  have same : item.unlined.id = item.id := by cases item <;> rfl
  rw [ofItem_eq, ofItem_eq, same]
  by_cases selected : selection.contains item.id
  · rw [if_pos selected, if_pos selected]
    cases item <;> exact ⟨rfl, rfl⟩
  · rw [if_neg selected, if_neg selected]
    exact ⟨rfl, rfl⟩

theorem ofItems_unlined (items : List Item) :
    (ofItems selection (items.map Item.unlined)).sentences = (ofItems selection items).sentences ∧
      (ofItems selection (items.map Item.unlined)).rejected.map Skipped.id =
        (ofItems selection items).rejected.map Skipped.id := by
  induction items with
  | nil => exact ⟨rfl, rfl⟩
  | cons item items induction =>
      obtain ⟨sentences, rejected⟩ := ofItem_unlined selection item
      simp only [List.map_cons, ofItems, append_eq, List.map_append, sentences, rejected, induction, and_self]

end Fetched

theorem perm_ids_of_readable {items : List Item} (readable : items.any Corpus.isUnreadable = false) :
    ((items.filterMap Item.sentence?).map Sentence.id ++
      (items.filterMap Item.rejection?).map Skipped.id).Perm (items.map Item.id) := by
  induction items with
  | nil => exact .nil
  | cons item items induction =>
      rw [List.any_cons, Bool.or_eq_false_iff] at readable
      have others := induction readable.2
      cases item with
      | sentence found => exact others.cons found.id
      | malformed id line cause => exact List.perm_middle.trans (others.cons id)
      | unreadable id line => cases readable.1

/-! ## Files one after another -/

namespace Corpus

variable {ordinal : SentenceId} {file first second : CorpusFile} {before after files : List CorpusFile}
  {items : List Item}

theorem itemsFrom_cons_eq_ok_iff {bytes : List UInt8} (holds : file.document? = some bytes) :
    itemsFrom ordinal (file :: files) = .ok items ↔
      (read ordinal bytes).1.any isUnreadable = false ∧
        ∃ later, itemsFrom (read ordinal bytes).2 files = .ok later ∧ items = (read ordinal bytes).1 ++ later := by
  rw [itemsFrom]
  simp only [holds]
  cases unreadable : (read ordinal bytes).1.any isUnreadable with
  | true => simp
  | false =>
      cases further : itemsFrom (read ordinal bytes).2 files with
      | error cause => simp [Except.map]
      | ok later => simp [Except.map, eq_comm]

theorem itemsFrom_of_texts (place : Nat) {texts : List String}
    (readable : files.map CorpusFile.document? = texts.map fun text => some (Text.encode text)) :
    itemsFrom (UInt64.ofNat place) files =
      .ok (itemsAt place (texts.flatMap fun text => blocksOf 1 (linesOf text))) := by
  induction texts generalizing files place with
  | nil =>
      rw [List.map_eq_nil_iff.mp readable]
      rfl
  | cons text texts induction =>
      obtain ⟨file, files, rfl, holds, readable⟩ := List.map_eq_cons_iff.mp readable
      rw [itemsFrom_cons_eq_ok_iff holds, read_encode]
      exact ⟨not_any_isUnreadable_itemsAt _ _, _, induction _ readable, by
        rw [List.flatMap_cons, itemsAt_append]⟩

/-- Two files that hold together what a third one holds, which is cut at a blank line.  The line may stay with
either of them, with both, or with none. -/
def IsCut (file first second : CorpusFile) : Prop :=
  ∃ above gap below, Text.WholeLines above ∧ IsBlankLine gap ∧
    file.document? = some (above ++ gap ++ below) ∧
    (first.document? = some above ∨ first.document? = some (above ++ gap)) ∧
    (second.document? = some below ∨ second.document? = some (gap ++ below))

/-- The items of a file that is cut in two are those of its parts, but for the numbers of lines. -/
theorem exists_reads_of_isCut (cut : IsCut file first second) (ordinal : SentenceId) :
    ∃ whole upper lower, file.document? = some whole ∧ first.document? = some upper ∧
      second.document? = some lower ∧
      (read ordinal whole).1.map Item.unlined =
        (read ordinal upper).1.map Item.unlined ++ (read (read ordinal upper).2 lower).1.map Item.unlined ∧
      (read ordinal whole).2 = (read (read ordinal upper).2 lower).2 := by
  obtain ⟨above, gap, below, whole, blank, holds, left, right⟩ := cut
  have erased (distance : Nat) (items : List Item) :
      (items.map (Item.moved distance)).map Item.unlined = items.map Item.unlined := by
    rw [List.map_map]
    exact List.map_congr_left fun item _ => Item.unlined_moved distance item
  have parts := read_append_blank whole blank ordinal below
  have upper : ∃ upper, first.document? = some upper ∧ read ordinal upper = read ordinal above := by
    rcases left with left | left
    · exact ⟨_, left, rfl⟩
    · have ended := read_append_blank whole blank ordinal []
      rw [List.append_nil] at ended
      exact ⟨_, left, ended.trans (Prod.ext (List.append_nil _) rfl)⟩
  have lower (ordinal : SentenceId) : ∃ lower, second.document? = some lower ∧
      (read ordinal lower).1.map Item.unlined = (read ordinal below).1.map Item.unlined ∧
      (read ordinal lower).2 = (read ordinal below).2 := by
    rcases right with right | right
    · exact ⟨_, right, rfl, rfl⟩
    · have begun := read_append_blank (.inl rfl) blank ordinal below
      rw [List.nil_append] at begun
      refine ⟨_, right, ?_, by rw [begun]; rfl⟩
      rw [begun, List.map_append, erased]
      rfl
  obtain ⟨upper, leftHolds, upperSame⟩ := upper
  obtain ⟨lower, rightHolds, lowerSame, lowerLast⟩ := lower (read ordinal upper).2
  refine ⟨_, upper, lower, holds, leftHolds, rightHolds, ?_, ?_⟩
  · rw [parts, lowerSame, upperSame, List.map_append, erased]
  · rw [parts, lowerLast, upperSame]

theorem any_isUnreadable_unlined (items : List Item) :
    (items.map Item.unlined).any isUnreadable = items.any isUnreadable := by
  rw [List.any_map]
  refine congrArg items.any (funext fun item => ?_)
  cases item <;> rfl

theorem exists_itemsFrom_of_isCut (cut : IsCut file first second)
    (found : itemsFrom ordinal (before ++ file :: after) = .ok items) :
    ∃ others, itemsFrom ordinal (before ++ first :: second :: after) = .ok others ∧
      others.map Item.unlined = items.map Item.unlined := by
  induction before generalizing ordinal items with
  | nil =>
      obtain ⟨whole, upper, lower, holds, left, right, same, last⟩ := exists_reads_of_isCut cut ordinal
      obtain ⟨readable, later, further, rfl⟩ := (itemsFrom_cons_eq_ok_iff holds).mp found
      rw [← any_isUnreadable_unlined, same, List.any_append, Bool.or_eq_false_iff, any_isUnreadable_unlined,
        any_isUnreadable_unlined] at readable
      rw [last] at further
      refine ⟨_, (itemsFrom_cons_eq_ok_iff left).mpr ⟨readable.1, _, (itemsFrom_cons_eq_ok_iff right).mpr
        ⟨readable.2, _, further, rfl⟩, rfl⟩, ?_⟩
      rw [List.map_append, List.map_append, List.map_append, same, List.append_assoc]
  | cons earlier before induction =>
      rw [List.cons_append] at found ⊢
      cases holds : earlier.document? with
      | none =>
          rw [itemsFrom] at found
          simp only [holds] at found
          cases found
      | some bytes =>
          obtain ⟨readable, later, further, rfl⟩ := (itemsFrom_cons_eq_ok_iff holds).mp found
          obtain ⟨others, further, same⟩ := induction further
          refine ⟨_, (itemsFrom_cons_eq_ok_iff holds).mpr ⟨readable, _, further, rfl⟩, ?_⟩
          rw [List.map_append, List.map_append, same]

theorem fetch_eq_of_itemsFrom {corpus : Corpus} (nonempty : corpus.files ≠ []) (selection : Selection)
    (found : itemsFrom 1 corpus.files = .ok items) :
    corpus.fetch selection = .ok (Fetched.ofItems selection items) := by
  rw [fetch, if_neg (by simpa using nonempty), found]
  rfl

/-- From readable files a selection takes, in order, the sentences of the blocks that it means and the reasons why
the others of them have none.  The blocks of all files are numbered together from one.  Nothing changes if
everything is fetched first and the selection is applied afterwards, and nothing but the numbers of lines if a file
is cut in two at a blank line. -/
theorem fetch_blocks_of_texts {corpus : Corpus} {texts : List String} (nonempty : corpus.files ≠ [])
    (readable : corpus.files.map CorpusFile.document? = texts.map fun text => some (Text.encode text))
    (selection : Selection) :
    ∃ fetched, corpus.fetch selection = .ok fetched ∧
      (let blocks := texts.flatMap fun text => blocksOf 1 (linesOf text)
       let chosen := (itemsAt 1 blocks).filter fun item => selection.contains item.id
       fetched.sentences = chosen.filterMap Item.sentence? ∧
         fetched.rejected = chosen.filterMap Item.rejection? ∧
         (fetched.sentences.map Sentence.id ++ fetched.rejected.map Skipped.id).Perm (chosen.map Item.id)) ∧
      (∃ all, corpus.fetch .all = .ok all ∧ fetched = all.restrict selection) ∧
      ∀ before file after first second, corpus.files = before ++ file :: after → IsCut file first second →
        ∃ parts, Corpus.fetch ⟨before ++ first :: second :: after⟩ selection = .ok parts ∧
          parts.sentences = fetched.sentences ∧
          parts.rejected.map Skipped.id = fetched.rejected.map Skipped.id := by
  have found := itemsFrom_of_texts 1 readable
  have taken := Fetched.ofItems_eq selection (itemsAt 1 (texts.flatMap fun text => blocksOf 1 (linesOf text)))
  refine ⟨_, fetch_eq_of_itemsFrom nonempty selection found, ?_, ?_, ?_⟩
  · rw [taken]
    refine ⟨rfl, rfl, perm_ids_of_readable ?_⟩
    refine List.any_eq_false.mpr fun item member => ?_
    exact List.any_eq_false.mp (not_any_isUnreadable_itemsAt _ _) item (List.mem_filter.mp member).1
  · exact ⟨_, fetch_eq_of_itemsFrom nonempty .all found, (Fetched.restrict_ofItems selection _).symm⟩
  · intro before file after first second files cut
    rw [files] at found
    obtain ⟨others, further, same⟩ := exists_itemsFrom_of_isCut cut found
    have given : Corpus.fetch ⟨before ++ first :: second :: after⟩ selection = .ok (.ofItems selection others) :=
      fetch_eq_of_itemsFrom (by simp) selection further
    obtain ⟨partSentences, partRejected⟩ := Fetched.ofItems_unlined selection others
    obtain ⟨sentences, rejected⟩ := Fetched.ofItems_unlined selection
      (itemsAt 1 (texts.flatMap fun text => blocksOf 1 (linesOf text)))
    rw [same] at partSentences partRejected
    exact ⟨_, given, partSentences.symm.trans sentences, partRejected.symm.trans rejected⟩

/-- The number that a comment gives may be the place of another block; a selection means both of them.  The second
file is compressed. -/
theorem fetch_blocks_of_shared_number :
    let upper := "1\tCats\tcat\tNOUN\t_\t_\t_\t_\t_\t_\n\n1\tbroken\n"
    let lower := "# sent_id = 2\n1\tDogs\tdog\tNOUN\t_\tNumber=Plur\t_\t_\t_\t_\n"
    let packed : List UInt8 :=
      [31, 139, 8, 0, 0, 0, 0, 0, 0, 255, 83, 86, 40, 78, 205, 43, 137, 207, 76, 81, 176, 85, 48, 226, 50, 228, 116,
        201, 79, 47, 230, 76, 201, 79, 231, 244, 243, 15, 245, 227, 140, 231, 244, 43, 205, 77, 74, 45, 178, 13, 200,
        41, 45, 2, 242, 192, 144, 11, 0, 164, 224, 207, 83, 52, 0, 0, 0]
    let corpus : Corpus := ⟨[⟨"upper.conllu", some (Text.encode upper)⟩, ⟨"lower.conllu.gz", some packed⟩]⟩
    corpus.files ≠ [] ∧
      corpus.files.map CorpusFile.document? = [upper, lower].map (fun text => some (Text.encode text)) ∧
      ∃ fetched, corpus.fetch (.ids [2]) = .ok fetched ∧
        fetched.sentences = [⟨2, [⟨"Dogs", "dog", "NOUN", .ofText "Number=Plur"⟩], none, none⟩] ∧
        fetched.rejected =
          [⟨2, .malformed "parse error at line 3: expected 10 fields, found 2"⟩] := by
  intro upper lower packed corpus
  have nonempty : corpus.files ≠ [] := List.cons_ne_nil _ _
  have readable :
      corpus.files.map CorpusFile.document? = [upper, lower].map fun text => some (Text.encode text) := by
    decide +kernel
  obtain ⟨fetched, found, ⟨sentences, rejected, -⟩, -⟩ := fetch_blocks_of_texts nonempty readable (.ids [2])
  refine ⟨nonempty, readable, fetched, found, ?_, ?_⟩
  · rw [sentences]
    decide +kernel
  · rw [rejected]
    decide +kernel

end Corpus
end Collocation
