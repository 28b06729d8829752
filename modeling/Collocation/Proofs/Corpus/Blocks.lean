import Collocation.Corpus.Conllu
import Collocation.Proofs.Text.Lines
import Mathlib.Data.List.Induction

/-!
# The blocks of a document

Every longest run of lines without a blank one is a block.  A block gives a sentence, or the first of its
malformed lines, and has the place after the block above it, whatever number its sentence has.  What it says is
read off its lines: the last value of each kind, and the tokens in order.
-/

namespace Collocation
namespace Conllu

/-- A line together with its number. -/
abbrev NumberedLine := Line × Nat

namespace Line

/-- The value that a comment gives to one of some keys. -/
def valueOf? (keys : List String) : Line → Option String
  | entry key value => if key ∈ keys then some value else none
  | _ => none

/-- The token of a line. -/
def token? : Line → Option Token
  | token found => some found
  | _ => none

/-- What is wrong with a line. -/
def cause? : Line → Option String
  | malformed cause => some cause
  | _ => none

end Line

/-! ## What a block says -/

/-- The last value that the comments of a block give to one of some keys. -/
def valueIn? (keys : List String) (lines : List NumberedLine) : Option String :=
  (lines.filterMap fun line => line.1.valueOf? keys).getLast?

/-- The first malformed line of a block: its number, and what is wrong with it. -/
def faultIn? (lines : List NumberedLine) : Option (Nat × String) :=
  lines.findSome? fun line => line.1.cause?.map fun cause => (line.2, cause)

/-- The tokens of a block. -/
def tokensIn (lines : List NumberedLine) : List Token :=
  lines.filterMap fun line => line.1.token?

/-- The number of a block's sentence: the one that a comment gives it if it is a number, else its place. -/
def idIn (lines : List NumberedLine) (place : Nat) : SentenceId :=
  ((valueIn? ["sent_id"] lines).bind fun text => Text.word? text.toList).getD (UInt64.ofNat place)

/-- The item of a block at its place: a malformed one if any of its lines is, else its sentence. -/
def itemOf (lines : List NumberedLine) (place : Nat) : Item :=
  match faultIn? lines with
  | some (number, cause) => .malformed (idIn lines place) number cause
  | none =>
      .sentence ⟨idIn lines place, tokensIn lines, valueIn? ["text"] lines,
        valueIn? ["translation", "text_en"] lines⟩

/-- The items of blocks that follow one another, the first at a place. -/
def itemsAt (place : Nat) (blocks : List (List NumberedLine)) : List Item :=
  (blocks.zipIdx place).map fun block => itemOf block.1 block.2

theorem itemsAt_cons (place : Nat) (block : List NumberedLine) (blocks : List (List NumberedLine)) :
    itemsAt place (block :: blocks) = itemOf block place :: itemsAt (place + 1) blocks := by
  rw [itemsAt, List.zipIdx_cons, List.map_cons]
  rfl

theorem itemsAt_append (place : Nat) (left right : List (List NumberedLine)) :
    itemsAt place (left ++ right) = itemsAt place left ++ itemsAt (place + left.length) right := by
  rw [itemsAt, List.zipIdx_append, List.map_append]
  rfl

namespace Block

/-- The block of some lines. -/
def ofLines (lines : List NumberedLine) : Block :=
  lines.foldl (fun block line => block.add line.2 line.1) {}

theorem ofLines_concat (lines : List NumberedLine) (line : NumberedLine) :
    ofLines (lines ++ [line]) = (ofLines lines).add line.2 line.1 := by
  rw [ofLines, List.foldl_append]
  rfl

theorem values_add (block : Block) (number : Nat) (line : Line) :
    (block.add number line).sentId = (line.valueOf? ["sent_id"]).or block.sentId ∧
      (block.add number line).text = (line.valueOf? ["text"]).or block.text ∧
      (block.add number line).gloss = (line.valueOf? ["translation", "text_en"]).or block.gloss := by
  cases line with
  | entry key value =>
      simp only [add, addEntry]
      split <;> simp_all [Line.valueOf?]
  | token token =>
      simp only [add]
      split <;> exact ⟨rfl, rfl, rfl⟩
  | malformed cause =>
      simp only [add]
      split <;> exact ⟨rfl, rfl, rfl⟩
  | blank | unreadable | nothing => exact ⟨rfl, rfl, rfl⟩

theorem fault_add (block : Block) (number : Nat) (line : Line) :
    (block.add number line).fault = block.fault.or (line.cause?.map fun cause => (number, cause)) := by
  cases line with
  | entry key value =>
      simp only [add, addEntry]
      split <;> simp [Line.cause?]
  | token token =>
      simp only [add]
      split <;> simp [Line.cause?]
  | malformed cause =>
      simp only [add]
      cases fault : block.fault <;> simp [Line.cause?, fault]
  | blank | unreadable | nothing => simp [add, Line.cause?]

theorem tokens_add {block : Block} (sound : block.fault = none) (number : Nat) (line : Line) :
    (block.add number line).tokens = block.tokens ++ line.token?.toList := by
  cases line with
  | entry key value =>
      simp only [add, addEntry]
      split <;> simp [Line.token?]
  | token token => simp [add, sound, Line.token?]
  | malformed cause => simp [add, sound, Line.token?]
  | blank | unreadable | nothing => simp [add, Line.token?]

theorem values_ofLines (lines : List NumberedLine) :
    (ofLines lines).sentId = valueIn? ["sent_id"] lines ∧
      (ofLines lines).text = valueIn? ["text"] lines ∧
      (ofLines lines).gloss = valueIn? ["translation", "text_en"] lines := by
  induction lines using List.reverseRecOn with
  | nil => exact ⟨rfl, rfl, rfl⟩
  | append_singleton lines line induction =>
      have last (keys : List String) :
          valueIn? keys (lines ++ [line]) = (line.1.valueOf? keys).or (valueIn? keys lines) := by
        rw [valueIn?, List.filterMap_append, List.getLast?_append, valueIn?]
        cases value : line.1.valueOf? keys <;> simp [value]
      obtain ⟨sentId, text, gloss⟩ := values_add (ofLines lines) line.2 line.1
      rw [ofLines_concat, last, last, last, ← induction.1, ← induction.2.1, ← induction.2.2]
      exact ⟨sentId, text, gloss⟩

theorem fault_ofLines (lines : List NumberedLine) : (ofLines lines).fault = faultIn? lines := by
  induction lines using List.reverseRecOn with
  | nil => rfl
  | append_singleton lines line induction =>
      rw [ofLines_concat, fault_add, induction, faultIn?, faultIn?, List.findSome?_append]
      simp

/-- Without a malformed line every token counts. -/
theorem tokens_ofLines {lines : List NumberedLine} (sound : faultIn? lines = none) :
    (ofLines lines).tokens = tokensIn lines := by
  induction lines using List.reverseRecOn with
  | nil => rfl
  | append_singleton lines line induction =>
      have earlier : faultIn? lines = none := by
        rw [faultIn?, List.findSome?_append, Option.or_eq_none_iff] at sound
        exact sound.1
      rw [ofLines_concat, tokens_add ((fault_ofLines lines).trans earlier), induction earlier, tokensIn, tokensIn,
        List.filterMap_append]
      cases token : line.1.token? <;> simp [token]

theorem item_ofLines (lines : List NumberedLine) (place : Nat) :
    (ofLines lines).item (UInt64.ofNat place) = itemOf lines place := by
  obtain ⟨sentId, text, gloss⟩ := values_ofLines lines
  have number : (ofLines lines).id (UInt64.ofNat place) = idIn lines place := by rw [id, sentId, idIn]
  rw [item, itemOf, number, fault_ofLines]
  cases sound : faultIn? lines with
  | some fault => rfl
  | none => rw [tokens_ofLines sound, text, gloss]

end Block

/-! ## What a document says -/

/-- The blocks of lines, the first of which has a number. -/
def blocksOf (number : Nat) (lines : List Line) : List (List NumberedLine) :=
  ((lines.zipIdx number).splitOnP fun line => line.1 = .blank).filter fun block => block ≠ []

/-- The blocks of lines that go on with a block already begun, if `pending` holds any lines of one. -/
def blocksBehind (pending : List NumberedLine) (number : Nat) (lines : List Line) : List (List NumberedLine) :=
  (((lines.zipIdx number).splitOnP fun line => line.1 = .blank).modifyHead (pending ++ ·)).filter
    fun block => block ≠ []

/-- A block of no lines is none. -/
def completed (pending : List NumberedLine) : List (List NumberedLine) :=
  if pending = [] then [] else [pending]

theorem blocksBehind_nil_left (number : Nat) (lines : List Line) :
    blocksBehind [] number lines = blocksOf number lines := by
  rw [blocksBehind, blocksOf]
  cases (lines.zipIdx number).splitOnP fun line => line.1 = .blank <;> rfl

theorem blocksBehind_nil_right (pending : List NumberedLine) (number : Nat) :
    blocksBehind pending number [] = completed pending := by
  by_cases empty : pending = [] <;> simp [blocksBehind, completed, empty]

theorem blocksBehind_blank (pending : List NumberedLine) (number : Nat) (lines : List Line) :
    blocksBehind pending number (.blank :: lines) = completed pending ++ blocksOf (number + 1) lines := by
  by_cases empty : pending = [] <;>
    simp [blocksBehind, blocksOf, completed, empty, List.zipIdx_cons, List.splitOnP_cons_eq_if_modifyHead]

theorem blocksBehind_cons (pending : List NumberedLine) (number : Nat) {line : Line} (solid : line ≠ .blank)
    (lines : List Line) :
    blocksBehind pending number (line :: lines) =
      blocksBehind (pending ++ [(line, number)]) (number + 1) lines := by
  have joined : (pending ++ ·) ∘ List.cons (line, number) = (pending ++ [(line, number)] ++ ·) :=
    funext fun block => (List.append_cons pending (line, number) block)
  rw [blocksBehind, List.zipIdx_cons, List.splitOnP_cons_eq_if_modifyHead, if_neg (by simpa using solid),
    List.modifyHead_modifyHead, joined, blocksBehind]

/-- Lines without a blank one go on with the block. -/
theorem blocksBehind_append (pending : List NumberedLine) (number : Nat) {upper : List Line}
    (solid : ∀ line ∈ upper, line ≠ .blank) (lower : List Line) :
    blocksBehind pending number (upper ++ lower) =
      blocksBehind (pending ++ upper.zipIdx number) (number + upper.length) lower := by
  induction upper generalizing pending number with
  | nil => rw [List.zipIdx_nil, List.append_nil, List.nil_append, List.length_nil, Nat.add_zero]
  | cons line upper induction =>
      obtain ⟨here, others⟩ := List.forall_mem_cons.mp solid
      rw [List.cons_append, blocksBehind_cons _ _ here, induction _ _ others, List.zipIdx_cons, List.length_cons,
        List.append_assoc, List.singleton_append, Nat.add_assoc, Nat.add_comm 1]

/-- Reading goes block by block.  `pending` holds the lines of a block that is already begun. -/
theorem itemsFrom_of_pending (place number : Nat) (pending : List NumberedLine) {lines : List Line}
    (readable : .unreadable ∉ lines) :
    itemsFrom (UInt64.ofNat place) number (if pending = [] then none else some (.ofLines pending)) lines =
      (itemsAt place (blocksBehind pending number lines),
        UInt64.ofNat (place + (blocksBehind pending number lines).length)) := by
  induction lines generalizing place number pending with
  | nil =>
      rw [blocksBehind_nil_right, completed]
      by_cases empty : pending = []
      · simp [itemsFrom, empty, itemsAt]
      · simp [itemsFrom, empty, itemsAt, Block.item_ofLines, UInt64.ofNat_add]
  | cons line lines induction =>
      rw [List.mem_cons, not_or] at readable
      obtain ⟨here, readable⟩ := readable
      have begun : (if pending = [] then none else some (Block.ofLines pending)).getD {} = .ofLines pending := by
        by_cases empty : pending = []
        · rw [if_pos empty, empty]
          rfl
        · rw [if_neg empty, Option.getD_some]
      have within := induction place (number + 1) (pending ++ [(line, number)]) readable
      simp only [List.append_eq_nil_iff, List.cons_ne_nil, and_false, if_false, Block.ofLines_concat] at within
      cases line with
      | blank =>
          have later (place : Nat) := induction place (number + 1) [] readable
          simp only [if_true, blocksBehind_nil_left] at later
          rw [blocksBehind_blank, completed]
          by_cases empty : pending = []
          · simpa [itemsFrom, empty] using later place
          · have next : UInt64.ofNat place + 1 = UInt64.ofNat (place + 1) := (UInt64.ofNat_add place 1).symm
            simp only [itemsFrom, if_neg empty, next, later, Block.item_ofLines, List.singleton_append,
              itemsAt_cons, List.length_cons, Nat.add_assoc, Nat.add_comm 1]
      | unreadable => exact absurd rfl here
      | entry | nothing | token | malformed =>
          rw [blocksBehind_cons _ _ (by simp), itemsFrom, begun]
          · exact within
          all_goals simp

/-- A document of texts gives an item for each of its blocks, from its place on. -/
theorem itemsFrom_of_readable (place number : Nat) {lines : List Line} (readable : .unreadable ∉ lines) :
    itemsFrom (UInt64.ofNat place) number none lines =
      (itemsAt place (blocksOf number lines), UInt64.ofNat (place + (blocksOf number lines).length)) := by
  have blocks := itemsFrom_of_pending place number [] readable
  rwa [if_pos rfl, blocksBehind_nil_left] at blocks

/-! ## Documents of texts -/

/-- The lines of a text. -/
def linesOf (text : String) : List Line :=
  (Text.byteLines (Text.encode text)).map lineOfBytes

theorem lineOfText_ne_unreadable (text : List Char) : lineOfText text ≠ .unreadable := by
  unfold lineOfText
  split
  · simp
  · split
    · unfold commentLine
      split <;> simp
    · unfold columnLine
      split
      · unfold columnsLine
        split <;> simp
      · simp

theorem unreadable_not_mem_linesOf (text : String) : .unreadable ∉ linesOf text := by
  intro member
  obtain ⟨line, inside, role⟩ := List.mem_map.mp member
  rw [← String.ofList_toList (s := text)] at inside
  obtain ⟨piece, rfl⟩ := Text.exists_text_of_mem_byteLines inside
  rw [lineOfBytes, Text.decode?_encode] at role
  exact lineOfText_ne_unreadable _ role

theorem read_encode (place : Nat) (text : String) :
    read (UInt64.ofNat place) (Text.encode text) =
      (itemsAt place (blocksOf 1 (linesOf text)),
        UInt64.ofNat (place + (blocksOf 1 (linesOf text)).length)) :=
  itemsFrom_of_readable place 1 (unreadable_not_mem_linesOf text)

end Conllu
end Collocation
