import Collocation.Corpus.Conllu
import Collocation.Proofs.Text.Lines

/-!
# Blank lines separate

A blank line ends whatever stands above it: what is read below depends on the place that the next block gets and
on nothing else.  Only the numbers of lines count from the start of the document.  A reader that is asked for one
item after another gives the items of the document and then has nothing more, since each item takes lines away.
-/

namespace Collocation
namespace Conllu

variable {start ordinal last : SentenceId} {number : Nat} {block : Option Block} {item : Item}
  {items : List Item} {lines : List Line}

/-! ## Documents further down -/

/-- The item of a document that begins a number of lines further down. -/
def Item.moved (distance : Nat) : Item → Item
  | sentence found => sentence found
  | malformed id line cause => malformed id (line + distance) cause
  | unreadable id line => unreadable id (line + distance)

namespace Block

/-- The block of a document that begins a number of lines further down. -/
def moved (distance : Nat) (block : Block) : Block :=
  { block with fault := block.fault.map fun fault => (fault.1 + distance, fault.2) }

theorem addEntry_moved (distance : Nat) (block : Block) (key value : String) :
    (block.moved distance).addEntry key value = (block.addEntry key value).moved distance := by
  unfold addEntry
  split <;> rfl

theorem add_moved (distance : Nat) (block : Block) (number : Nat) (line : Line) :
    (block.moved distance).add (number + distance) line = (block.add number line).moved distance := by
  cases line with
  | entry key value => exact addEntry_moved distance block key value
  | token token =>
      simp only [add, moved, Option.isSome_map]
      split <;> rfl
  | malformed cause =>
      simp only [add, moved, Option.isSome_map]
      split <;> rfl
  | blank | unreadable | nothing => rfl

theorem item_moved (distance : Nat) (block : Block) (ordinal : SentenceId) :
    (block.moved distance).item ordinal = (block.item ordinal).moved distance := by
  obtain ⟨sentId, text, gloss, tokens, fault⟩ := block
  cases fault <;> rfl

end Block

theorem itemsFrom_moved (distance : Nat) (ordinal : SentenceId) (number : Nat) (block : Option Block)
    (lines : List Line) :
    itemsFrom ordinal (number + distance) (block.map (Block.moved distance)) lines =
      ((itemsFrom ordinal number block lines).1.map (Item.moved distance),
        (itemsFrom ordinal number block lines).2) := by
  induction lines generalizing ordinal number block with
  | nil => cases block <;> simp [itemsFrom, Block.item_moved]
  | cons line lines induction =>
      have onwards (ordinal : SentenceId) := induction ordinal (number + 1) none
      have within (line : Line) := induction ordinal (number + 1) (some ((block.getD {}).add number line))
      simp only [Nat.add_right_comm number 1 distance, Option.map_none, Option.map_some,
        ← Block.add_moved] at onwards within
      have begun : (block.map (Block.moved distance)).getD {} = (block.getD {}).moved distance := by
        cases block <;> rfl
      cases line with
      | blank => cases block <;> simp [itemsFrom, onwards, Block.item_moved]
      | unreadable => simp [itemsFrom, onwards, Item.moved]
      | entry | nothing | token | malformed => simp only [itemsFrom, begun, within]

/-! ## Blank lines -/

/-- A blank line ends the block above it as the end of the document would. -/
theorem itemsFrom_append_blank (ordinal : SentenceId) (number : Nat) (block : Option Block)
    (above below : List Line) :
    itemsFrom ordinal number block (above ++ .blank :: below) =
      let first := itemsFrom ordinal number block above
      let second := itemsFrom first.2 (number + above.length + 1) none below
      (first.1 ++ second.1, second.2) := by
  induction above generalizing ordinal number block with
  | nil => cases block <;> rfl
  | cons line above induction =>
      have length : number + (above.length + 1) = number + 1 + above.length := by omega
      rw [List.cons_append, List.length_cons, length]
      cases line with
      | blank => cases block <;> simp only [itemsFrom, induction, List.cons_append]
      | unreadable => simp only [itemsFrom, induction, List.cons_append]
      | entry | nothing | token | malformed => simp only [itemsFrom, induction]

/-- A blank line together with the line feed that ends it. -/
def IsBlankLine (bytes : List UInt8) : Prop :=
  ∃ line, Text.lineFeed ∉ line ∧ lineOfBytes line = .blank ∧ bytes = line ++ [Text.lineFeed]

theorem IsBlankLine.byteLines_append {gap : List UInt8} (blank : IsBlankLine gap) (below : List UInt8) :
    (Text.byteLines (gap ++ below)).map lineOfBytes = .blank :: (Text.byteLines below).map lineOfBytes := by
  obtain ⟨line, free, role, rfl⟩ := blank
  rw [Text.byteLines_append_of_wholeLines (Text.wholeLines_append_lineFeed line), Text.byteLines_line free,
    List.map_append, List.map_singleton, role]
  rfl

/-- What stands below a blank line is read like a document of its own. -/
theorem read_append_blank {above gap : List UInt8} (whole : Text.WholeLines above) (blank : IsBlankLine gap)
    (start : SentenceId) (below : List UInt8) :
    read start (above ++ gap ++ below) =
      let first := read start above
      let second := read first.2 below
      (first.1 ++ second.1.map (Item.moved ((Text.byteLines above).length + 1)), second.2) := by
  have lines : (Text.byteLines (above ++ gap ++ below)).map lineOfBytes =
      (Text.byteLines above).map lineOfBytes ++ .blank :: (Text.byteLines below).map lineOfBytes := by
    rw [List.append_assoc, Text.byteLines_append_of_wholeLines whole, List.map_append, blank.byteLines_append]
  have later := itemsFrom_moved ((Text.byteLines above).length + 1) (read start above).2 1 none
    ((Text.byteLines below).map lineOfBytes)
  rw [Option.map_none, Nat.add_comm 1] at later
  simp only [read] at later ⊢
  rw [lines, itemsFrom_append_blank, List.length_map, Nat.add_assoc, Nat.add_comm 1]
  simp only [later]

/-! ## One item after another -/

/-- A reader between two items. -/
structure Reader where
  /-- The lines that are still to be read. -/
  lines : List Line
  /-- The number of the first of them. -/
  number : Nat
  /-- The place of the next block. -/
  ordinal : SentenceId

namespace Reader

/-- A reader at the start of a document. -/
def opened (start : SentenceId) (bytes : List UInt8) : Reader :=
  ⟨(Text.byteLines bytes).map lineOfBytes, 1, start⟩

/-- The item that the lines complete first, and the reader behind it; `block` is the block that the first line
continues, if any. -/
def nextFrom? (ordinal : SentenceId) (number : Nat) (block : Option Block) : List Line → Option (Item × Reader)
  | [] => block.map fun block => (block.item ordinal, ⟨[], number, ordinal + 1⟩)
  | .blank :: lines =>
      match block with
      | none => nextFrom? ordinal (number + 1) none lines
      | some block => some (block.item ordinal, ⟨lines, number + 1, ordinal + 1⟩)
  | .unreadable :: lines => some (.unreadable ordinal number, ⟨lines, number + 1, ordinal⟩)
  | line :: lines => nextFrom? ordinal (number + 1) (some ((block.getD {}).add number line)) lines

/-- The next item, if there is one, and the reader behind it. -/
def next? (reader : Reader) : Option (Item × Reader) :=
  nextFrom? reader.ordinal reader.number none reader.lines

/-- What a reader gives until it has nothing more, and the place of the block that would follow. -/
inductive Reads : Reader → List Item → SentenceId → Prop where
  /-- There is no further item. -/
  | ended {reader : Reader} (exhausted : reader.next? = none) : Reads reader [] reader.ordinal
  /-- There is a further item. -/
  | item {reader later : Reader} {item : Item} {items : List Item} {last : SentenceId}
      (found : reader.next? = some (item, later)) (others : Reads later items last) :
      Reads reader (item :: items) last

theorem itemsFrom_of_nextFrom?_eq_none (exhausted : nextFrom? ordinal number block lines = none) :
    itemsFrom ordinal number block lines = ([], ordinal) := by
  induction lines generalizing number block with
  | nil =>
      cases block with
      | none => rfl
      | some block => cases exhausted
  | cons line lines induction =>
      cases line with
      | blank =>
          cases block with
          | none => exact induction exhausted
          | some block => cases exhausted
      | unreadable => cases exhausted
      | entry | nothing | token | malformed => exact induction exhausted

theorem itemsFrom_of_nextFrom?_eq_some {later : Reader}
    (found : nextFrom? ordinal number block lines = some (item, later)) :
    itemsFrom ordinal number block lines =
        (item :: (itemsFrom later.ordinal later.number none later.lines).1,
          (itemsFrom later.ordinal later.number none later.lines).2) ∧
      later.lines.length < lines.length + block.isSome.toNat := by
  induction lines generalizing number block with
  | nil =>
      cases block with
      | none => cases found
      | some block =>
          cases found
          exact ⟨rfl, Nat.zero_lt_one⟩
  | cons line lines induction =>
      cases line with
      | blank =>
          cases block with
          | none => exact ⟨(induction found).1, Nat.lt_succ_of_lt (induction found).2⟩
          | some block =>
              cases found
              exact ⟨rfl, Nat.lt_add_right _ (Nat.lt_succ_self lines.length)⟩
      | unreadable =>
          cases found
          exact ⟨rfl, Nat.lt_add_right _ (Nat.lt_succ_self lines.length)⟩
      | entry | nothing | token | malformed =>
          have fewer := (induction found).2
          rw [Option.isSome_some, Bool.toNat_true] at fewer
          exact ⟨(induction found).1, by rw [List.length_cons]; omega⟩

theorem reads_itemsFrom (reader : Reader) :
    let result := itemsFrom reader.ordinal reader.number none reader.lines
    Reads reader result.1 result.2 ∧ result.1.length ≤ reader.lines.length := by
  induction length : reader.lines.length using Nat.strongRecOn generalizing reader with
  | ind count induction =>
      cases found : reader.next? with
      | none =>
          rw [itemsFrom_of_nextFrom?_eq_none found]
          exact ⟨.ended found, Nat.zero_le _⟩
      | some call =>
          obtain ⟨item, later⟩ := call
          obtain ⟨same, fewer⟩ := itemsFrom_of_nextFrom?_eq_some found
          have shorter : later.lines.length < count := length ▸ fewer
          obtain ⟨others, bounded⟩ := induction _ shorter later rfl
          rw [same]
          exact ⟨.item found others, Nat.succ_le_of_lt (Nat.lt_of_le_of_lt bounded shorter)⟩

end Reader

end Conllu
end Collocation
