import Collocation.Proofs.Corpus.Rows

/-!
# Written documents

A sentence is written as a block of lines: its comments and its tokens, with other comments, ranges of tokens and
empty nodes anywhere among them.  Blank lines stand between blocks.  However a document is written, reading it
gives its sentences back, each under the number that it has or else under its place.
-/

namespace Collocation
namespace Conllu

/-! ## Sentences and documents -/

/-- What is written of a sentence. -/
structure Content where
  /-- The text of its number. -/
  sentId : Option String
  /-- Its plain text. -/
  text : Option String
  /-- Its text in another language. -/
  gloss : Option String
  /-- Its tokens. -/
  tokens : List Token

namespace Content

/-- The sentence, at a place of the document. -/
def sentence (content : Content) (place : Nat) : Sentence :=
  ⟨(content.sentId.bind fun text => Text.word? text.toList).getD (UInt64.ofNat place), content.tokens,
    content.text, content.gloss⟩

/-- Whether a sentence can be written at all. -/
structure IsPlain (content : Content) : Prop where
  /-- The text of its number stands in a comment. -/
  sentId : ∀ value ∈ content.sentId, IsValue value
  /-- Its text stands in a comment. -/
  text : ∀ value ∈ content.text, IsValue value
  /-- Its text in another language stands in a comment. -/
  gloss : ∀ value ∈ content.gloss, IsValue value
  /-- Its tokens stand in columns. -/
  tokens : ∀ token ∈ content.tokens, IsPlainToken token

instance (content : Content) : Decidable content.IsPlain :=
  decidable_of_iff
    ((∀ value ∈ content.sentId, IsValue value) ∧ (∀ value ∈ content.text, IsValue value) ∧
      (∀ value ∈ content.gloss, IsValue value) ∧ ∀ token ∈ content.tokens, IsPlainToken token)
    ⟨fun ⟨sentId, text, gloss, tokens⟩ => ⟨sentId, text, gloss, tokens⟩,
      fun plain => ⟨plain.sentId, plain.text, plain.gloss, plain.tokens⟩⟩

/-- Lines that say what is written of a sentence, with its tokens in order, and otherwise nothing that counts. -/
structure IsGivenBy (content : Content) (lines : List Line) : Prop where
  /-- There is a line. -/
  nonempty : lines ≠ []
  /-- The number is given once, if at all. -/
  sentId : lines.filterMap (Line.valueOf? ["sent_id"]) = content.sentId.toList
  /-- The text is given once, if at all. -/
  text : lines.filterMap (Line.valueOf? ["text"]) = content.text.toList
  /-- The text in another language is given once, if at all. -/
  gloss : lines.filterMap (Line.valueOf? ["translation", "text_en"]) = content.gloss.toList
  /-- The tokens are given in order. -/
  tokens : lines.filterMap Line.token? = content.tokens

end Content

/-- Lines of a document: a block for every sentence, and at least one blank line between two blocks. -/
inductive Layout : List Content → List (List Char) → Prop where
  /-- Nothing further. -/
  | empty : Layout [] []
  /-- A further blank line. -/
  | blank {contents : List Content} {row : List Char} {rows : List (List Char)} (blank : Text.allBlank row)
      (line : '\n' ∉ row) (further : Layout contents rows) : Layout contents (row :: rows)
  /-- The last block, if no blank line follows it. -/
  | last {content : Content} {lines : List Line} {block : List (List Char)} (given : content.IsGivenBy lines)
      (written : List.Forall₂ Row lines block) : Layout [content] block
  /-- A block and the blank line that ends it. -/
  | block {content : Content} {contents : List Content} {lines : List Line} {block rows : List (List Char)}
      {row : List Char} (given : content.IsGivenBy lines) (written : List.Forall₂ Row lines block)
      (blank : Text.allBlank row) (line : '\n' ∉ row) (further : Layout contents rows) :
      Layout (content :: contents) (block ++ row :: rows)

/-- A text of lines, each with a line feed behind it, perhaps behind a carriage return; the last may lack both. -/
inductive Ended : List (List Char) → List Char → Prop where
  /-- No lines. -/
  | empty : Ended [] []
  /-- A last line that nothing ends. -/
  | cut {row : List Char} (nonempty : row ≠ []) : Ended [row] row
  /-- A line that a line feed ends. -/
  | lineFeed {row : List Char} {rows : List (List Char)} {text : List Char} (further : Ended rows text) :
      Ended (row :: rows) (row ++ '\n' :: text)
  /-- A line that a carriage return and a line feed end. -/
  | carriageReturn {row : List Char} {rows : List (List Char)} {text : List Char} (further : Ended rows text) :
      Ended (row :: rows) (row ++ '\r' :: '\n' :: text)

/-- The texts of a document with some sentences. -/
def IsDocument (contents : List Content) (text : List Char) : Prop :=
  ∃ rows, Layout contents rows ∧ Ended rows text

/-! ## Reading what was written -/

theorem lineOfBytes_encode (row : List Char) {ends : List Char} (gone : ∀ char ∈ ends, Text.isLineEnd char = true) :
    lineOfBytes (Text.encode (String.ofList (row ++ ends))) = lineOfText (Text.withoutLineEnd row) := by
  rw [lineOfBytes, Text.decode?_encode]
  simp only [String.toList_ofList, Text.withoutLineEnd_append gone]

theorem lineOfBytes_encode_row (row : List Char) :
    lineOfBytes (Text.encode (String.ofList row)) = lineOfText (Text.withoutLineEnd row) := by
  rw [← lineOfBytes_encode row (List.forall_mem_nil _), List.append_nil]

theorem lineOfText_of_allBlank {row : List Char} (blank : Text.allBlank row) :
    lineOfText (Text.withoutLineEnd row) = .blank := by
  have rest : Text.allBlank (Text.withoutLineEnd row) := List.all_eq_true.mpr fun char member =>
    List.all_eq_true.mp blank char (Text.mem_of_mem_withoutLineEnd member)
  unfold lineOfText
  rw [if_pos rest]

/-- Whichever way they end, the lines of a text are read one by one. -/
theorem Ended.lines {rows : List (List Char)} {text : List Char} (ended : Ended rows text)
    (free : ∀ row ∈ rows, '\n' ∉ row) :
    (Text.byteLines (Text.encode (String.ofList text))).map lineOfBytes =
      rows.map fun row => lineOfText (Text.withoutLineEnd row) := by
  induction ended with
  | empty =>
      rw [Text.encode_ofList]
      rfl
  | @cut row nonempty =>
      rw [Text.byteLines_encode_last (free _ List.mem_cons_self) nonempty, List.map_singleton, lineOfBytes_encode_row]
      rfl
  | @lineFeed row rows text further induction =>
      obtain ⟨here, others⟩ := List.forall_mem_cons.mp free
      rw [Text.byteLines_encode_line here, List.map_cons, induction others, lineOfBytes_encode_row]
      rfl
  | @carriageReturn row rows text further induction =>
      obtain ⟨here, others⟩ := List.forall_mem_cons.mp free
      have apart : '\n' ∉ row ++ ['\r'] := by simp [here]
      have returned : ∀ char ∈ ['\r'], Text.isLineEnd char = true := List.forall_mem_singleton.mpr rfl
      have whole := lineOfBytes_encode row returned
      rw [List.append_cons, Text.byteLines_encode_line apart, List.map_cons, induction others, whole]
      rfl

theorem filterMap_zipIdx {α : Type} (read : Line → Option α) (lines : List Line) (number : Nat) :
    (lines.zipIdx number).filterMap (fun line => read line.1) = lines.filterMap read := by
  have same : lines.filterMap read = ((lines.zipIdx number).map Prod.fst).filterMap read := by
    rw [List.zipIdx_map_fst]
  rw [same, List.filterMap_map]
  rfl

/-- The lines of a block give its sentence. -/
theorem Content.IsGivenBy.itemOf {content : Content} {lines : List Line} (given : content.IsGivenBy lines)
    (sound : ∀ line ∈ lines, line.cause? = none) (number place : Nat) :
    itemOf (lines.zipIdx number) place = .sentence (content.sentence place) := by
  have value (keys : List String) :
      valueIn? keys (lines.zipIdx number) = (lines.filterMap (Line.valueOf? keys)).getLast? := by
    rw [valueIn?, filterMap_zipIdx]
  have last (value : Option String) : value.toList.getLast? = value := by cases value <;> rfl
  have faultless : faultIn? (lines.zipIdx number) = none := by
    refine List.findSome?_eq_none_iff.mpr fun line member => ?_
    rw [sound line.1 (List.fst_mem_of_mem_zipIdx member)]
    rfl
  rw [Conllu.itemOf, faultless, idIn, tokensIn, filterMap_zipIdx, value, value, value, given.sentId, given.text,
    given.gloss, given.tokens, last, last, last]
  rfl

theorem rows_of_forall₂ {lines : List Line} {block : List (List Char)} (written : List.Forall₂ Row lines block) :
    block.map (fun row => lineOfText (Text.withoutLineEnd row)) = lines ∧
      (∀ row ∈ block, '\n' ∉ row) ∧ ∀ line ∈ lines, line ≠ .blank ∧ line.cause? = none := by
  induction written with
  | nil => exact ⟨rfl, List.forall_mem_nil _, List.forall_mem_nil _⟩
  | cons row written induction =>
      obtain ⟨same, free, solid⟩ := induction
      exact ⟨by rw [List.map_cons, same, row.reads.2.2], List.forall_mem_cons.mpr ⟨row.reads.2.1, free⟩,
        List.forall_mem_cons.mpr ⟨row.solid, solid⟩⟩

theorem Layout.line {contents : List Content} {rows : List (List Char)} (layout : Layout contents rows) :
    ∀ row ∈ rows, '\n' ∉ row := by
  induction layout with
  | empty => exact List.forall_mem_nil _
  | blank blank line further induction => exact List.forall_mem_cons.mpr ⟨line, induction⟩
  | last given written => exact (rows_of_forall₂ written).2.1
  | block given written blank line further induction =>
      exact List.forall_mem_append.mpr
        ⟨(rows_of_forall₂ written).2.1, List.forall_mem_cons.mpr ⟨line, induction⟩⟩

/-- The items of contents that follow one another, the first at a place. -/
def sentencesAt (place : Nat) (contents : List Content) : List Item :=
  (contents.zipIdx place).map fun content => .sentence (content.1.sentence content.2)

/-- The blocks of a document give its sentences, whatever stands between and around them. -/
theorem Layout.items {contents : List Content} {rows : List (List Char)} (layout : Layout contents rows)
    (number place : Nat) :
    let blocks := blocksOf number (rows.map fun row => lineOfText (Text.withoutLineEnd row))
    itemsAt place blocks = sentencesAt place contents ∧ blocks.length = contents.length := by
  induction layout generalizing number place with
  | empty => exact ⟨rfl, rfl⟩
  | blank blank line further induction =>
      have later := induction (number + 1) place
      simp only [List.map_cons, lineOfText_of_allBlank blank]
      rw [← blocksBehind_nil_left, blocksBehind_blank]
      exact later
  | @last content lines block given written =>
      obtain ⟨same, -, solid⟩ := rows_of_forall₂ written
      have single : blocksOf number lines = [lines.zipIdx number] := by
        have whole := blocksBehind_append [] number (fun line member => (solid line member).1) []
        have some : lines.zipIdx number ≠ [] := fun empty => given.nonempty (List.zipIdx_eq_nil_iff.mp empty)
        rwa [List.append_nil, blocksBehind_nil_left, List.nil_append, blocksBehind_nil_right, completed,
          if_neg some] at whole
      simp only [same, single]
      refine ⟨?_, rfl⟩
      rw [itemsAt_cons, given.itemOf fun line member => (solid line member).2]
      rfl
  | @block content contents lines block rows row given written blank line further induction =>
      obtain ⟨same, -, solid⟩ := rows_of_forall₂ written
      have first : blocksOf number (lines ++ .blank :: rows.map fun row => lineOfText (Text.withoutLineEnd row)) =
          lines.zipIdx number :: blocksOf (number + lines.length + 1)
            (rows.map fun row => lineOfText (Text.withoutLineEnd row)) := by
        have some : lines.zipIdx number ≠ [] := fun empty => given.nonempty (List.zipIdx_eq_nil_iff.mp empty)
        rw [← blocksBehind_nil_left, blocksBehind_append _ _ fun line member => (solid line member).1,
          List.nil_append, blocksBehind_blank, completed, if_neg some]
        rfl
      obtain ⟨items, length⟩ := induction (number + lines.length + 1) (place + 1)
      simp only [List.map_append, List.map_cons, same, lineOfText_of_allBlank blank, first]
      refine ⟨?_, by rw [List.length_cons, List.length_cons, length]⟩
      rw [itemsAt_cons, items, given.itemOf fun line member => (solid line member).2]
      rfl

/-- Reading a document gives its sentences. -/
theorem read_of_isDocument {contents : List Content} {text : List Char} (document : IsDocument contents text)
    (place : Nat) :
    read (UInt64.ofNat place) (Text.encode (String.ofList text)) =
      (sentencesAt place contents, UInt64.ofNat (place + contents.length)) := by
  obtain ⟨rows, layout, ended⟩ := document
  obtain ⟨items, length⟩ := layout.items 1 place
  have lines := ended.lines layout.line
  have readable : .unreadable ∉ rows.map fun row => lineOfText (Text.withoutLineEnd row) := by
    rintro member
    obtain ⟨row, -, role⟩ := List.mem_map.mp member
    exact lineOfText_ne_unreadable _ role
  rw [read, lines, itemsFrom_of_readable place 1 readable, items, length]

/-! ## Every plain sentence can be written -/

theorem exists_forall₂_row {lines : List Line} (writable : ∀ line ∈ lines, ∃ row, Row line row) :
    ∃ block, List.Forall₂ Row lines block := by
  induction lines with
  | nil => exact ⟨[], .nil⟩
  | cons line lines induction =>
      obtain ⟨⟨row, here⟩, others⟩ := List.forall_mem_cons.mp writable
      obtain ⟨block, written⟩ := induction others
      exact ⟨row :: block, .cons here written⟩

theorem Content.IsPlain.exists_block {content : Content} (plain : content.IsPlain) :
    ∃ lines block, content.IsGivenBy lines ∧ List.Forall₂ Row lines block := by
  obtain ⟨sentId, text, gloss, tokens⟩ := content
  obtain ⟨sentIdPlain, textPlain, glossPlain, tokensPlain⟩ := plain
  refine ⟨.nothing :: (sentId.toList.map (Line.entry "sent_id") ++ text.toList.map (Line.entry "text") ++
    gloss.toList.map (Line.entry "translation") ++ tokens.map Line.token), ?_⟩
  have writable : ∀ line ∈ Line.nothing :: (sentId.toList.map (Line.entry "sent_id") ++
      text.toList.map (Line.entry "text") ++ gloss.toList.map (Line.entry "translation") ++
      tokens.map Line.token), ∃ row, Row line row := by
    simp only [List.forall_mem_cons, List.forall_mem_append, List.forall_mem_map, Option.mem_toList]
    refine ⟨⟨_, .remark List.not_mem_nil List.not_mem_nil⟩, ⟨⟨fun value member => ?_, fun value member => ?_⟩,
      fun value member => ?_⟩, fun token member => exists_row_token (tokensPlain token member)⟩
    · exact exists_row_entry ⟨by decide, by decide⟩ (by decide) (sentIdPlain value member)
    · exact exists_row_entry ⟨by decide, by decide⟩ (by decide) (textPlain value member)
    · exact exists_row_entry ⟨by decide, by decide⟩ (by decide) (glossPlain value member)
  obtain ⟨block, written⟩ := exists_forall₂_row writable
  have noValue (keys : List String) : (tokens.map Line.token).filterMap (Line.valueOf? keys) = [] := by
    rw [List.filterMap_map]
    exact List.filterMap_eq_nil_iff.mpr fun token member => rfl
  have allTokens : (tokens.map Line.token).filterMap Line.token? = tokens := by
    rw [List.filterMap_map]
    exact List.filterMap_some
  refine ⟨block, ⟨List.cons_ne_nil _ _, ?_, ?_, ?_, ?_⟩, written⟩
  all_goals
    simp only [List.filterMap_cons, List.filterMap_append, noValue, allTokens]
    cases sentId <;> cases text <;> cases gloss <;> simp [List.filterMap_cons, Line.valueOf?, Line.token?]

theorem exists_layout {contents : List Content} (plain : ∀ content ∈ contents, content.IsPlain) :
    ∃ rows, Layout contents rows := by
  induction contents with
  | nil => exact ⟨[], .empty⟩
  | cons content contents induction =>
      obtain ⟨here, others⟩ := List.forall_mem_cons.mp plain
      obtain ⟨lines, block, given, written⟩ := here.exists_block
      obtain ⟨rows, further⟩ := induction others
      exact ⟨block ++ [] :: rows, .block given written rfl List.not_mem_nil further⟩

theorem exists_ended (rows : List (List Char)) : ∃ text, Ended rows text := by
  induction rows with
  | nil => exact ⟨[], .empty⟩
  | cons row rows induction =>
      obtain ⟨text, further⟩ := induction
      exact ⟨row ++ '\n' :: text, .lineFeed further⟩

/-! ## Recovery -/

end Conllu
end Collocation
