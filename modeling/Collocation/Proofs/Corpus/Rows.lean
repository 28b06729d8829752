import Collocation.Proofs.Corpus.Blocks
import Collocation.Proofs.Table.Dictionary
import Collocation.Proofs.Text.Fields
import Mathlib.Data.List.Forall2

/-!
# Written lines

A comment may have blanks around its key and its value, the features of a token may stand in any order, and lines for
ranges of tokens and for empty nodes say nothing.  `Row.reads`: a written line is read as what it says.
-/

namespace Collocation
namespace Conllu

/-! ## Ways to write a line -/

/-- A text that may stand in a column. -/
def IsColumn (text : List Char) : Prop :=
  '\t' ∉ text ∧ '\n' ∉ text

instance (text : List Char) : Decidable (IsColumn text) :=
  inferInstanceAs (Decidable (_ ∧ _))

/-- The digits of a number of 64 bits. -/
structure IsNumber (digits : List Char) : Prop where
  /-- There is a digit. -/
  nonempty : digits ≠ []
  /-- There is nothing else. -/
  only : ∀ digit ∈ digits, digit.isDigit = true
  /-- The number is not too large. -/
  bounded : Text.decimalValue digits < UInt64.size

instance (digits : List Char) : Decidable (IsNumber digits) :=
  decidable_of_iff
    (digits ≠ [] ∧ digits.all Char.isDigit = true ∧ Text.decimalValue digits < UInt64.size)
    ⟨fun ⟨nonempty, only, bounded⟩ => ⟨nonempty, List.all_eq_true.mp only, bounded⟩,
      fun number => ⟨number.nonempty, List.all_eq_true.mpr number.only, number.bounded⟩⟩

/-- A text with blanks around it. -/
def IsPadded (text written : List Char) : Prop :=
  ∃ left right, Text.allBlank left ∧ Text.allBlank right ∧ '\n' ∉ left ∧ '\n' ∉ right ∧
    written = left ++ text ++ right

/-- A text without blanks at its ends, on one line. -/
def IsValue (text : String) : Prop :=
  Text.trim text.toList = text.toList ∧ '\n' ∉ text.toList

instance (text : String) : Decidable (IsValue text) :=
  inferInstanceAs (Decidable (_ ∧ _))

/-- A feature that can be told from its neighbours. -/
structure IsFeature (feature : String × String) : Prop where
  /-- The key stands in a column. -/
  keyColumn : IsColumn feature.1.toList
  /-- The value stands in a column. -/
  valueColumn : IsColumn feature.2.toList
  /-- The key ends at the first equals sign. -/
  keyFree : '=' ∉ feature.1.toList ∧ '|' ∉ feature.1.toList
  /-- The value ends at the next bar. -/
  valueFree : '|' ∉ feature.2.toList

instance (feature : String × String) : Decidable (IsFeature feature) :=
  decidable_of_iff
    (IsColumn feature.1.toList ∧ IsColumn feature.2.toList ∧
      ('=' ∉ feature.1.toList ∧ '|' ∉ feature.1.toList) ∧ '|' ∉ feature.2.toList)
    ⟨fun ⟨keyColumn, valueColumn, keyFree, valueFree⟩ => ⟨keyColumn, valueColumn, keyFree, valueFree⟩,
      fun plain => ⟨plain.keyColumn, plain.valueColumn, plain.keyFree, plain.valueFree⟩⟩

/-- A feature as it is written. -/
def featureText (feature : String × String) : List Char :=
  feature.1.toList ++ '=' :: feature.2.toList

/-- Features as they are written, in any order; an underscore stands for none. -/
def IsFeatures (features : Features) (written : List Char) : Prop :=
  features.entries = [] ∧ written = ['_'] ∨
    ∃ entries, entries ≠ [] ∧ entries.Perm features.entries ∧
      written = Text.joinFields '|' (entries.map featureText)

/-- A token whose texts may stand in columns. -/
structure IsPlainToken (token : Token) : Prop where
  /-- The form stands in a column. -/
  form : IsColumn token.form.toList
  /-- The lemma stands in a column. -/
  base : IsColumn token.base.toList
  /-- The part of speech stands in a column. -/
  tag : IsColumn token.tag.toList
  /-- The features can be told apart. -/
  features : ∀ feature ∈ token.features.entries, IsFeature feature

instance (token : Token) : Decidable (IsPlainToken token) :=
  decidable_of_iff
    (IsColumn token.form.toList ∧ IsColumn token.base.toList ∧ IsColumn token.tag.toList ∧
      ∀ feature ∈ token.features.entries, IsFeature feature)
    ⟨fun ⟨form, base, tag, features⟩ => ⟨form, base, tag, features⟩,
      fun plain => ⟨plain.form, plain.base, plain.tag, plain.features⟩⟩

/-- The ways to write what a line of a block says. -/
inductive Row : Line → List Char → Prop where
  /-- A comment that gives a value to a key. -/
  | entry {key value : String} {left right : List Char} (plainKey : IsValue key) (keyFree : '=' ∉ key.toList)
      (plainValue : IsValue value) (keyWritten : IsPadded key.toList left)
      (valueWritten : IsPadded value.toList right) : Row (.entry key value) ('#' :: left ++ '=' :: right)
  /-- A comment that gives no value. -/
  | remark {text : List Char} (free : '=' ∉ text) (line : '\n' ∉ text) : Row .nothing ('#' :: text)
  /-- A token under an ID above zero. -/
  | token {token : Token} {id features special head relation links other : List Char} (number : IsNumber id)
      (positive : 0 < Text.decimalValue id) (plain : IsPlainToken token)
      (featuresWritten : IsFeatures token.features features)
      (columns : ∀ column ∈ [special, head, relation, links, other], IsColumn column) :
      Row (.token token) (Text.joinFields '\t' [id, token.form.toList, token.base.toList, token.tag.toList,
        special, features, head, relation, links, other])
  /-- A range of tokens, or an empty node. -/
  | passed {left right form base tag special features head relation links other : List Char} {mark : Char}
      (marked : mark = '-' ∨ mark = '.') (leftNumber : IsNumber left) (rightNumber : IsNumber right)
      (columns : ∀ column ∈ [form, base, tag, special, features, head, relation, links, other],
        IsColumn column) :
      Row .nothing (Text.joinFields '\t' [left ++ mark :: right, form, base, tag, special, features, head,
        relation, links, other])

/-! ## Numbers and columns -/

theorem leadingNumber?_of_isNumber {digits : List Char} (number : IsNumber digits) :
    leadingNumber? digits = some (Text.decimalValue digits) := by
  obtain ⟨nonempty, only, bounded⟩ := number
  have whole : digits.takeWhile Char.isDigit = digits := by
    rw [← List.append_nil digits, List.takeWhile_append_of_pos only, List.takeWhile_nil]
  have unsigned (sign : Char) (solid : sign.isDigit = false) (rest : List Char) : digits ≠ sign :: rest := by
    rintro rfl
    rw [only sign List.mem_cons_self] at solid
    cases solid
  unfold leadingNumber?
  split
  next read =>
    split at read
    · exact absurd rfl (unsigned '-' (by decide) _)
    · exact absurd rfl (unsigned '+' (by decide) _)
    · cases read
      simp [whole, nonempty, bounded]

theorem IsNumber.not_mem {digits : List Char} (number : IsNumber digits) {char : Char}
    (solid : char.isDigit = false) : char ∉ digits := by
  intro member
  rw [number.only char member] at solid
  cases solid

theorem IsNumber.isColumn {digits : List Char} (number : IsNumber digits) : IsColumn digits :=
  ⟨number.not_mem (by decide), number.not_mem (by decide)⟩

theorem idKind?_of_isNumber {id : List Char} (number : IsNumber id) (positive : 0 < Text.decimalValue id) :
    idKind? id = some .word := by
  have all : id.all Char.isDigit := List.all_eq_true.mpr number.only
  rw [idKind?, Text.cut?_eq_none (number.not_mem (by decide)), Text.cut?_eq_none (number.not_mem (by decide)),
    leadingNumber?_of_isNumber number]
  simp [all, positive]

theorem idKind?_of_mark {left right : List Char} {mark : Char} (marked : mark = '-' ∨ mark = '.')
    (leftNumber : IsNumber left) (rightNumber : IsNumber right) :
    idKind? (left ++ mark :: right) = some .other := by
  rcases marked with rfl | rfl
  · rw [idKind?, Text.cut?_append right (leftNumber.not_mem (by decide))]
    simp [leadingNumber?_of_isNumber leftNumber, leadingNumber?_of_isNumber rightNumber]
  · have apart : '-' ∉ left ++ '.' :: right := by
      rw [List.mem_append, List.mem_cons, not_or, not_or]
      exact ⟨leftNumber.not_mem (by decide), by decide, rightNumber.not_mem (by decide)⟩
    rw [idKind?, Text.cut?_eq_none apart, Text.cut?_append right (leftNumber.not_mem (by decide))]
    simp [leadingNumber?_of_isNumber leftNumber, leadingNumber?_of_isNumber rightNumber]

theorem IsColumn.append {left right : List Char} (leftColumn : IsColumn left) (rightColumn : IsColumn right) :
    IsColumn (left ++ right) :=
  ⟨fun member => (List.mem_append.mp member).elim leftColumn.1 rightColumn.1,
    fun member => (List.mem_append.mp member).elim leftColumn.2 rightColumn.2⟩

theorem IsColumn.cons {char : Char} {text : List Char} (solid : char ≠ '\t' ∧ char ≠ '\n')
    (column : IsColumn text) : IsColumn (char :: text) :=
  ⟨List.not_mem_cons_of_ne_of_not_mem solid.1.symm column.1,
    List.not_mem_cons_of_ne_of_not_mem solid.2.symm column.2⟩

theorem isColumn_joinFields {separator : Char} (solid : separator ≠ '\t' ∧ separator ≠ '\n')
    {pieces : List (List Char)} (columns : ∀ piece ∈ pieces, IsColumn piece) :
    IsColumn (Text.joinFields separator pieces) :=
  ⟨Text.not_mem_joinFields solid.1.symm fun piece member => (columns piece member).1,
    Text.not_mem_joinFields solid.2.symm fun piece member => (columns piece member).2⟩

/-! ## Features -/

theorem IsFeature.pairOf? {feature : String × String} (plain : IsFeature feature) :
    Features.pairOf? (featureText feature) = some feature := by
  rw [Features.pairOf?, featureText, Text.cut?_append _ plain.keyFree.1]
  simp [String.ofList_toList]

theorem IsFeature.isColumn {feature : String × String} (plain : IsFeature feature) :
    IsColumn (featureText feature) :=
  plain.keyColumn.append (plain.valueColumn.cons (by decide))

theorem IsFeature.not_mem {feature : String × String} (plain : IsFeature feature) :
    '|' ∉ featureText feature := by
  rw [featureText, List.mem_append, List.mem_cons, not_or, not_or]
  exact ⟨plain.keyFree.2, by decide, plain.valueFree⟩

theorem filterMap_pairOf? {entries : List (String × String)} (plain : ∀ feature ∈ entries, IsFeature feature) :
    (entries.map featureText).filterMap Features.pairOf? = entries := by
  induction entries with
  | nil => rfl
  | cons feature entries induction =>
      obtain ⟨here, others⟩ := List.forall_mem_cons.mp plain
      rw [List.map_cons, List.filterMap_cons, here.pairOf?, induction others]

variable {features : Features} {written : List Char}

theorem isColumn_of_isFeatures (plain : ∀ feature ∈ features.entries, IsFeature feature)
    (writing : IsFeatures features written) : IsColumn written := by
  rcases writing with ⟨-, rfl⟩ | ⟨entries, -, same, rfl⟩
  · exact ⟨by decide, by decide⟩
  · refine isColumn_joinFields (by decide) fun piece member => ?_
    obtain ⟨feature, inside, rfl⟩ := List.mem_map.mp member
    exact (plain feature (same.mem_iff.mp inside)).isColumn

theorem ofText_of_isFeatures (plain : ∀ feature ∈ features.entries, IsFeature feature)
    (writing : IsFeatures features written) : Features.ofText (String.ofList written) = features := by
  rcases writing with ⟨empty, rfl⟩ | ⟨entries, nonempty, same, rfl⟩
  · refine Dictionary.eq_of_perm ?_
    rw [empty]
    exact .refl _
  · have each : ∀ feature ∈ entries, IsFeature feature := fun feature member =>
      plain feature (same.mem_iff.mp member)
    have pieces : Text.fields '|' (Text.joinFields '|' (entries.map featureText)) = entries.map featureText := by
      refine Text.fields_joinFields (fun empty => nonempty (List.map_eq_nil_iff.mp empty)) fun piece member => ?_
      obtain ⟨feature, inside, rfl⟩ := List.mem_map.mp member
      exact (each feature inside).not_mem
    have apart (text : List Char) (free : '=' ∉ text) (bar : '|' ∉ text) :
        Text.joinFields '|' (entries.map featureText) ≠ text := by
      intro same
      rw [same, Text.fields_eq_singleton bar] at pieces
      obtain ⟨feature, others, rfl, made, -⟩ := List.map_eq_cons_iff.mp pieces.symm
      exact free (made ▸ List.mem_append_right _ List.mem_cons_self)
    have solid : ¬(String.ofList (Text.joinFields '|' (entries.map featureText)) = "_" ∨
        String.ofList (Text.joinFields '|' (entries.map featureText)) = "") := by
      rintro (same | same)
      · refine apart ['_'] (by decide) (by decide) ?_
        rw [← String.toList_ofList (l := Text.joinFields '|' (entries.map featureText)), same]
        rfl
      · refine apart [] (by decide) (by decide) ?_
        rw [← String.toList_ofList (l := Text.joinFields '|' (entries.map featureText)), same]
        rfl
    rw [Features.ofText, if_neg solid, String.toList_ofList, pieces, filterMap_pairOf? each]
    exact Dictionary.ofList_of_perm same

/-! ## What a written line says -/

theorem IsPadded.not_mem {text written : List Char} (padded : IsPadded text written) {char : Char}
    (solid : Text.isBlank char = false) (free : char ∉ text) : char ∉ written := by
  obtain ⟨left, right, leftBlank, rightBlank, -, -, rfl⟩ := padded
  have outside {blanks : List Char} (blank : Text.allBlank blanks) : char ∉ blanks := by
    intro member
    rw [List.all_eq_true.mp blank char member] at solid
    cases solid
  simp [outside leftBlank, outside rightBlank, free]

theorem IsPadded.line {text written : List Char} (padded : IsPadded text written) (free : '\n' ∉ text) :
    '\n' ∉ written := by
  obtain ⟨left, right, -, -, leftFree, rightFree, rfl⟩ := padded
  simp [leftFree, rightFree, free]

theorem IsPadded.trim {text written : List Char} (padded : IsPadded text written)
    (trimmed : Text.trim text = text) : Text.trim written = text := by
  obtain ⟨left, right, leftBlank, rightBlank, -, -, rfl⟩ := padded
  rw [Text.trim_append leftBlank rightBlank, trimmed]

theorem not_allBlank_cons {char : Char} (solid : Text.isBlank char = false) (text : List Char) :
    ¬Text.allBlank (char :: text) := by
  rw [Text.allBlank, List.all_cons, solid]
  exact Bool.false_ne_true

theorem lineOfText_of_isNumber {digits : List Char} (number : IsNumber digits) (rest : List Char) :
    lineOfText (digits ++ rest) = columnLine (digits ++ rest) := by
  obtain ⟨first, others, rfl⟩ := List.exists_cons_of_ne_nil number.nonempty
  have digit := number.only first List.mem_cons_self
  rw [List.cons_append]
  unfold lineOfText
  rw [if_neg (not_allBlank_cons (Text.isBlank_of_isDigit digit) _)]
  split
  · next comment same =>
      rw [(List.cons.inj same).1] at digit
      exact absurd digit (by decide)
  · rfl

theorem lineOfText_comment (text : List Char) : lineOfText ('#' :: text) = commentLine text := by
  rw [lineOfText, if_neg (not_allBlank_cons (by decide) _)]

/-- Ten columns, of which the first begins with a digit, are one line, and what ends the line is not read. -/
theorem line_of_columns {digits more form base tag special features head relation links other : List Char}
    (number : IsNumber digits)
    (columns : ∀ column ∈ [digits ++ more, form, base, tag, special, features, head, relation, links, other],
      IsColumn column) :
    let text := Text.joinFields '\t'
      [digits ++ more, form, base, tag, special, features, head, relation, links, other]
    text ≠ [] ∧ '\n' ∉ text ∧
      lineOfText (Text.withoutLineEnd text) = columnsLine (digits ++ more) form base tag features := by
  refine ⟨?_, Text.not_mem_joinFields (by decide) fun column member => (columns column member).2, ?_⟩
  · rw [Text.joinFields, List.append_assoc]
    exact List.append_ne_nil_of_left_ne_nil number.nonempty _
  · have solid : Text.isLineEnd '\t' = false := rfl
    have shortened : Text.withoutLineEnd (Text.joinFields '\t'
          [digits ++ more, form, base, tag, special, features, head, relation, links, other]) =
        Text.joinFields '\t'
          [digits ++ more, form, base, tag, special, features, head, relation, links,
            Text.withoutLineEnd other] := by
      simp only [Text.joinFields, Text.withoutLineEnd_append_cons _ solid]
    have begun : lineOfText (Text.joinFields '\t'
          [digits ++ more, form, base, tag, special, features, head, relation, links,
            Text.withoutLineEnd other]) =
        columnLine (Text.joinFields '\t'
          [digits ++ more, form, base, tag, special, features, head, relation, links,
            Text.withoutLineEnd other]) := by
      rw [Text.joinFields, List.append_assoc]
      exact lineOfText_of_isNumber number _
    have free : ∀ column ∈ [digits ++ more, form, base, tag, special, features, head, relation, links,
        Text.withoutLineEnd other], '\t' ∉ column := by
      have each : ∀ column ∈ [digits ++ more, form, base, tag, special, features, head, relation, links, other],
          '\t' ∉ column := fun column member => (columns column member).1
      simp only [List.forall_mem_cons] at each ⊢
      refine ⟨each.1, each.2.1, each.2.2.1, each.2.2.2.1, each.2.2.2.2.1, each.2.2.2.2.2.1,
        each.2.2.2.2.2.2.1, each.2.2.2.2.2.2.2.1, each.2.2.2.2.2.2.2.2.1, ?_, each.2.2.2.2.2.2.2.2.2.2⟩
      exact fun member => each.2.2.2.2.2.2.2.2.2.1 (Text.mem_of_mem_withoutLineEnd member)
    rw [shortened, begun, columnLine, Text.fields_joinFields (List.cons_ne_nil _ _) free]

/-- A written line is one line, and it is read as what it says, whatever ends it. -/
theorem Row.reads {line : Line} {text : List Char} (row : Row line text) :
    text ≠ [] ∧ '\n' ∉ text ∧ lineOfText (Text.withoutLineEnd text) = line := by
  cases row with
  | entry plainKey keyFree plainValue keyWritten valueWritten =>
      refine ⟨List.cons_ne_nil _ _, ?_, ?_⟩
      · rw [List.cons_append, List.mem_cons, List.mem_append, List.mem_cons, not_or, not_or, not_or]
        exact ⟨by decide, keyWritten.line plainKey.2, by decide, valueWritten.line plainValue.2⟩
      · rw [Text.withoutLineEnd_append_cons _ (by decide), List.cons_append, lineOfText_comment, commentLine,
          Text.cut?_append _ (keyWritten.not_mem (by decide) keyFree)]
        simp only [keyWritten.trim plainKey.1, Text.trim_withoutLineEnd, valueWritten.trim plainValue.1,
          String.ofList_toList]
  | @remark text free line =>
      refine ⟨List.cons_ne_nil _ _, List.not_mem_cons_of_ne_of_not_mem (by decide) line, ?_⟩
      have whole := Text.withoutLineEnd_append_cons [] (by decide : Text.isLineEnd '#' = false) text
      rw [List.nil_append, List.nil_append] at whole
      rw [whole, lineOfText_comment, commentLine,
        Text.cut?_eq_none fun member => free (Text.mem_of_mem_withoutLineEnd member)]
  | @token token id features special head relation links other number positive plain featuresWritten columns =>
      have whole : ∀ column ∈ [id ++ [], token.form.toList, token.base.toList, token.tag.toList, special, features,
          head, relation, links, other], IsColumn column := by
        simp only [List.forall_mem_cons, List.append_nil] at columns ⊢
        obtain ⟨special, rest⟩ := columns
        exact ⟨number.isColumn, plain.form, plain.base, plain.tag, special,
          isColumn_of_isFeatures plain.features featuresWritten, rest⟩
      have reads := line_of_columns number whole
      rw [List.append_nil] at reads
      refine ⟨reads.1, reads.2.1, reads.2.2.trans ?_⟩
      rw [columnsLine, idKind?_of_isNumber number positive]
      simp only [String.ofList_toList, ofText_of_isFeatures plain.features featuresWritten]
  | @passed left right form base tag special features head relation links other mark marked leftNumber rightNumber
      columns =>
      have solid : mark ≠ '\t' ∧ mark ≠ '\n' := by rcases marked with rfl | rfl <;> decide
      have reads := line_of_columns leftNumber (List.forall_mem_cons.mpr
        ⟨leftNumber.isColumn.append (rightNumber.isColumn.cons solid), columns⟩)
      refine ⟨reads.1, reads.2.1, reads.2.2.trans ?_⟩
      rw [columnsLine, idKind?_of_mark marked leftNumber rightNumber]

/-- A line of a block is neither blank nor malformed. -/
theorem Row.solid {line : Line} {text : List Char} (row : Row line text) : line ≠ .blank ∧ line.cause? = none := by
  cases row <;> exact ⟨by simp, rfl⟩

/-! ## Every line can be written -/

theorem isPadded_self (text : List Char) : IsPadded text text :=
  ⟨[], [], rfl, rfl, List.not_mem_nil, List.not_mem_nil, by rw [List.nil_append, List.append_nil]⟩

theorem exists_row_entry {key value : String} (plainKey : IsValue key) (keyFree : '=' ∉ key.toList)
    (plainValue : IsValue value) : ∃ row, Row (.entry key value) row :=
  ⟨_, .entry plainKey keyFree plainValue (isPadded_self _) (isPadded_self _)⟩

theorem exists_row_token {token : Token} (plain : IsPlainToken token) : ∃ row, Row (.token token) row := by
  have number : IsNumber ['1'] := by decide
  have features : ∃ written, IsFeatures token.features written := by
    by_cases empty : token.features.entries = []
    · exact ⟨_, .inl ⟨empty, rfl⟩⟩
    · exact ⟨_, .inr ⟨token.features.entries, empty, .refl _, rfl⟩⟩
  have blank : ∀ column ∈ [['_'], ['_'], ['_'], ['_'], ['_']], IsColumn column := by decide
  obtain ⟨written, featuresWritten⟩ := features
  exact ⟨_, .token number (by decide) plain featuresWritten blank⟩

end Conllu
end Collocation
