import Collocation.Proofs.Engine.Analyses
import Collocation.Proofs.Grammar.Narrowed
import Collocation.Proofs.Pattern.Labels
import Collocation.Proofs.Text.Bytes

/-!
# Grammars in a stream of bytes

A field mark ends the name, the text and the language of a grammar, each entry with its parts of speech, and
each agreement rule.  No mark stands between the label of an entry and its parts of speech or between the two
sides of a rule, so two grammar sets may have one stream.  If no label begins or ends another one and no part
holds a mark, the stream determines the grammar set.
-/

namespace Collocation

/-- The character whose byte ends a field. -/
def fieldChar : Char := '\x1f'

theorem append_inj_of_forall {α : Type} {test : α → Bool} {left right leftRest rightRest : List α}
    (leftPasses : ∀ item ∈ left, test item = true) (rightPasses : ∀ item ∈ right, test item = true)
    (leftFails : ∀ item ∈ leftRest, test item = false)
    (rightFails : ∀ item ∈ rightRest, test item = false)
    (same : left ++ leftRest = right ++ rightRest) : left = right ∧ leftRest = rightRest := by
  have passing := congrArg (List.filter test) same
  rw [List.filter_append, List.filter_append, List.filter_eq_self.mpr leftPasses,
    List.filter_eq_self.mpr rightPasses, List.filter_eq_nil_iff.mpr (by simpa using leftFails),
    List.filter_eq_nil_iff.mpr (by simpa using rightFails), List.append_nil, List.append_nil] at passing
  subst passing
  exact ⟨rfl, List.append_cancel_left same⟩

theorem Written.not_isLabelChar_of_mem {label : String} (isLabel : IsLabel label) {mark : Char}
    (strange : isLabelChar mark = false) : mark ∉ label.toList := fun member => by
  rw [isLabel.chars mark member] at strange
  cases strange

namespace Grammar

/-! ## Fields -/

/-- An entry in the stream. -/
def entryField (entry : String × List String) : String :=
  entry.1 ++ "|".intercalate entry.2

/-- An agreement rule in the stream. -/
def sidesField (sides : String × String) : String :=
  sides.1 ++ sides.2

/-- What follows the language of a grammar, field by field. -/
def fields (grammar : Grammar) : List String :=
  grammar.allowed.entries.map entryField ++ grammar.agreements.map sidesField

/-- The bytes of fields. -/
def fieldBytes (fields : List String) : List UInt8 :=
  fields.flatMap fun field => textBytes field ++ [fieldMark]

theorem stream_eq (grammar : Grammar) :
    grammar.stream = grammarMark :: (textBytes grammar.name ++ fieldMark ::
      (textBytes grammar.source ++ fieldMark :: (textBytes grammar.language ++ fieldMark ::
        (fieldBytes grammar.fields ++ ([grammar.bidirectional.toUInt8, grammar.active.toUInt8] ++
          priorityBytes grammar.priority))))) := by
  simp [stream, fields, fieldBytes, entryField, sidesField, textBytes_append, List.flatMap_map]

theorem fieldMark_not_mem {text : String} (free : fieldChar ∉ text.toList) :
    fieldMark ∉ textBytes text := fun member => free ((mem_textBytes_iff (by decide)).mp member)

theorem text_inj {left right : String} {leftRest rightRest : List UInt8}
    (leftFree : fieldChar ∉ left.toList) (rightFree : fieldChar ∉ right.toList)
    (same : textBytes left ++ fieldMark :: leftRest = textBytes right ++ fieldMark :: rightRest) :
    left = right ∧ leftRest = rightRest :=
  (append_cons_inj_of_not_mem (fieldMark_not_mem leftFree) (fieldMark_not_mem rightFree) same).imp_left
    textBytes_inj.mp

theorem code_of_isLabelChar {char : Char} (isLabelChar : Written.isLabelChar char = true) :
    48 ≤ char.toNat ∧ char.toNat < 128 := by
  have between {low high : UInt32} (bounds : low ≤ char.val ∧ char.val ≤ high)
      (least : 48 ≤ low.toNat) (most : high.toNat < 128) : 48 ≤ char.toNat ∧ char.toNat < 128 :=
    ⟨Nat.le_trans least (UInt32.le_iff_toNat_le.mp bounds.1),
      Nat.lt_of_le_of_lt (UInt32.le_iff_toNat_le.mp bounds.2) most⟩
  have both {first second : Prop} [Decidable first] [Decidable second]
      (holds : (decide first && decide second) = true) : first ∧ second :=
    ((Bool.and_eq_true _ _).mp holds).imp of_decide_eq_true of_decide_eq_true
  rcases (Bool.or_eq_true _ _).mp isLabelChar with alphanumeric | underscore
  · rcases (Bool.or_eq_true _ _).mp alphanumeric with letter | digit
    · rcases (Bool.or_eq_true _ _).mp letter with upper | lower
      · exact between (of_decide_eq_true upper) (by decide) (by decide)
      · exact between (both lower) (by decide) (by decide)
    · exact between (both digit) (by decide) (by decide)
  · rw [beq_iff_eq.mp underscore]
    decide

/-- A field that begins with a character of a label and holds no field mark. -/
structure IsField (field : String) : Prop where
  begins : ∃ first rest, field.toList = first :: rest ∧ Written.isLabelChar first = true
  free : fieldChar ∉ field.toList

theorem IsField.exists_byte {field : String} (isField : IsField field) :
    ∃ byte rest, textBytes field = byte :: rest ∧ 1 < byte.toNat := by
  obtain ⟨⟨first, others, spelled, isLabelChar⟩, -⟩ := isField
  have code := code_of_isLabelChar isLabelChar
  refine ⟨UInt8.ofNat first.toNat, others.flatMap String.utf8EncodeChar, ?_, ?_⟩
  · have single : String.utf8EncodeChar first = [UInt8.ofNat first.toNat] := by
      have small : first.val.toNat ≤ 127 := by
        change first.toNat ≤ 127
        omega
      rw [String.utf8EncodeChar]
      exact if_pos small
    rw [textBytes_eq_flatMap, spelled, List.flatMap_cons, single]
    rfl
  · rw [UInt8.toNat_ofNat']
    omega

theorem fieldBytes_inj {left right : List String} (leftFields : ∀ field ∈ left, IsField field)
    (rightFields : ∀ field ∈ right, IsField field) {leftFlag rightFlag : Bool}
    {leftRest rightRest : List UInt8}
    (same : fieldBytes left ++ leftFlag.toUInt8 :: leftRest =
      fieldBytes right ++ rightFlag.toUInt8 :: rightRest) :
    left = right ∧ leftFlag.toUInt8 :: leftRest = rightFlag.toUInt8 :: rightRest := by
  have flag_ne {flag : Bool} {byte : UInt8} (above : 1 < byte.toNat) : flag.toUInt8 ≠ byte := by
    rintro rfl
    cases flag <;> exact absurd above (by decide)
  induction left generalizing right with
  | nil =>
      cases right with
      | nil => exact ⟨rfl, same⟩
      | cons field right =>
          obtain ⟨byte, rest, spelled, above⟩ := (rightFields field List.mem_cons_self).exists_byte
          rw [fieldBytes, fieldBytes, List.flatMap_cons, spelled] at same
          exact absurd (List.cons.inj same).1 (flag_ne above)
  | cons field left induction =>
      cases right with
      | nil =>
          obtain ⟨byte, rest, spelled, above⟩ := (leftFields field List.mem_cons_self).exists_byte
          rw [fieldBytes, fieldBytes, List.flatMap_cons, spelled] at same
          exact absurd (List.cons.inj same).1.symm (flag_ne above)
      | cons other right =>
          simp only [fieldBytes, List.flatMap_cons, List.append_assoc, List.cons_append,
            List.nil_append] at same
          obtain ⟨rfl, rest⟩ := text_inj (leftFields field List.mem_cons_self).free
            (rightFields other List.mem_cons_self).free same
          obtain ⟨rfl, further⟩ := induction
            (fun field member => leftFields field (List.mem_cons_of_mem _ member))
            (fun field member => rightFields field (List.mem_cons_of_mem _ member)) rest
          exact ⟨rfl, further⟩

theorem priorityBytes_inj {left right : Int} (leftFits : -0x80000000 ≤ left ∧ left < 0x80000000)
    (rightFits : -0x80000000 ≤ right ∧ right < 0x80000000)
    (same : priorityBytes left = priorityBytes right) : left = right := by
  simp only [priorityBytes, List.map_cons, List.map_nil, List.cons.injEq, ← UInt8.toNat_inj,
    UInt8.toNat_ofNat', Nat.shiftRight_eq_div_pow] at same
  omega

/-! ## Plain grammars -/

/-- A part of speech without the marks of the stream and without a point. -/
structure PlainTag (tag : String) : Prop where
  nonempty : tag ≠ ""
  free : ∀ mark ∈ [fieldChar, '|', '.'], mark ∉ tag.toList

/-- A side of an agreement rule with one point, no blanks at its ends and no field mark. -/
structure PlainSide (side : String) : Prop where
  trimmed : Text.trim side.toList = side.toList
  single : side.toList.count '.' = 1
  free : fieldChar ∉ side.toList

/-- No part of a grammar holds a mark of the stream, and no label of its text begins or ends another one. -/
structure Plain (grammar : Grammar) : Prop where
  name : fieldChar ∉ grammar.name.toList
  source : fieldChar ∉ grammar.source.toList
  language : fieldChar ∉ grammar.language.toList
  tags : ∀ entry ∈ grammar.allowed.entries, ∀ tag ∈ entry.2, PlainTag tag
  sides : ∀ sides ∈ grammar.agreements, PlainSide sides.1 ∧ PlainSide sides.2
  labels : ∀ draft, Draft.ofText grammar.source = .ok draft →
    ∀ label other, draft.Declares label → draft.Declares other →
      label.toList <+: other.toList ∨ label.toList <:+ other.toList → label = other
  priority : -0x80000000 ≤ grammar.priority ∧ grammar.priority < 0x80000000

theorem mem_intercalate {char : Char} {tags : List String}
    (member : char ∈ ("|".intercalate tags).toList) : char = '|' ∨ ∃ tag ∈ tags, char ∈ tag.toList := by
  rw [String.toList_intercalate] at member
  exact (exists_of_mem_intercalate member).imp_right fun ⟨_, listed, inside⟩ => by
    obtain ⟨tag, known, rfl⟩ := List.mem_map.mp listed
    exact ⟨tag, known, inside⟩

theorem intercalate_inj {tags others : List String} (plain : ∀ tag ∈ tags, PlainTag tag)
    (plainOthers : ∀ tag ∈ others, PlainTag tag)
    (same : "|".intercalate tags = "|".intercalate others) : tags = others := by
  have spelled : ['|'].intercalate (tags.map String.toList) =
      ['|'].intercalate (others.map String.toList) := by
    have texts := congrArg String.toList same
    rwa [String.toList_intercalate, String.toList_intercalate] at texts
  have split {tags : List String} (plain : ∀ tag ∈ tags, PlainTag tag) (some : tags ≠ []) :
      (['|'].intercalate (tags.map String.toList)).splitOn '|' = tags.map String.toList := by
    refine List.splitOn_intercalate '|' (fun piece member => ?_) (by simpa using some)
    obtain ⟨tag, inside, rfl⟩ := List.mem_map.mp member
    exact (plain tag inside).free '|' (by decide)
  have text_ne {tags : List String} (plain : ∀ tag ∈ tags, PlainTag tag) (some : tags ≠ []) :
      ['|'].intercalate (tags.map String.toList) ≠ [] := by
    intro blank
    have pieces := split plain some
    rw [blank, List.splitOn_nil] at pieces
    obtain ⟨tag, rest, rfl⟩ := List.exists_cons_of_ne_nil some
    have empty := (List.cons.inj pieces).1
    exact (plain tag List.mem_cons_self).nonempty (String.toList_injective empty.symm)
  by_cases nothing : tags = []
  · subst nothing
    exact Decidable.byContradiction fun some => text_ne plainOthers (Ne.symm some) spelled.symm
  · by_cases others_nil : others = []
    · subst others_nil
      exact absurd spelled (text_ne plain nothing)
    · have pieces := congrArg (List.splitOn '|') spelled
      rw [split plain nothing, split plainOthers others_nil] at pieces
      exact eq_of_map_eq (fun _ _ _ _ equal => String.toList_injective equal) pieces

/-- Every label that a grammar speaks of outside its text is declared in the text. -/
structure Settled (grammar : Grammar) (written : Draft) : Prop where
  read : Draft.ofText grammar.source = .ok written
  entries : ∀ entry ∈ grammar.allowed.entries, written.Declares entry.1
  sides : ∀ sides ∈ grammar.agreements, ∃ left right, Written.Reference.ofText? sides.1 = some left ∧
    Written.Reference.ofText? sides.2 = some right ∧ written.Declares left.label ∧
    written.Declares right.label

theorem exists_settled {grammar : Grammar} {tagsets : Tagsets} {pattern : Pattern}
    (accepted : grammar.pattern tagsets = .ok pattern) : ∃ written, grammar.Settled written := by
  obtain ⟨written, bare, read, -, gives, declared, referred, -⟩ := exists_gives_of_pattern accepted
  rw [Draft.placeOf?_of_gives gives] at declared referred
  refine ⟨written, read, fun entry member => ?_, fun sides member => ?_⟩
  · obtain ⟨place, found⟩ := declared entry member
    exact Draft.exists_placeOf?_iff.mp ⟨place, found⟩
  · obtain ⟨left, right, leftRead, rightRead, leftFound, rightFound⟩ := referred sides member
    exact ⟨left, right, leftRead, rightRead, Draft.exists_placeOf?_iff.mp leftFound,
      Draft.exists_placeOf?_iff.mp rightFound⟩

theorem Settled.isLabel {grammar : Grammar} {written : Draft} (settled : grammar.Settled written)
    {label : String} (declares : written.Declares label) : Written.IsLabel label := by
  obtain ⟨slot, member, named⟩ := declares
  exact Draft.isLabel_of_mem_slots settled.read member named

theorem PlainSide.exists_feature {side : String} (plain : PlainSide side) {reference : Written.Reference}
    (read : Written.Reference.ofText? side = some reference) :
    ∃ feature, side.toList = reference.label.toList ++ '.' :: feature ∧ '.' ∉ feature := by
  rw [Written.Reference.ofText?, plain.trimmed] at read
  split at read
  · next first label key feature cut =>
      cases read
      have whole := Text.eq_append_of_cut? cut
      refine ⟨key :: feature, by rw [whole, String.toList_ofList], fun member => ?_⟩
      have single := plain.single
      have some := List.one_le_count_iff.mpr member
      rw [whole, List.count_append, List.count_cons_self] at single
      omega
  · cases read

section Injectivity

variable {grammar : Grammar} {written : Draft}

theorem isField_entryField (plain : grammar.Plain) (settled : grammar.Settled written)
    {entry : String × List String} (member : entry ∈ grammar.allowed.entries) :
    IsField (entryField entry) ∧ '.' ∉ (entryField entry).toList := by
  have isLabel := settled.isLabel (settled.entries entry member)
  have free {mark : Char} (strange : Written.isLabelChar mark = false) (apart : mark ≠ '|')
      (listed : mark ∈ [fieldChar, '|', '.']) : mark ∉ (entryField entry).toList := by
    intro inside
    rw [entryField, String.toList_append, List.mem_append] at inside
    rcases inside with label | tags
    · exact Written.not_isLabelChar_of_mem isLabel strange label
    · rcases mem_intercalate tags with bar | ⟨tag, known, found⟩
      · exact apart bar
      · exact (plain.tags entry member tag known).free mark listed found
  refine ⟨⟨?_, free (by decide) (by decide) (by decide)⟩, free (by decide) (by decide) (by decide)⟩
  obtain ⟨first, rest, spelled⟩ := List.exists_cons_of_ne_nil
    (fun blank => isLabel.nonempty (String.toList_injective blank))
  refine ⟨first, rest ++ ("|".intercalate entry.2).toList, ?_, isLabel.chars first ?_⟩
  · rw [entryField, String.toList_append, spelled, List.cons_append]
  · rw [spelled]
    exact List.mem_cons_self

theorem isField_sidesField (plain : grammar.Plain) (settled : grammar.Settled written)
    {sides : String × String} (member : sides ∈ grammar.agreements) :
    IsField (sidesField sides) ∧ '.' ∈ (sidesField sides).toList := by
  obtain ⟨left, right, leftRead, -, declares, -⟩ := settled.sides sides member
  obtain ⟨leftPlain, rightPlain⟩ := plain.sides sides member
  obtain ⟨feature, spelled, -⟩ := leftPlain.exists_feature leftRead
  have isLabel := settled.isLabel declares
  obtain ⟨first, rest, label⟩ := List.exists_cons_of_ne_nil
    (fun blank => isLabel.nonempty (String.toList_injective blank))
  refine ⟨⟨⟨first, rest ++ '.' :: (feature ++ sides.2.toList), ?_, isLabel.chars first ?_⟩, ?_⟩, ?_⟩
  · rw [sidesField, String.toList_append, spelled, label, List.append_assoc, List.cons_append,
      List.cons_append]
  · rw [label]
    exact List.mem_cons_self
  · rw [sidesField, String.toList_append, List.mem_append, not_or]
    exact ⟨leftPlain.free, rightPlain.free⟩
  · rw [sidesField, String.toList_append, spelled]
    simp

variable {other : Grammar}

theorem entryField_inj (plain : grammar.Plain) (settled : grammar.Settled written)
    (otherPlain : other.Plain) (otherSettled : other.Settled written) {left right : String × List String}
    (member : left ∈ grammar.allowed.entries) (otherMember : right ∈ other.allowed.entries)
    (same : entryField left = entryField right) : left = right := by
  have separate := plain.labels written settled.read
  have leftDeclared := settled.entries left member
  have rightDeclared := otherSettled.entries right otherMember
  have leftTags := plain.tags left member
  have rightTags := otherPlain.tags right otherMember
  obtain ⟨label, tags⟩ := left
  obtain ⟨other, others⟩ := right
  have spelled := congrArg String.toList same
  rw [entryField, entryField, String.toList_append, String.toList_append] at spelled
  have whole : label.toList <+: other.toList ++ ("|".intercalate others).toList := ⟨_, spelled⟩
  obtain rfl : label = other := by
    rcases List.prefix_or_prefix_of_prefix whole (List.prefix_append _ _) with begins | begins
    · exact separate _ _ leftDeclared rightDeclared (Or.inl begins)
    · exact (separate _ _ rightDeclared leftDeclared (Or.inl begins)).symm
  have remaining := String.toList_injective (List.append_cancel_left spelled)
  obtain rfl : tags = others := intercalate_inj leftTags rightTags remaining
  rfl

theorem sidesField_inj (plain : grammar.Plain) (settled : grammar.Settled written)
    (otherPlain : other.Plain) (otherSettled : other.Settled written) {left right : String × String}
    (member : left ∈ grammar.agreements) (otherMember : right ∈ other.agreements)
    (same : sidesField left = sidesField right) : left = right := by
  have separate := plain.labels written settled.read
  obtain ⟨first, second, firstRead, secondRead, firstDeclared, secondDeclared⟩ :=
    settled.sides left member
  obtain ⟨first', second', firstRead', secondRead', firstDeclared', secondDeclared'⟩ :=
    otherSettled.sides right otherMember
  obtain ⟨feature, spelled, free⟩ := (plain.sides left member).1.exists_feature firstRead
  obtain ⟨last, ends, -⟩ := (plain.sides left member).2.exists_feature secondRead
  obtain ⟨feature', spelled', free'⟩ := (otherPlain.sides right otherMember).1.exists_feature firstRead'
  obtain ⟨last', ends', -⟩ := (otherPlain.sides right otherMember).2.exists_feature secondRead'
  have pointless {label : String} (declares : written.Declares label) : '.' ∉ label.toList :=
    Written.not_isLabelChar_of_mem (settled.isLabel declares) (by decide)
  have texts := congrArg String.toList same
  rw [sidesField, sidesField, String.toList_append, String.toList_append, spelled, spelled', ends, ends',
    List.append_assoc, List.append_assoc, List.cons_append, List.cons_append] at texts
  obtain ⟨sameLabel, afterLabel⟩ := append_cons_inj_of_not_mem (pointless firstDeclared)
    (pointless firstDeclared') texts
  rw [← List.append_assoc, ← List.append_assoc] at afterLabel
  obtain ⟨middle, sameLast⟩ := append_cons_inj_of_not_mem
    (by simpa using ⟨free, pointless secondDeclared⟩) (by simpa using ⟨free', pointless secondDeclared'⟩)
    afterLabel
  have whole : second.label.toList <:+ feature' ++ second'.label.toList := ⟨feature, middle⟩
  have sameSecond : second.label = second'.label := by
    rcases List.suffix_or_suffix_of_suffix whole (List.suffix_append _ _) with ends | ends
    · exact separate _ _ secondDeclared secondDeclared' (Or.inr ends)
    · exact (separate _ _ secondDeclared' secondDeclared (Or.inr ends)).symm
  rw [sameSecond] at middle ends
  have sameFeature := List.append_cancel_right middle
  have leftSide : left.1 = right.1 :=
    String.toList_injective (by rw [spelled, spelled', sameLabel, sameFeature])
  have rightSide : left.2 = right.2 := String.toList_injective (by rw [ends, ends', sameLast])
  exact Prod.ext leftSide rightSide

theorem isField_of_mem_fields (plain : grammar.Plain) (settled : grammar.Settled written) {field : String}
    (member : field ∈ grammar.fields) : IsField field := by
  rcases List.mem_append.mp member with entry | sides
  · obtain ⟨entry, known, rfl⟩ := List.mem_map.mp entry
    exact (isField_entryField plain settled known).1
  · obtain ⟨sides, known, rfl⟩ := List.mem_map.mp sides
    exact (isField_sidesField plain settled known).1

theorem fields_inj (plain : grammar.Plain) (settled : grammar.Settled written) (otherPlain : other.Plain)
    (otherSettled : other.Settled written) (same : grammar.fields = other.fields) :
    grammar.allowed.entries = other.allowed.entries ∧ grammar.agreements = other.agreements := by
  let pointless (field : String) : Bool := !field.toList.contains '.'
  have entries {grammar : Grammar} (plain : grammar.Plain) (settled : grammar.Settled written) :
      ∀ field ∈ grammar.allowed.entries.map entryField, pointless field = true := by
    intro field member
    obtain ⟨entry, known, rfl⟩ := List.mem_map.mp member
    simpa [pointless] using (isField_entryField plain settled known).2
  have rules {grammar : Grammar} (plain : grammar.Plain) (settled : grammar.Settled written) :
      ∀ field ∈ grammar.agreements.map sidesField, pointless field = false := by
    intro field member
    obtain ⟨sides, known, rfl⟩ := List.mem_map.mp member
    simpa [pointless] using (isField_sidesField plain settled known).2
  obtain ⟨sameEntries, sameRules⟩ := append_inj_of_forall (entries plain settled)
    (entries otherPlain otherSettled) (rules plain settled) (rules otherPlain otherSettled) same
  refine ⟨eq_of_map_eq (fun left member right otherMember equal => ?_) sameEntries,
    eq_of_map_eq (fun left member right otherMember equal => ?_) sameRules⟩
  · exact entryField_inj plain settled otherPlain otherSettled member otherMember equal
  · exact sidesField_inj plain settled otherPlain otherSettled member otherMember equal

/-- The stream of a plain grammar determines the grammar, and so does a stream that goes on behind it. -/
theorem stream_append_inj {tagsets otherTagsets : Tagsets} {pattern otherPattern : Pattern}
    (accepted : grammar.pattern tagsets = .ok pattern)
    (otherAccepted : other.pattern otherTagsets = .ok otherPattern) (plain : grammar.Plain)
    (otherPlain : other.Plain) {rest otherRest : List UInt8}
    (same : grammar.stream ++ rest = other.stream ++ otherRest) : grammar = other ∧ rest = otherRest := by
  simp only [stream_eq, List.cons_append, List.append_assoc, List.nil_append, List.cons.injEq, true_and]
    at same
  obtain ⟨sameName, same⟩ := text_inj plain.name otherPlain.name same
  obtain ⟨sameSource, same⟩ := text_inj plain.source otherPlain.source same
  obtain ⟨sameLanguage, same⟩ := text_inj plain.language otherPlain.language same
  obtain ⟨written, settled⟩ := exists_settled accepted
  obtain ⟨written', otherSettled⟩ := exists_settled otherAccepted
  obtain rfl : written = written' := by
    have read := settled.read
    rw [sameSource, otherSettled.read] at read
    exact (Except.ok.inj read).symm
  obtain ⟨sameFields, same⟩ := fieldBytes_inj (fun _ => isField_of_mem_fields plain settled)
    (fun _ => isField_of_mem_fields otherPlain otherSettled) same
  obtain ⟨sameEntries, sameSides⟩ := fields_inj plain settled otherPlain otherSettled sameFields
  obtain ⟨sameBidirectional, same⟩ := List.cons.inj same
  obtain ⟨sameActive, same⟩ := List.cons.inj same
  obtain ⟨samePriority, sameRest⟩ := List.append_inj same rfl
  have flag {left right : Bool} (same : left.toUInt8 = right.toUInt8) : left = right := by
    cases left <;> cases right <;> first | rfl | cases same
  refine ⟨?_, sameRest⟩
  obtain ⟨name, source, language, ⟨entries, _⟩, agreements, bidirectional, priority, active⟩ := grammar
  obtain ⟨name', source', language', ⟨entries', _⟩, agreements', bidirectional', priority', active'⟩ := other
  obtain rfl : name = name' := sameName
  obtain rfl : source = source' := sameSource
  obtain rfl : language = language' := sameLanguage
  obtain rfl : entries = entries' := sameEntries
  obtain rfl : agreements = agreements' := sameSides
  obtain rfl : bidirectional = bidirectional' := flag sameBidirectional
  obtain rfl : active = active' := flag sameActive
  obtain rfl : priority = priority' := priorityBytes_inj plain.priority otherPlain.priority samePriority
  rfl

end Injectivity

theorem flatMap_stream_inj {tagsets otherTagsets : Tagsets} {left right : List Grammar}
    (accepted : ∀ grammar ∈ left, ∃ pattern, grammar.pattern tagsets = .ok pattern)
    (otherAccepted : ∀ grammar ∈ right, ∃ pattern, grammar.pattern otherTagsets = .ok pattern)
    (plain : ∀ grammar ∈ left, grammar.Plain) (otherPlain : ∀ grammar ∈ right, grammar.Plain)
    (same : left.flatMap stream = right.flatMap stream) : left = right := by
  induction left generalizing right with
  | nil =>
      cases right with
      | nil => rfl
      | cons grammar right =>
          rw [List.flatMap_cons, stream_eq] at same
          cases same
  | cons grammar left induction =>
      cases right with
      | nil =>
          rw [List.flatMap_cons, stream_eq] at same
          cases same
      | cons other right =>
          obtain ⟨pattern, patternMade⟩ := accepted grammar List.mem_cons_self
          obtain ⟨otherPattern, otherMade⟩ := otherAccepted other List.mem_cons_self
          rw [List.flatMap_cons, List.flatMap_cons] at same
          obtain ⟨rfl, rest⟩ := stream_append_inj patternMade otherMade
            (plain grammar List.mem_cons_self) (otherPlain other List.mem_cons_self) same
          rw [induction (fun grammar member => accepted grammar (List.mem_cons_of_mem _ member))
            (fun grammar member => otherAccepted grammar (List.mem_cons_of_mem _ member))
            (fun grammar member => plain grammar (List.mem_cons_of_mem _ member))
            (fun grammar member => otherPlain grammar (List.mem_cons_of_mem _ member)) rest]

end Grammar

namespace GrammarSet

/-- The version holds no mark of a grammar, and the grammars are plain. -/
structure Plain (set : GrammarSet) : Prop where
  version : '\x1e' ∉ set.version.toList
  grammars : ∀ grammar ∈ set.grammars, grammar.Plain

variable {first second : GrammarSet} {tagsets otherTagsets : Tagsets} {relations other : RelationSet}

theorem exists_pattern_of_mem (accepted : first.relations tagsets = .ok relations) {grammar : Grammar}
    (member : grammar ∈ first.grammars) : ∃ pattern, grammar.pattern tagsets = .ok pattern := by
  obtain ⟨relation, compiled⟩ := exists_relation_of_mem accepted member
  obtain ⟨pattern, made, -⟩ := Grammar.relation_eq_ok_iff.mp compiled
  exact ⟨pattern, made⟩

/-- The stream of a plain grammar set that is accepted determines the grammar set. -/
theorem eq_of_stream_eq (accepted : first.relations tagsets = .ok relations)
    (otherAccepted : second.relations otherTagsets = .ok other) (plain : first.Plain)
    (otherPlain : second.Plain) (same : first.stream = second.stream) : first = second := by
  have unmarked {set : GrammarSet} (plain : set.Plain) :
      Grammar.grammarMark ∉ Grammar.textBytes set.version := fun member =>
    plain.version ((Grammar.mem_textBytes_iff (by decide)).mp member)
  have grammars := Grammar.flatMap_stream_inj (fun _ => exists_pattern_of_mem accepted)
    (fun _ => exists_pattern_of_mem otherAccepted) plain.grammars otherPlain.grammars
  have firstFree := unmarked plain
  have secondFree := unmarked otherPlain
  obtain ⟨version, list⟩ := first
  obtain ⟨version', list'⟩ := second
  simp only [stream] at same
  obtain ⟨versions, streams⟩ : Grammar.textBytes version = Grammar.textBytes version' ∧
      list.flatMap Grammar.stream = list'.flatMap Grammar.stream := by
    cases list with
    | nil =>
        cases list' with
        | nil => exact ⟨by simpa using same, rfl⟩
        | cons grammar list' =>
            simp only [List.flatMap_nil, List.append_nil, List.flatMap_cons, Grammar.stream_eq,
              List.cons_append] at same
            exact absurd (same ▸ by simp) firstFree
    | cons grammar list =>
        cases list' with
        | nil =>
            simp only [List.flatMap_nil, List.append_nil, List.flatMap_cons, Grammar.stream_eq,
              List.cons_append] at same
            exact absurd (same ▸ by simp) secondFree
        | cons grammar' list' =>
            simp only [List.flatMap_cons, Grammar.stream_eq, List.cons_append] at same ⊢
            obtain ⟨versions, rests⟩ := append_cons_inj_of_not_mem firstFree secondFree same
            exact ⟨versions, congrArg _ rests⟩
  obtain rfl : version = version' := Grammar.textBytes_inj.mp versions
  obtain rfl : list = list' := grammars streams
  rfl

/-- Plain grammar sets that are accepted and have one stream find the same in every sequence of tokens.  So a
cache that is filled with the analyses that one of them saved makes no difference to what the other counts. -/
theorem analyze_eq_of_stream_eq (accepted : first.relations tagsets = .ok relations)
    (otherAccepted : second.relations otherTagsets = .ok other) (plain : first.Plain)
    (otherPlain : second.Plain) (same : first.stream = second.stream) :
    (∀ tokens, relations.analyze tokens = other.analyze tokens) ∧
      ∀ (configuration : Configuration) (store : Store) (known : List Token → Prop),
        ContentHash.Distinguishes known →
        (∀ entries, store.analyses[other.fingerprint]? = some entries → ∀ entry ∈ entries,
          ∃ tokens, known tokens ∧ entry.1 = .ofTokens tokens ∧ entry.2 = relations.analyze tokens) →
        ∀ (sampleLimit size : Nat) (sentences : List Sentence), Familiar known sentences →
          (other.countSharded sampleLimit size (Engine.freshCache configuration other store) sentences).1 =
            (other.countSharded sampleLimit size (Cache.empty configuration.cacheCapacity) sentences).1 := by
  obtain rfl : first = second := eq_of_stream_eq accepted otherAccepted plain otherPlain same
  obtain rfl : relations = other := relations_unique accepted otherAccepted
  refine ⟨fun tokens => rfl, ?_⟩
  intro configuration store known distinguishes made sampleLimit size sentences occur
  have warm : relations.Coherent known (Engine.freshCache configuration relations store) :=
    Engine.coherent_freshCache made
  have cold : relations.Coherent known (Cache.empty configuration.cacheCapacity) := Cache.every_empty _
  rw [warm.countSharded distinguishes occur, cold.countSharded distinguishes occur]

theorem plain_adjectives : adjectives.Plain where
  version := by decide +kernel
  grammars := fun grammar member => by
    obtain rfl := List.mem_singleton.mp member
    refine ⟨by decide +kernel, by decide +kernel, by decide +kernel,
      fun entry inside => absurd inside List.not_mem_nil,
      fun sides inside => absurd inside List.not_mem_nil, ?_, by decide⟩
    intro draft read label other declares alsoDeclares meets
    have seen : (Draft.ofText "2:[pos=\"ADJ\"] 1:[pos=\"NOUN\"]").toOption.map
        (fun draft => draft.slots.map Draft.Slot.label) = some [some "2", some "1"] := by
      decide +kernel
    obtain ⟨draft', read', labels⟩ := exists_ok_of_toOption seen
    obtain rfl : draft' = draft := Except.ok.inj (read'.symm.trans read)
    have listed {label : String} (declares : draft'.Declares label) : label = "2" ∨ label = "1" := by
      obtain ⟨slot, known, named⟩ := declares
      have inside := List.mem_map_of_mem (f := Draft.Slot.label) known
      rw [labels, named] at inside
      simpa using inside
    rcases listed declares with rfl | rfl <;> rcases listed alsoDeclares with rfl | rfl
    · rfl
    · exact absurd meets (by decide +kernel)
    · exact absurd meets (by decide +kernel)
    · rfl

/-- The adjectives, with an analysis of theirs in the store. -/
theorem analyze_eq_of_stream_of_adjectives :
    ∃ relations, adjectives.relations .empty = .ok relations ∧
      let saved : Store :=
        { analyses := (∅ : Table String (List (ContentHash × Analysis))).insert relations.fingerprint
            [(.ofTokens [Phrase.house], relations.analyze [Phrase.house])] }
      (relations.countSharded 1 0 (Engine.freshCache {} relations saved) Phrase.sentences).1 =
        (relations.countSharded 1 0 (Cache.empty 100000) Phrase.sentences).1 := by
  obtain ⟨relations, accepted⟩ := exists_relations_adjectives
  refine ⟨relations, accepted, ?_⟩
  intro saved
  obtain ⟨-, counted⟩ := analyze_eq_of_stream_eq accepted accepted plain_adjectives plain_adjectives rfl
  refine counted {} saved Phrase.Listed Phrase.distinguishes_listed ?_ 1 0 Phrase.sentences
    Phrase.familiar_sentences
  intro entries stored entry member
  rw [Std.ExtTreeMap.getElem?_insert_self, Option.some.injEq] at stored
  subst stored
  obtain rfl := List.mem_singleton.mp member
  exact ⟨[Phrase.house], Or.inl rfl, rfl, rfl⟩

theorem exists_relations_of_single {grammar : Grammar} {tagsets : Tagsets} {pattern : Pattern}
    (made : grammar.pattern tagsets = .ok pattern) (active : grammar.active = true) (version : String) :
    let set : GrammarSet := ⟨version, [grammar]⟩
    ∃ relations, set.relations tagsets = .ok relations ∧ relations.fingerprint = set.fingerprint ∧
      ∀ tokens, relations.analyze tokens = (pattern.matchesIn tokens).map (⟨grammar.name, ·⟩) := by
  intro set
  let relation : Relation :=
    ⟨grammar.name, pattern, grammar.bidirectional, grammar.priority, grammar.active⟩
  have listed : grammar.relation tagsets = .ok relation :=
    Grammar.relation_eq_ok_iff.mpr ⟨pattern, made, rfl⟩
  have compiled : ([grammar].mapM fun grammar => grammar.relation tagsets) = .ok [relation] :=
    mapM_cons_eq_ok_iff.mpr ⟨relation, [], listed, rfl, rfl⟩
  refine ⟨_, relations_eq_ok_iff.mpr ⟨[relation], compiled, rfl⟩, rfl, fun tokens => ?_⟩
  simp [RelationSet.analyze, RelationSet.active, Relation.analyze, relation, active]

/-- Three slots, the label of the last of which begins with that of the first. -/
def triple (allowed : Dictionary (List String)) : Grammar where
  name := "triple"
  source := "1:[] 2:[] 1X:[]"
  language := "en"
  allowed := allowed

/-- A part of speech at a slot and the label that goes on with its letter have one stream: with the former
nothing is found among nouns, with the latter a match. -/
theorem analyze_ne_of_stream_eq :
    let first : GrammarSet := ⟨"v1", [triple (Dictionary.empty.insert "1" ["X"])]⟩
    let second : GrammarSet := ⟨"v1", [triple (Dictionary.empty.insert "1X" [])]⟩
    let tokens : List Token := [⟨"tree", "tree", "NOUN", .empty⟩, ⟨"house", "house", "NOUN", .empty⟩,
      ⟨"roof", "roof", "NOUN", .empty⟩]
    ∃ relations other, first.relations .empty = .ok relations ∧ second.relations .empty = .ok other ∧
      first.stream = second.stream ∧ relations.fingerprint = other.fingerprint ∧
      relations.analyze tokens = [] ∧ other.analyze tokens = [⟨"triple", ⟨[0, 1, 2], 0, 1⟩⟩] := by
  intro first second tokens
  have streams : first.stream = second.stream := by decide +kernel
  have narrowed : ((triple (Dictionary.empty.insert "1" ["X"])).pattern .empty).toOption.map
      (fun pattern => pattern.matchesIn tokens) = some [] := by
    decide +kernel
  have bare : ((triple (Dictionary.empty.insert "1X" [])).pattern .empty).toOption.map
      (fun pattern => pattern.matchesIn tokens) = some [⟨[0, 1, 2], 0, 1⟩] := by
    decide +kernel
  obtain ⟨pattern, made, nothing⟩ := exists_ok_of_toOption narrowed
  obtain ⟨otherPattern, otherMade, one⟩ := exists_ok_of_toOption bare
  obtain ⟨relations, accepted, fingerprint, analyses⟩ := exists_relations_of_single made rfl "v1"
  obtain ⟨other, otherAccepted, otherFingerprint, otherAnalyses⟩ :=
    exists_relations_of_single otherMade rfl "v1"
  refine ⟨relations, other, accepted, otherAccepted, streams, ?_, ?_, ?_⟩
  · rw [fingerprint, otherFingerprint]
    exact congrArg (fun stream => Text.hexBytes (Sha256.digest stream)) streams
  · rw [analyses, nothing, List.map_nil]
  · rw [otherAnalyses, one]
    rfl

end GrammarSet
end Collocation
