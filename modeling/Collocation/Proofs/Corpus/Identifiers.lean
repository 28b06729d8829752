import Collocation.Proofs.Corpus.Rendering

/-!
# Lines sorted by their IDs

A line of ten columns gives a token under an ID of digits above zero.  It is passed over under an ID with a hyphen or a
point and a number at the start of each side; what stands behind a number is not looked at, so such an ID need not be
one for a range or an empty node.  Any other line makes the whole block malformed.
-/

namespace Collocation
namespace Conllu

/-! ## Numbers at the start of a text -/

/-- The digits that a text begins with, all of them. -/
structure LeadingDigits (text digits : List Char) : Prop where
  /-- There is nothing else among them. -/
  only : ∀ digit ∈ digits, digit.isDigit = true
  /-- No further digit follows. -/
  most : ∃ rest, text = digits ++ rest ∧ ∀ char ∈ rest.head?, char.isDigit = false

/-- A text begins with a number of 64 bits.  Behind a sign no digit is needed, and behind a minus sign no number but
zero is one. -/
inductive BeginsWithNumber : List Char → Prop where
  /-- Digits without a sign. -/
  | unsigned {text digits : List Char} (leading : LeadingDigits text digits) (nonempty : digits ≠ [])
      (bounded : Text.decimalValue digits < UInt64.size) : BeginsWithNumber text
  /-- A plus sign, and digits if there are any. -/
  | plus {text digits : List Char} (leading : LeadingDigits text digits)
      (bounded : Text.decimalValue digits < UInt64.size) : BeginsWithNumber ('+' :: text)
  /-- A minus sign, and zeros if there are any. -/
  | minus {text digits : List Char} (leading : LeadingDigits text digits)
      (zero : Text.decimalValue digits = 0) : BeginsWithNumber ('-' :: text)

variable {text digits : List Char}

theorem leadingDigits_iff : LeadingDigits text digits ↔ digits = text.takeWhile Char.isDigit := by
  constructor
  · rintro ⟨only, rest, rfl, stops⟩
    rw [List.takeWhile_append_of_pos only]
    cases rest with
    | nil => simp
    | cons char rest => simp [stops char rfl]
  · rintro rfl
    refine ⟨fun digit member => ?_, text.dropWhile Char.isDigit, List.takeWhile_append_dropWhile.symm, ?_⟩
    · exact List.all_eq_true.mp List.all_takeWhile digit member
    · intro char first
      have stops := List.head?_dropWhile_not Char.isDigit text
      rw [Option.mem_def.mp first] at stops
      exact stops

theorem leadingDigits_self (only : ∀ digit ∈ digits, digit.isDigit = true) : LeadingDigits digits digits :=
  ⟨only, [], (List.append_nil digits).symm, fun _ none => nomatch none⟩

theorem LeadingDigits.eq_nil {sign : Char} (leading : LeadingDigits (sign :: text) digits)
    (solid : sign.isDigit = false) : digits = [] := by
  rw [leadingDigits_iff.mp leading, List.takeWhile_cons_of_neg (by rw [solid]; exact Bool.false_ne_true)]

theorem beginsWithNumber_minus_iff :
    BeginsWithNumber ('-' :: text) ↔ Text.decimalValue (text.takeWhile Char.isDigit) = 0 := by
  constructor
  · intro begins
    cases begins with
    | unsigned leading nonempty => exact absurd (leading.eq_nil (by decide)) nonempty
    | minus leading zero => exact leadingDigits_iff.mp leading ▸ zero
  · exact .minus (leadingDigits_iff.mpr rfl)

theorem beginsWithNumber_plus_iff :
    BeginsWithNumber ('+' :: text) ↔ Text.decimalValue (text.takeWhile Char.isDigit) < UInt64.size := by
  constructor
  · intro begins
    cases begins with
    | unsigned leading nonempty => exact absurd (leading.eq_nil (by decide)) nonempty
    | plus leading bounded => exact leadingDigits_iff.mp leading ▸ bounded
  · exact .plus (leadingDigits_iff.mpr rfl)

theorem beginsWithNumber_unsigned_iff (noMinus : ∀ rest, text ≠ '-' :: rest) (noPlus : ∀ rest, text ≠ '+' :: rest) :
    BeginsWithNumber text ↔ text.takeWhile Char.isDigit ≠ [] ∧
      Text.decimalValue (text.takeWhile Char.isDigit) < UInt64.size := by
  constructor
  · intro begins
    cases begins with
    | unsigned leading nonempty bounded => exact leadingDigits_iff.mp leading ▸ ⟨nonempty, bounded⟩
    | plus => exact absurd rfl (noPlus _)
    | minus => exact absurd rfl (noMinus _)
  · rintro ⟨nonempty, bounded⟩
    exact .unsigned (leadingDigits_iff.mpr rfl) nonempty bounded

theorem isSome_leadingNumber?_iff : (leadingNumber? text).isSome ↔ BeginsWithNumber text := by
  unfold leadingNumber?
  split
  next read =>
    split at read
    · next rest =>
        cases read
        rw [beginsWithNumber_minus_iff]
        by_cases zero : Text.decimalValue (rest.takeWhile Char.isDigit) = 0 <;> simp [zero]
    · next rest =>
        cases read
        rw [beginsWithNumber_plus_iff]
        by_cases small : Text.decimalValue (rest.takeWhile Char.isDigit) < UInt64.size <;> simp [small]
    · next noMinus noPlus =>
        cases read
        rw [beginsWithNumber_unsigned_iff noMinus noPlus]
        by_cases empty : text.takeWhile Char.isDigit = [] <;>
          by_cases small : Text.decimalValue (text.takeWhile Char.isDigit) < UInt64.size <;> simp [empty, small]

theorem beginsWithNumber_iff_isNumber (only : ∀ digit ∈ digits, digit.isDigit = true) :
    BeginsWithNumber digits ↔ IsNumber digits := by
  have unsigned {sign : Char} (solid : sign.isDigit = false) (rest : List Char) : digits ≠ sign :: rest := by
    rintro rfl
    rw [only sign List.mem_cons_self] at solid
    cases solid
  rw [beginsWithNumber_unsigned_iff (unsigned (by decide)) (unsigned (by decide)),
    ← leadingDigits_iff.mp (leadingDigits_self only)]
  exact ⟨fun ⟨nonempty, bounded⟩ => ⟨nonempty, only, bounded⟩, fun number => ⟨number.nonempty, number.bounded⟩⟩

/-! ## Kinds of IDs -/

/-- A mark cuts an ID in two: the first hyphen, or without a hyphen the first point. -/
inductive IsMarked : List Char → List Char → List Char → Prop where
  /-- There is a hyphen. -/
  | hyphen {left : List Char} (first : '-' ∉ left) (right : List Char) :
      IsMarked (left ++ '-' :: right) left right
  /-- There is a point. -/
  | point {left right : List Char} (first : '.' ∉ left) (noHyphen : '-' ∉ left ++ '.' :: right) :
      IsMarked (left ++ '.' :: right) left right

/-- An ID that a line is passed over for: a number at the start of each side of the mark. -/
def IsPassedOver (id : List Char) : Prop :=
  ∃ left right, IsMarked id left right ∧ BeginsWithNumber left ∧ BeginsWithNumber right

/-- An ID that makes a token. -/
def IsTokenId (id : List Char) : Prop :=
  IsNumber id ∧ 0 < Text.decimalValue id

variable {id left right : List Char}

theorem idKind?_of_isMarked (marked : IsMarked id left right) :
    idKind? id =
      if (leadingNumber? left).isSome ∧ (leadingNumber? right).isSome then some .other else none := by
  cases marked with
  | hyphen first right => rw [idKind?, Text.cut?_append right first]
  | @point _ right first noHyphen => rw [idKind?, Text.cut?_eq_none noHyphen, Text.cut?_append right first]

theorem idKind?_eq_other_iff_of_isMarked (marked : IsMarked id left right) :
    idKind? id = some .other ↔ BeginsWithNumber left ∧ BeginsWithNumber right := by
  rw [idKind?_of_isMarked marked, ← isSome_leadingNumber?_iff, ← isSome_leadingNumber?_iff]
  split
  · next both => exact ⟨fun _ => both, fun _ => rfl⟩
  · next lacking => exact ⟨fun other => (nomatch other), fun both => absurd both lacking⟩

theorem exists_isMarked (mark : '-' ∈ id ∨ '.' ∈ id) : ∃ left right, IsMarked id left right := by
  by_cases hyphen : '-' ∈ id
  · obtain ⟨left, right, rfl, first⟩ := List.eq_append_cons_of_mem hyphen
    exact ⟨left, right, .hyphen first right⟩
  · obtain ⟨left, right, rfl, first⟩ := List.eq_append_cons_of_mem (mark.resolve_left hyphen)
    exact ⟨left, right, .point first hyphen⟩

theorem idKind?_of_not_mem (noHyphen : '-' ∉ id) (noPoint : '.' ∉ id) :
    idKind? id = if id.all Char.isDigit ∧ (leadingNumber? id).any (0 < ·) then some .word else none := by
  rw [idKind?, Text.cut?_eq_none noHyphen, Text.cut?_eq_none noPoint]

/-- A line is passed over for its ID and for no other. -/
theorem idKind?_eq_other_iff : idKind? id = some .other ↔ IsPassedOver id := by
  constructor
  · intro other
    by_cases mark : '-' ∈ id ∨ '.' ∈ id
    · obtain ⟨left, right, marked⟩ := exists_isMarked mark
      exact ⟨left, right, marked, (idKind?_eq_other_iff_of_isMarked marked).mp other⟩
    · rw [not_or] at mark
      rw [idKind?_of_not_mem mark.1 mark.2] at other
      split at other <;> cases other
  · rintro ⟨left, right, marked, both⟩
    exact (idKind?_eq_other_iff_of_isMarked marked).mpr both

theorem idKind?_eq_word_iff : idKind? id = some .word ↔ IsTokenId id := by
  refine ⟨fun word => ?_, fun ⟨number, positive⟩ => idKind?_of_isNumber number positive⟩
  by_cases mark : '-' ∈ id ∨ '.' ∈ id
  · obtain ⟨left, right, marked⟩ := exists_isMarked mark
    rw [idKind?_of_isMarked marked] at word
    split at word <;> cases word
  · rw [not_or] at mark
    rw [idKind?_of_not_mem mark.1 mark.2] at word
    split at word
    · next fine =>
      have only := List.all_eq_true.mp fine.1
      have number : IsNumber id := by
        refine (beginsWithNumber_iff_isNumber only).mp (isSome_leadingNumber?_iff.mp ?_)
        exact Option.isSome_of_any fine.2
      have positive := fine.2
      rw [leadingNumber?_of_isNumber number, Option.any_some, decide_eq_true_eq] at positive
      exact ⟨number, positive⟩
    · cases word

/-! ## Rows of a block -/

/-- The role of a row. -/
def roleOf (row : List Char) : Line :=
  lineOfText (Text.withoutLineEnd row)

/-- The columns of a row. -/
def columnsOf (row : List Char) : List (List Char) :=
  Text.fields '\t' (Text.withoutLineEnd row)

/-- The first column of a row. -/
def idOf (row : List Char) : List Char :=
  (columnsOf row).headD []

/-- The token of a row. -/
def tokenOf (row : List Char) : Token :=
  let column (place : Nat) := String.ofList ((columnsOf row).getD place [])
  ⟨column 1, column 2, column 3, Features.ofText (column 5)⟩

/-- What is wrong with a row that is malformed.  No more than eleven columns are counted. -/
def causeOf (row : List Char) : String :=
  if (columnsOf row).length = 10 then s!"invalid ID: {String.ofList (idOf row)}"
  else s!"expected 10 fields, found {min (columnsOf row).length 11}"

theorem exists_of_ten_columns : ∀ {columns : List (List Char)}, columns.length = 10 →
    ∃ id form base tag special features head relation links other,
      columns = [id, form, base, tag, special, features, head, relation, links, other]
  | [_, _, _, _, _, _, _, _, _, _], _ => ⟨_, _, _, _, _, _, _, _, _, _, rfl⟩

variable {row : List Char}

theorem allBlank_of_withoutLineEnd (blank : Text.allBlank (Text.withoutLineEnd row)) : Text.allBlank row := by
  obtain ⟨ends, parts, gone⟩ := Text.exists_eq_withoutLineEnd_append row
  have endsBlank : Text.allBlank ends := List.all_eq_true.mpr fun char member =>
    Text.isBlank_of_isLineEnd (gone char member)
  rw [parts, Text.allBlank, List.all_append, Bool.and_eq_true]
  exact ⟨blank, endsBlank⟩

theorem roleOf_of_solid (solid : ¬ Text.allBlank row) :
    (∃ comment, Text.withoutLineEnd row = '#' :: comment ∧ roleOf row = commentLine comment) ∨
      roleOf row = columnLine (Text.withoutLineEnd row) := by
  unfold roleOf lineOfText
  rw [if_neg (mt allBlank_of_withoutLineEnd solid)]
  split
  · next comment begun => exact .inl ⟨comment, begun, rfl⟩
  · exact .inr rfl

theorem roleOf_of_content (solid : ¬ Text.allBlank row) (content : row.head? ≠ some '#') :
    roleOf row = columnLine (Text.withoutLineEnd row) := by
  refine (roleOf_of_solid solid).resolve_left ?_
  rintro ⟨comment, begun, -⟩
  obtain ⟨ends, parts, -⟩ := Text.exists_eq_withoutLineEnd_append row
  rw [parts, begun] at content
  exact content rfl

theorem columnLine_of_ten (ten : (columnsOf row).length = 10) :
    (idKind? (idOf row) = some .word → columnLine (Text.withoutLineEnd row) = .token (tokenOf row)) ∧
      (idKind? (idOf row) = some .other → columnLine (Text.withoutLineEnd row) = .nothing) ∧
      (idKind? (idOf row) = none → columnLine (Text.withoutLineEnd row) = .malformed (causeOf row)) := by
  obtain ⟨id, form, base, tag, special, features, head, relation, links, other, columns⟩ := exists_of_ten_columns ten
  have first : idOf row = id := by rw [idOf, columns, List.headD_cons]
  have token : tokenOf row = ⟨String.ofList form, String.ofList base, String.ofList tag,
      Features.ofText (String.ofList features)⟩ := by
    rw [tokenOf, columns]
    rfl
  have line : columnLine (Text.withoutLineEnd row) = columnsLine id form base tag features := by
    rw [columnsOf] at columns
    rw [columnLine, columns]
  rw [line, columnsLine, token, causeOf, if_pos ten, first]
  exact ⟨fun kind => by rw [kind], fun kind => by rw [kind], fun kind => by rw [kind]⟩

theorem columnLine_of_not_ten (more : (columnsOf row).length ≠ 10) :
    columnLine (Text.withoutLineEnd row) = .malformed (causeOf row) := by
  rw [causeOf, if_neg more]
  unfold columnLine
  split
  · next columns =>
    rw [columnsOf, columns] at more
    exact absurd rfl more
  · rfl

theorem roleOf_ne_blank (solid : ¬ Text.allBlank row) : roleOf row ≠ .blank := by
  rcases roleOf_of_solid solid with ⟨comment, -, role⟩ | role
  · rw [role]
    unfold commentLine
    split <;> simp
  · rw [role]
    by_cases ten : (columnsOf row).length = 10
    · obtain ⟨word, other, none'⟩ := columnLine_of_ten ten
      cases kind : idKind? (idOf row) with
      | none => simp [none' kind]
      | some found => cases found <;> simp [word, other, kind]
    · simp [columnLine_of_not_ten ten]

/-- The columns and the ID of a row decide what it is. -/
theorem roleOf_cases (solid : ¬ Text.allBlank row) (content : row.head? ≠ some '#') :
    ((columnsOf row).length = 10 ∧ IsTokenId (idOf row) ∧ ¬ IsPassedOver (idOf row) ∧
        roleOf row = .token (tokenOf row)) ∨
      ((columnsOf row).length = 10 ∧ IsPassedOver (idOf row) ∧ ¬ IsTokenId (idOf row) ∧ roleOf row = .nothing) ∨
      (((columnsOf row).length = 10 → ¬ IsTokenId (idOf row) ∧ ¬ IsPassedOver (idOf row)) ∧
        roleOf row = .malformed (causeOf row)) := by
  rw [roleOf_of_content solid content, ← idKind?_eq_word_iff, ← idKind?_eq_other_iff]
  by_cases ten : (columnsOf row).length = 10
  · obtain ⟨word, other, none'⟩ := columnLine_of_ten ten
    cases kind : idKind? (idOf row) with
    | none => exact .inr (.inr ⟨fun _ => by simp, none' kind⟩)
    | some found =>
        cases found with
        | word => exact .inl ⟨ten, rfl, by simp, word kind⟩
        | other => exact .inr (.inl ⟨ten, rfl, by simp, other kind⟩)
  · exact .inr (.inr ⟨fun same => absurd same ten, columnLine_of_not_ten ten⟩)

/-! ## The block of a row -/

/-- Rows of text are a whole block of a document, between the lines above it and those below. -/
structure IsBlockIn (document : List UInt8) (upper : List (List UInt8)) (rows : List (List Char))
    (lower : List (List UInt8)) : Prop where
  /-- They are lines of the document. -/
  lines : Text.byteLines document = upper ++ rows.map (fun row => Text.encode (String.ofList row)) ++ lower
  /-- None of them is blank. -/
  solid : ∀ row ∈ rows, ¬ Text.allBlank row
  /-- No block goes on from above. -/
  above : ∀ line ∈ upper.getLast?, lineOfBytes line = .blank ∨ lineOfBytes line = .unreadable
  /-- The block does not go on below. -/
  below : ∀ line ∈ lower.head?, lineOfBytes line = .blank

/-- The roles of rows, with the numbers of their lines. -/
def numbered (number : Nat) (rows : List (List Char)) : List NumberedLine :=
  (rows.map roleOf).zipIdx number

theorem numbered_append (number : Nat) (left right : List (List Char)) :
    numbered number (left ++ right) = numbered number left ++ numbered (number + left.length) right := by
  rw [numbered, List.map_append, List.zipIdx_append, List.length_map, numbered, numbered]

theorem numbered_cons (number : Nat) (row : List Char) (rows : List (List Char)) :
    numbered number (row :: rows) = (roleOf row, number) :: numbered (number + 1) rows := by
  rw [numbered, List.map_cons, List.zipIdx_cons, numbered]

theorem itemsFrom_append_of_ended (ordinal : SentenceId) (number : Nat) (block : Option Block) (upper : List Line)
    {last : Line} (ended : last = .blank ∨ last = .unreadable) (lower : List Line) :
    itemsFrom ordinal number block (upper ++ [last] ++ lower) =
      let first := itemsFrom ordinal number block (upper ++ [last])
      let later := itemsFrom first.2 (number + (upper ++ [last]).length) none lower
      (first.1 ++ later.1, later.2) := by
  induction upper generalizing ordinal number block with
  | nil => rcases ended with rfl | rfl <;> cases block <;> rfl
  | cons line upper induction =>
      have length : number + (line :: upper ++ [last]).length = number + 1 + (upper ++ [last]).length := by
        rw [List.cons_append, List.length_cons]
        omega
      rw [length, List.cons_append, List.cons_append]
      cases line with
      | blank => cases block <;> simp only [itemsFrom, induction, List.cons_append]
      | unreadable => simp only [itemsFrom, induction, List.cons_append]
      | entry | nothing | token | malformed => simp only [itemsFrom, induction]

theorem itemsFrom_append_of_solid (ordinal : SentenceId) (number : Nat) (block : Block) {lines : List Line}
    (solid : ∀ line ∈ lines, line ≠ .blank ∧ line ≠ .unreadable) (lower : List Line) :
    itemsFrom ordinal number (some block) (lines ++ lower) =
      itemsFrom ordinal (number + lines.length)
        (some ((lines.zipIdx number).foldl (fun block line => block.add line.2 line.1) block)) lower := by
  induction lines generalizing number block with
  | nil => rfl
  | cons line lines induction =>
      obtain ⟨here, others⟩ := List.forall_mem_cons.mp solid
      have length : number + (line :: lines).length = number + 1 + lines.length := by
        rw [List.length_cons]
        omega
      rw [List.cons_append, length, List.zipIdx_cons, List.foldl_cons, ← induction _ _ others]
      cases line with
      | blank => exact absurd rfl here.1
      | unreadable => exact absurd rfl here.2
      | entry | nothing | token | malformed => rfl

theorem itemsFrom_of_ended (ordinal : SentenceId) (number : Nat) (block : Block) {lower : List Line}
    (ended : ∀ line ∈ lower.head?, line = .blank) :
    itemsFrom ordinal number (some block) lower =
      let later := itemsFrom (ordinal + 1) number none lower
      (block.item ordinal :: later.1, later.2) := by
  cases lower with
  | nil => rfl
  | cons line lower =>
      obtain rfl := ended line rfl
      rfl

/-- The items of the lines of a block and of those below it. -/
theorem itemsFrom_block (ordinal : SentenceId) (number : Nat) {lines lower : List Line} (nonempty : lines ≠ [])
    (solid : ∀ line ∈ lines, line ≠ .blank ∧ line ≠ .unreadable) (ended : ∀ line ∈ lower.head?, line = .blank) :
    itemsFrom ordinal number none (lines ++ lower) =
      let later := itemsFrom (ordinal + 1) (number + lines.length) none lower
      ((Block.ofLines (lines.zipIdx number)).item ordinal :: later.1, later.2) := by
  have begun :
      itemsFrom ordinal number none (lines ++ lower) = itemsFrom ordinal number (some {}) (lines ++ lower) := by
    obtain ⟨line, others, rfl⟩ := List.exists_cons_of_ne_nil nonempty
    obtain ⟨here, -⟩ := List.forall_mem_cons.mp solid
    cases line with
    | blank => exact absurd rfl here.1
    | unreadable => exact absurd rfl here.2
    | entry | nothing | token | malformed => rfl
  rw [begun, itemsFrom_append_of_solid _ _ _ solid, itemsFrom_of_ended _ _ _ ended]
  rfl

namespace IsBlockIn

variable {document : List UInt8} {upper lower : List (List UInt8)} {rows : List (List Char)}

/-- The roles of the lines of a document around a block. -/
theorem roles (block : IsBlockIn document upper rows lower) :
    (Text.byteLines document).map lineOfBytes =
      upper.map lineOfBytes ++ (rows.map roleOf ++ lower.map lineOfBytes) := by
  have each : lineOfBytes ∘ (fun row => Text.encode (String.ofList row)) = roleOf := funext lineOfBytes_encode_row
  rw [block.lines, List.map_append, List.map_append, List.map_map, List.append_assoc, each]

theorem read_eq (block : IsBlockIn document upper rows lower) (nonempty : rows ≠ []) (start : SentenceId) :
    read start document =
      let first := itemsFrom start 1 none (upper.map lineOfBytes)
      let later := itemsFrom (first.2 + 1) (upper.length + 1 + rows.length) none (lower.map lineOfBytes)
      (first.1 ++ (Block.ofLines (numbered (upper.length + 1) rows)).item first.2 :: later.1, later.2) := by
  have solid : ∀ line ∈ rows.map roleOf, line ≠ .blank ∧ line ≠ .unreadable :=
    List.forall_mem_map.mpr fun row member => ⟨roleOf_ne_blank (block.solid row member), lineOfText_ne_unreadable _⟩
  have ended : ∀ line ∈ (lower.map lineOfBytes).head?, line = .blank := by
    rw [List.head?_map]
    rintro line below
    obtain ⟨bytes, first, rfl⟩ := Option.map_eq_some_iff.mp below
    exact block.below bytes first
  have inside (ordinal : SentenceId) (number : Nat) :=
    itemsFrom_block ordinal number (mt List.map_eq_nil_iff.mp nonempty) solid ended
  rw [read, block.roles]
  rcases List.eq_nil_or_concat' upper with rfl | ⟨front, last, rfl⟩
  · have whole := inside start 1
    rw [List.length_map] at whole
    exact whole
  · have closed := block.above last List.getLast?_concat
    rw [List.map_append, List.map_singleton, itemsFrom_append_of_ended _ _ _ _ closed]
    simp only [inside, List.length_append, List.length_map, List.length_singleton, Nat.add_comm 1, numbered]

end IsBlockIn

/-! ## What a row does to its block -/

theorem faultIn?_numbered_eq_none {rows : List (List Char)}
    (sound : ∀ row ∈ rows, ∀ cause, roleOf row ≠ .malformed cause) (number : Nat) :
    faultIn? (numbered number rows) = none := by
  refine List.findSome?_eq_none_iff.mpr fun line member => ?_
  obtain ⟨row, inside, role⟩ := List.mem_map.mp (List.fst_mem_of_mem_zipIdx member)
  rw [← role]
  cases kind : roleOf row with
  | malformed cause => exact absurd kind (sound row inside cause)
  | blank | unreadable | entry | nothing | token => rfl

theorem le_of_faultIn? {rows : List (List Char)} {number place : Nat} {cause : String}
    (fault : faultIn? (numbered number rows) = some (place, cause)) : number ≤ place := by
  obtain ⟨line, member, found⟩ := List.exists_of_findSome?_eq_some fault
  obtain ⟨_, -, same⟩ := Option.map_eq_some_iff.mp found
  rw [← (Prod.mk.inj same).1]
  exact List.le_snd_of_mem_zipIdx member

theorem add_roleOf (solid : ¬ Text.allBlank row) (content : row.head? ≠ some '#') {block : Block}
    (sound : block.fault = none) (number : Nat) :
    let after := block.add number (roleOf row)
    (after = { block with tokens := block.tokens ++ [tokenOf row] } ↔
        (columnsOf row).length = 10 ∧ IsTokenId (idOf row)) ∧
      (after = block ↔ (columnsOf row).length = 10 ∧ IsPassedOver (idOf row)) := by
  obtain ⟨sentId, text, gloss, tokens, fault⟩ := block
  cases sound
  obtain ⟨ten, place, kept, role⟩ | ⟨ten, passed, noToken, role⟩ | ⟨neither, role⟩ := roleOf_cases solid content
  · simp [role, Block.add, ten, place, kept]
  · simp [role, Block.add, ten, passed, noToken]
  · simpa [role, Block.add] using ⟨fun ten => (neither ten).1, fun ten => (neither ten).2⟩

variable {above below : List (List Char)} {number : Nat}

theorem ofLines_numbered_concat (number : Nat) (above : List (List Char)) (row : List Char) :
    Block.ofLines (numbered number (above ++ [row])) =
      (Block.ofLines (numbered number above)).add (number + above.length) (roleOf row) := by
  rw [numbered_append, numbered_cons, Block.ofLines, List.foldl_append]
  rfl

/-- The fault of a block whose first rows hold none. -/
theorem faultIn?_numbered (sound : ∀ earlier ∈ above, ∀ cause, roleOf earlier ≠ .malformed cause) :
    faultIn? (numbered number (above ++ row :: below)) =
      ((roleOf row).cause?.map fun cause => (number + above.length, cause)).or
        (faultIn? (numbered (number + above.length + 1) below)) := by
  have none := faultIn?_numbered_eq_none sound number
  rw [numbered_append, numbered_cons, faultIn?, List.findSome?_append, List.findSome?_cons]
  rw [faultIn?] at none
  rw [none, Option.none_or]
  cases (roleOf row).cause? <;> rfl

/-- The first malformed row of a block is what the block is reported for. -/
theorem item_eq_malformed_iff (solid : ¬ Text.allBlank row) (content : row.head? ≠ some '#')
    (sound : ∀ earlier ∈ above, ∀ cause, roleOf earlier ≠ .malformed cause) (place : SentenceId) :
    let whole := Block.ofLines (numbered number (above ++ row :: below))
    whole.item place = .malformed (whole.id place) (number + above.length) (causeOf row) ↔
      ¬ ((columnsOf row).length = 10 ∧ (IsTokenId (idOf row) ∨ IsPassedOver (idOf row))) := by
  intro whole
  have fault : whole.fault = _ := (Block.fault_ofLines _).trans (faultIn?_numbered sound)
  have later (none : (roleOf row).cause? = none) :
      whole.item place ≠ .malformed (whole.id place) (number + above.length) (causeOf row) := by
    rw [none, Option.map_none, Option.none_or] at fault
    rw [Block.item, fault]
    cases found : faultIn? (numbered (number + above.length + 1) below) with
    | none => simp
    | some other =>
        have beyond := le_of_faultIn? found
        simp only [ne_eq, Item.malformed.injEq, not_and]
        omega
  rcases roleOf_cases solid content with ⟨ten, tokenId, -, role⟩ | ⟨ten, passed, -, role⟩ | ⟨neither, role⟩
  · exact iff_of_false (later (by rw [role]; rfl)) (not_not_intro ⟨ten, .inl tokenId⟩)
  · exact iff_of_false (later (by rw [role]; rfl)) (not_not_intro ⟨ten, .inr passed⟩)
  · rw [role] at fault
    refine iff_of_true (by rw [Block.item, fault]; rfl) ?_
    rintro ⟨ten, either⟩
    exact either.elim (neither ten).1 (neither ten).2

/-- Without a malformed row a block has the tokens of its first rows and those of the others. -/
theorem item_eq_sentence (sound : ∀ other ∈ above ++ row :: below, ∀ cause, roleOf other ≠ .malformed cause)
    (place : SentenceId) :
    let whole := Block.ofLines (numbered number (above ++ row :: below))
    whole.item place = .sentence ⟨whole.id place,
      (Block.ofLines (numbered number (above ++ [row]))).tokens ++
        tokensIn (numbered (number + above.length + 1) below), whole.text, whole.gloss⟩ := by
  intro whole
  have faultless := faultIn?_numbered_eq_none sound number
  have parts : numbered number (above ++ row :: below) =
      numbered number (above ++ [row]) ++ numbered (number + above.length + 1) below := by
    rw [List.append_cons, numbered_append, List.length_append, List.length_singleton, Nat.add_assoc]
  have first : faultIn? (numbered number (above ++ [row])) = none := by
    rw [parts, faultIn?, List.findSome?_append, Option.or_eq_none_iff] at faultless
    exact faultless.1
  have fault : whole.fault = none := (Block.fault_ofLines _).trans faultless
  have tokens : whole.tokens = _ := Block.tokens_ofLines faultless
  rw [parts, tokensIn, List.filterMap_append] at tokens
  rw [Block.item, fault, tokens, Block.tokens_ofLines first]
  rfl

/-! ## All rows -/

/-- Take any block of rows of text in a document, and any of its rows that is no comment and has no malformed row above
it.  The document has an item for the block, and it is a sentence with the tokens of the rows if none is malformed.  The
row adds a token exactly if it has ten columns and its ID is a number above zero, it is passed over exactly if it has
ten columns and its ID has a mark with a number at the start of each side, and the block is reported for it in all other
cases.  Where the sides of the mark are made of digits alone, both have to be numbers for the row to be passed over. -/
theorem rows_are_sorted_by_id {document : List UInt8} {upper lower : List (List UInt8)}
    (block : IsBlockIn document upper (above ++ row :: below) lower) (content : row.head? ≠ some '#')
    (sound : ∀ earlier ∈ above, ∀ cause, roleOf earlier ≠ .malformed cause) (start : SentenceId) :
    let number := upper.length + 1
    let before := Block.ofLines (numbered number above)
    let after := Block.ofLines (numbered number (above ++ [row]))
    let whole := Block.ofLines (numbered number (above ++ row :: below))
    (let first := itemsFrom start 1 none (upper.map lineOfBytes)
     let later := itemsFrom (first.2 + 1) (number + (above ++ row :: below).length) none (lower.map lineOfBytes)
     read start document = (first.1 ++ whole.item first.2 :: later.1, later.2)) ∧
    ((∀ later ∈ row :: below, ∀ cause, roleOf later ≠ .malformed cause) → ∀ place,
      whole.item place = .sentence ⟨whole.id place,
        after.tokens ++ tokensIn (numbered (number + above.length + 1) below), whole.text, whole.gloss⟩) ∧
    (after = { before with tokens := before.tokens ++ [tokenOf row] } ↔
      (columnsOf row).length = 10 ∧ IsTokenId (idOf row)) ∧
    (after = before ↔ (columnsOf row).length = 10 ∧ IsPassedOver (idOf row)) ∧
    (∀ place, whole.item place = .malformed (whole.id place) (number + above.length) (causeOf row) ↔
      ¬ ((columnsOf row).length = 10 ∧ (IsTokenId (idOf row) ∨ IsPassedOver (idOf row)))) ∧
    ∀ left right, IsMarked (idOf row) left right → (∀ digit ∈ left ++ right, digit.isDigit = true) →
      (after = before ↔ (columnsOf row).length = 10 ∧ IsNumber left ∧ IsNumber right) := by
  intro number before after whole
  have solid := block.solid row (List.mem_append_right _ List.mem_cons_self)
  have soundBefore : before.fault = none := (Block.fault_ofLines _).trans (faultIn?_numbered_eq_none sound number)
  have step : after = before.add (number + above.length) (roleOf row) := ofLines_numbered_concat number above row
  obtain ⟨token, passed⟩ := add_roleOf solid content soundBefore (number + above.length)
  rw [← step] at token passed
  refine ⟨block.read_eq (List.append_ne_nil_of_right_ne_nil _ (List.cons_ne_nil _ _)) start,
    fun others => item_eq_sentence (List.forall_mem_append.mpr ⟨sound, others⟩), token, passed,
    item_eq_malformed_iff solid content sound, ?_⟩
  intro left right marked digits
  obtain ⟨leftDigits, rightDigits⟩ := List.forall_mem_append.mp digits
  rw [passed, ← idKind?_eq_other_iff, idKind?_eq_other_iff_of_isMarked marked,
    beginsWithNumber_iff_isNumber leftDigits, beginsWithNumber_iff_isNumber rightDigits]

/-- Behind a line that is not text a block begins anew, with a token and a range. -/
theorem row_of_range_is_passed_over :
    let word := "1\ta\ta\tX\t_\t_\t_\t_\t_\t_".toList
    let range := "2-3\tb\t_\t_\t_\t_\t_\t_\t_\t_".toList
    let document := [0xff, Text.lineFeed] ++ Text.encode (String.ofList (word ++ '\n' :: range ++ ['\n', '\n']))
    IsBlockIn document [[0xff]] [word, range] [[]] ∧
      Block.ofLines (numbered 2 [word, range]) = Block.ofLines (numbered 2 [word]) ∧
      read 7 document = ([.unreadable 7 1, .sentence ⟨7, [⟨"a", "a", "X", .empty⟩], none, none⟩], 8) := by
  intro word range document
  have block : IsBlockIn document [[0xff]] ([word] ++ range :: []) [[]] := by
    refine ⟨by decide +kernel, by decide +kernel, ?_, ?_⟩
    · exact fun line last => .inr (by cases last; decide +kernel)
    · exact fun line first => by cases first; decide +kernel
  have token : roleOf word = .token ⟨"a", "a", "X", .empty⟩ := by decide +kernel
  have sound : ∀ earlier ∈ [word], ∀ cause, roleOf earlier ≠ .malformed cause :=
    List.forall_mem_singleton.mpr fun cause same => nomatch token.symm.trans same
  have id : idOf range = ['2'] ++ '-' :: ['3'] := by decide +kernel
  have marked : IsMarked (idOf range) ['2'] ['3'] := id ▸ .hyphen (by decide) ['3']
  obtain ⟨items, -, -, -, -, digits⟩ := rows_are_sorted_by_id block (by decide +kernel) sound 7
  have passed := (digits _ _ marked (List.all_eq_true.mp rfl)).mpr ⟨by decide +kernel, by decide, by decide⟩
  refine ⟨block, passed, items.trans ?_⟩
  decide +kernel

/-- What stands behind a number is not looked at: a row with a corrupt ID goes unnoticed, and its sentence is left
without a token. -/
theorem row_of_corrupt_id_is_passed_over :
    let row := "1-2x\ta\ta\tX\t_\t_\t_\t_\t_\t_".toList
    read 1 (Text.encode (String.ofList (row ++ ['\n']))) = ([.sentence ⟨1, [], none, none⟩], 2) ∧
      idOf row = "1-2x".toList ∧
      ¬ ∃ left mark right, idOf row = left ++ mark :: right ∧ IsNumber left ∧ IsNumber right := by
  intro row
  have id : idOf row = ['1', '-', '2', 'x'] := by decide +kernel
  refine ⟨by decide +kernel, id.trans (by decide +kernel), ?_⟩
  rintro ⟨left, mark, right, same, -, number⟩
  have last := congrArg List.getLast? (id.symm.trans same)
  rw [List.getLast?_append_cons, List.getLast?_cons_of_ne_nil number.nonempty] at last
  exact number.not_mem (by decide) (List.mem_of_getLast? last.symm)

end Conllu
end Collocation
