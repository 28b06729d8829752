import Collocation.Proofs.Table.Dictionary
import Collocation.Proofs.Text.Bytes
import Collocation.Proofs.Text.Fields

/-!
# The bytes behind an address

The address of a sentence is a digest of the bytes of its tokens.  A mark stands between two fields of a token and
another behind each token, and an equals sign between the key and the value of a feature.  Where no text holds a mark
and no key an equals sign, the bytes determine the tokens, whatever the features are and however many there are.
-/

namespace Collocation

namespace Features

theorem equals_not_mem_of_pairOf? {piece : List Char} {feature : String × String}
    (read : pairOf? piece = some feature) : '=' ∉ feature.1.toList := by
  obtain ⟨sides, cut, rfl⟩ := Option.map_eq_some_iff.mp read
  rw [String.toList_ofList]
  exact Text.not_mem_of_cut? cut

theorem equals_not_mem_of_mem_ofText {text : String} {feature : String × String}
    (member : feature ∈ (ofText text).entries) : '=' ∉ feature.1.toList := by
  rw [ofText] at member
  split at member
  · exact absurd member List.not_mem_nil
  · obtain ⟨other, found, named⟩ := Dictionary.exists_of_mem_ofList member
    obtain ⟨piece, -, read⟩ := List.mem_filterMap.mp found
    exact named ▸ equals_not_mem_of_pairOf? read

/-- Features with different keys may be written in any order. -/
theorem ofText_eq_of_perm {first second : String}
    (same : (Text.fields '|' first.toList).Perm (Text.fields '|' second.toList))
    (distinct : (((Text.fields '|' first.toList).filterMap pairOf?).map Prod.fst).Nodup) :
    ofText first = ofText second := by
  have alone {text other : String} (single : '|' ∉ text.toList)
      (same : (Text.fields '|' text.toList).Perm (Text.fields '|' other.toList)) : other = text := by
    rw [Text.fields_eq_singleton single] at same
    have pieces := List.perm_singleton.mp same.symm
    have joined := Text.joinFields_fields '|' other.toList
    rw [pieces] at joined
    exact String.toList_injective joined.symm
  have both {text other : String} (same : (Text.fields '|' text.toList).Perm (Text.fields '|' other.toList))
      (nothing : text = "_" ∨ text = "") : other = text := by
    rcases nothing with rfl | rfl
    · exact alone (by decide) same
    · exact alone (by decide) same
  by_cases nothing : first = "_" ∨ first = ""
  · rw [both same nothing]
  · have something : ¬(second = "_" ∨ second = "") := fun blank =>
      nothing (both same.symm blank ▸ blank)
    rw [ofText, ofText, if_neg nothing, if_neg something]
    exact Dictionary.ofList_eq_of_perm (same.filterMap _) distinct

end Features

/-! ## Clean tokens -/

/-- The texts of a token in order: its fields, and then the key and the value of every feature. -/
def Token.texts (token : Token) : List String :=
  token.form :: token.base :: token.tag :: token.features.entries.flatMap fun feature => [feature.1, feature.2]

/-- A token none of whose texts holds a mark, and none of whose keys an equals sign. -/
structure Token.IsClean (token : Token) : Prop where
  /-- The characters of the marks are in no text. -/
  free : ∀ text ∈ token.texts, '\x1e' ∉ text.toList ∧ '\x1f' ∉ text.toList
  /-- The first equals sign of a feature ends its key. -/
  keys : ∀ feature ∈ token.features.entries, '=' ∉ feature.1.toList

/-- Two tokens have the same form, the same lemma, the same part of speech, and the same value for every key. -/
structure Token.Agrees (left right : Token) : Prop where
  form : left.form = right.form
  base : left.base = right.base
  tag : left.tag = right.tag
  features : ∀ key, left.features.get? key = right.features.get? key

theorem Token.agrees_iff {left right : Token} : left.Agrees right ↔ left = right := by
  constructor
  · rintro ⟨form, base, tag, features⟩
    cases left
    cases right
    cases form
    cases base
    cases tag
    cases Dictionary.eq_of_get?_eq features
    rfl
  · rintro rfl
    exact ⟨rfl, rfl, rfl, fun _ => rfl⟩

namespace ContentHash

variable {token other : Token} {left right : List Token} {rest others : List UInt8}

/-- The bytes of a feature, its key and its value being told apart by an equals sign. -/
def pairBytes (feature : String × String) : List UInt8 :=
  textBytes feature.1 ++ '='.toUInt8 :: textBytes feature.2

/-- The bytes of a token between its marks. -/
def pieces (token : Token) : List (List UInt8) :=
  textBytes token.form :: textBytes token.base :: textBytes token.tag :: token.features.entries.map pairBytes

theorem textBytes_inj {left right : String} (same : textBytes left = textBytes right) : left = right :=
  Grammar.textBytes_inj.mp same

theorem mem_textBytes_iff {char : Char} (small : char.toNat < 128) {text : String} :
    char.toUInt8 ∈ textBytes text ↔ char ∈ text.toList :=
  Grammar.mem_textBytes_iff small

theorem tokenBytes_eq (token : Token) : tokenBytes token = [fieldMark].intercalate (pieces token) ++ [tokenMark] := by
  have later (first : List UInt8) (features : List (String × String)) :
      [fieldMark].intercalate (first :: features.map pairBytes) = first ++ features.flatMap featureBytes := by
    induction features generalizing first with
    | nil => simp
    | cons feature features induction =>
        rw [List.map_cons, List.intercalate_cons_cons, induction]
        simp [featureBytes, pairBytes]
  rw [pieces, List.intercalate_cons_cons, List.intercalate_cons_cons, later, tokenBytes]
  simp

theorem not_mem_of_mem_pieces {char : Char} (small : char.toNat < 128) (apart : char.toUInt8 ≠ '='.toUInt8)
    (free : ∀ text ∈ token.texts, char ∉ text.toList) {piece : List UInt8} (member : piece ∈ pieces token) :
    char.toUInt8 ∉ piece := by
  have absent {text : String} (listed : text ∈ token.texts) : char.toUInt8 ∉ textBytes text := fun inside =>
    free text listed ((mem_textBytes_iff small).mp inside)
  simp only [pieces, List.mem_cons, List.mem_map] at member
  rcases member with rfl | rfl | rfl | ⟨feature, known, rfl⟩
  · exact absent (by simp [Token.texts])
  · exact absent (by simp [Token.texts])
  · exact absent (by simp [Token.texts])
  · have listed (text : String) (part : text = feature.1 ∨ text = feature.2) : text ∈ token.texts := by
      refine List.mem_cons_of_mem _ (List.mem_cons_of_mem _ (List.mem_cons_of_mem _ ?_))
      exact List.mem_flatMap.mpr ⟨feature, known, by simpa using part⟩
    rw [pairBytes, List.mem_append, List.mem_cons, not_or, not_or]
    exact ⟨absent (listed _ (Or.inl rfl)), apart, absent (listed _ (Or.inr rfl))⟩

theorem fieldMark_not_mem (clean : token.IsClean) {piece : List UInt8} (member : piece ∈ pieces token) :
    fieldMark ∉ piece :=
  not_mem_of_mem_pieces (by decide) (by decide) (fun text listed => (clean.free text listed).2) member

theorem tokenMark_not_mem (clean : token.IsClean) {piece : List UInt8} (member : piece ∈ pieces token) :
    tokenMark ∉ piece :=
  not_mem_of_mem_pieces (by decide) (by decide) (fun text listed => (clean.free text listed).1) member

/-! ## What the bytes determine -/

theorem pairBytes_inj {first second : String × String} (left : '=' ∉ first.1.toList) (right : '=' ∉ second.1.toList)
    (same : pairBytes first = pairBytes second) : first = second := by
  have free {key : String} (none : '=' ∉ key.toList) : '='.toUInt8 ∉ textBytes key := fun member =>
    none ((mem_textBytes_iff (by decide)).mp member)
  obtain ⟨keys, values⟩ := append_cons_inj_of_not_mem (free left) (free right) same
  exact Prod.ext (textBytes_inj keys) (textBytes_inj values)

/-- A clean token is determined by the bytes between its marks. -/
theorem pieces_inj (clean : token.IsClean) (otherClean : other.IsClean) (same : pieces token = pieces other) :
    token = other := by
  obtain ⟨form, base, tag, pairs⟩ : textBytes token.form = textBytes other.form ∧
      textBytes token.base = textBytes other.base ∧ textBytes token.tag = textBytes other.tag ∧
        token.features.entries.map pairBytes = other.features.entries.map pairBytes := by
    simpa [pieces] using same
  have features : token.features.entries = other.features.entries :=
    eq_of_map_eq (fun feature member second inside =>
      pairBytes_inj (clean.keys feature member) (otherClean.keys second inside)) pairs
  refine Token.agrees_iff.mp ⟨textBytes_inj form, textBytes_inj base, textBytes_inj tag, fun key => ?_⟩
  rw [Dictionary.get?, features, Dictionary.get?]

/-- The bytes of a clean token end with its mark, so the token is determined, and so is what follows it. -/
theorem tokenBytes_append_inj (clean : token.IsClean) (otherClean : other.IsClean)
    (same : tokenBytes token ++ rest = tokenBytes other ++ others) : token = other ∧ rest = others := by
  have unmarked {token : Token} (clean : token.IsClean) : tokenMark ∉ [fieldMark].intercalate (pieces token) := by
    intro member
    rcases exists_of_mem_intercalate member with mark | ⟨piece, listed, inside⟩
    · exact absurd mark (by decide)
    · exact tokenMark_not_mem clean listed inside
  have split {token : Token} (clean : token.IsClean) :
      ([fieldMark].intercalate (pieces token)).splitOn fieldMark = pieces token :=
    List.splitOn_intercalate fieldMark (fun _ member => fieldMark_not_mem clean member) (List.cons_ne_nil _ _)
  rw [tokenBytes_eq, tokenBytes_eq, List.append_assoc, List.append_assoc] at same
  obtain ⟨bodies, rests⟩ := append_cons_inj_of_not_mem (unmarked clean) (unmarked otherClean) same
  have cut := congrArg (List.splitOn fieldMark) bodies
  rw [split clean, split otherClean] at cut
  exact ⟨pieces_inj clean otherClean cut, rests⟩

theorem tokenBytes_ne_nil (token : Token) : tokenBytes token ≠ [] := by
  rw [tokenBytes_eq]
  exact List.append_ne_nil_of_right_ne_nil _ (List.cons_ne_nil _ _)

/-- Clean tokens are determined by their bytes. -/
theorem stream_inj (leftClean : ∀ token ∈ left, token.IsClean) (rightClean : ∀ token ∈ right, token.IsClean)
    (same : stream left = stream right) : left = right := by
  induction left generalizing right with
  | nil =>
      cases right with
      | nil => rfl
      | cons other right =>
          rw [stream, stream, List.flatMap_nil, List.flatMap_cons] at same
          exact absurd (List.append_eq_nil_iff.mp same.symm).1 (tokenBytes_ne_nil other)
  | cons token left induction =>
      cases right with
      | nil =>
          rw [stream, stream, List.flatMap_nil, List.flatMap_cons] at same
          exact absurd (List.append_eq_nil_iff.mp same).1 (tokenBytes_ne_nil token)
      | cons other right =>
          obtain ⟨here, cleanLeft⟩ := List.forall_mem_cons.mp leftClean
          obtain ⟨there, cleanRight⟩ := List.forall_mem_cons.mp rightClean
          rw [stream, stream, List.flatMap_cons, List.flatMap_cons] at same
          obtain ⟨rfl, rests⟩ := tokenBytes_append_inj here there same
          rw [induction cleanLeft cleanRight rests]

/-- Clean tokens have equal bytes exactly if they are as many and agree one by one in form, lemma, part of speech and the
values of all keys; so the bytes differ as soon as the same letters are divided otherwise into tokens, fields, keys and
values.  The order in which a text lists features with different keys makes no difference to the bytes, and no key read
from a text holds an equals sign. -/
theorem stream_eq_iff_of_clean (leftClean : ∀ token ∈ left, token.IsClean)
    (rightClean : ∀ token ∈ right, token.IsClean) :
    (stream left = stream right ↔
      left.length = right.length ∧ ∀ (place : Nat) (token other : Token),
        left[place]? = some token → right[place]? = some other → token.Agrees other) ∧
    (left.map Token.texts ≠ right.map Token.texts → stream left ≠ stream right) ∧
    (∀ first second : String, (Text.fields '|' first.toList).Perm (Text.fields '|' second.toList) →
      (((Text.fields '|' first.toList).filterMap Features.pairOf?).map Prod.fst).Nodup →
        ∀ (before after : List Token) (form base tag : String),
          stream (before ++ ⟨form, base, tag, .ofText first⟩ :: after) =
            stream (before ++ ⟨form, base, tag, .ofText second⟩ :: after)) ∧
    ∀ (text : String), ∀ feature ∈ (Features.ofText text).entries, '=' ∉ feature.1.toList := by
  refine ⟨⟨fun same => ?_, fun ⟨length, agrees⟩ => ?_⟩, fun divided same => ?_, ?_, ?_⟩
  · obtain rfl := stream_inj leftClean rightClean same
    refine ⟨rfl, fun place token other here there => ?_⟩
    exact Token.agrees_iff.mpr (Option.some.inj (here.symm.trans there))
  · have equal : left = right := List.ext_getElem length fun place inside within =>
      Token.agrees_iff.mp (agrees place _ _ (List.getElem?_eq_getElem inside) (List.getElem?_eq_getElem within))
    rw [equal]
  · exact divided (by rw [stream_inj leftClean rightClean same])
  · intro first second same distinct before after form base tag
    rw [Features.ofText_eq_of_perm same distinct]
  · exact fun text feature member => Features.equals_not_mem_of_mem_ofText member

/-- A value that holds equals signs, and a letter that moves from a form to a lemma. -/
theorem stream_of_moved_letter :
    let features : Features := .ofText "Gloss=a=b|Case=Nom"
    let left : List Token := [⟨"house", "s", "NOUN", features⟩]
    let right : List Token := [⟨"house", "s", "NOUN", .ofText "Case=Nom|Gloss=a=b"⟩]
    let moved : List Token := [⟨"hous", "es", "NOUN", features⟩]
    (∀ token ∈ left ++ right ++ moved, token.IsClean) ∧ stream left = stream right ∧ stream left ≠ stream moved := by
  intro features left right moved
  have clean : ∀ token ∈ left ++ right ++ moved, token.IsClean := by
    have each (token : Token) (listed : token ∈ left ++ right ++ moved) :
        (token.texts.all fun text => !text.toList.contains '\x1e' && !text.toList.contains '\x1f') &&
          token.features.entries.all fun feature => !feature.1.toList.contains '=' := by
      revert token
      decide +kernel
    intro token listed
    have checked := each token listed
    simp only [Bool.and_eq_true, List.all_eq_true, Bool.not_eq_true', List.contains_eq_mem, decide_eq_false_iff_not]
      at checked
    exact ⟨checked.1, checked.2⟩
  have cleanLeft : ∀ token ∈ left, token.IsClean := fun token member => clean token (by simp [member])
  have cleanRight : ∀ token ∈ right, token.IsClean := fun token member => clean token (by simp [member])
  have cleanMoved : ∀ token ∈ moved, token.IsClean := fun token member => clean token (by simp [member])
  obtain ⟨-, -, reordered, -⟩ := stream_eq_iff_of_clean cleanLeft cleanRight
  obtain ⟨-, divided, -⟩ := stream_eq_iff_of_clean cleanLeft cleanMoved
  refine ⟨clean, reordered _ _ (by decide +kernel) (by decide +kernel) [] [] _ _ _, divided (by decide +kernel)⟩

end ContentHash
end Collocation
