/-!
# Dictionaries

A dictionary gives values to words.  It keeps the words in strictly ascending order, so two
dictionaries with the same entries are equal, in whatever order the entries were made.
-/

namespace Collocation

/-- Words in ascending order, each with a value. -/
structure Dictionary (α : Type) where
  /-- The words with their values. -/
  entries : List (String × α)
  /-- The words ascend strictly. -/
  ascending : entries.Pairwise (fun left right => left.1 < right.1) := by simp
  deriving DecidableEq

namespace Dictionary

variable {α : Type}

/-- No entries. -/
def empty : Dictionary α :=
  { entries := [] }

instance : EmptyCollection (Dictionary α) :=
  ⟨empty⟩

instance : Inhabited (Dictionary α) :=
  ⟨empty⟩

/-- Put an entry among entries in ascending order, in place of one for the same word. -/
def insertEntry (word : String) (value : α) : List (String × α) → List (String × α)
  | [] => [(word, value)]
  | (other, current) :: rest =>
      if word < other then (word, value) :: (other, current) :: rest
      else if other < word then (other, current) :: insertEntry word value rest
      else (word, value) :: rest

theorem mem_insertEntry {word : String} {value : α} {entries : List (String × α)}
    {entry : String × α} (member : entry ∈ insertEntry word value entries) :
    entry.1 = word ∨ entry ∈ entries := by
  induction entries with
  | nil => simp_all [insertEntry]
  | cons first rest ih =>
      obtain ⟨other, current⟩ := first
      simp only [insertEntry] at member
      split at member
      · rcases List.mem_cons.mp member with rfl | old
        · exact .inl rfl
        · exact .inr old
      · split at member
        · rcases List.mem_cons.mp member with rfl | old
          · exact .inr (List.mem_cons_self ..)
          · exact (ih old).imp_right (List.mem_cons_of_mem _)
        · rcases List.mem_cons.mp member with rfl | old
          · exact .inl rfl
          · exact .inr (List.mem_cons_of_mem _ old)

theorem pairwise_insertEntry {word : String} {value : α} {entries : List (String × α)}
    (ascending : entries.Pairwise fun left right => left.1 < right.1) :
    (insertEntry word value entries).Pairwise fun left right => left.1 < right.1 := by
  induction entries with
  | nil => simp [insertEntry]
  | cons first rest ih =>
      obtain ⟨other, current⟩ := first
      obtain ⟨above, tail⟩ := List.pairwise_cons.mp ascending
      simp only [insertEntry]
      split
      · next before =>
          refine List.pairwise_cons.mpr ⟨fun entry member => ?_, ascending⟩
          rcases List.mem_cons.mp member with rfl | old
          · exact before
          · exact String.lt_trans before (above entry old)
      · split
        · next after =>
            refine List.pairwise_cons.mpr ⟨fun entry member => ?_, ih tail⟩
            rcases mem_insertEntry member with same | old
            · exact same ▸ after
            · exact above entry old
        · next notBefore notAfter =>
            have same : word = other := String.le_antisymm notAfter notBefore
            refine List.pairwise_cons.mpr ⟨fun entry old => ?_, tail⟩
            exact same ▸ above entry old

/-- Give a value to a word, in place of the one that it has. -/
def insert (dictionary : Dictionary α) (word : String) (value : α) : Dictionary α where
  entries := insertEntry word value dictionary.entries
  ascending := pairwise_insertEntry dictionary.ascending

/-- The value of a word among entries. -/
def valueOf? (word : String) : List (String × α) → Option α
  | [] => none
  | (other, value) :: rest => if word = other then some value else valueOf? word rest

/-- The value of a word. -/
def get? (dictionary : Dictionary α) (word : String) : Option α :=
  valueOf? word dictionary.entries

/-- Whether there are no entries. -/
def isEmpty (dictionary : Dictionary α) : Bool :=
  dictionary.entries.isEmpty

/-- The dictionary of entries in any order; the last value of a word counts. -/
def ofList (entries : List (String × α)) : Dictionary α :=
  entries.foldl (fun dictionary entry => dictionary.insert entry.1 entry.2) empty

theorem valueOf?_insertEntry (word other : String) (value : α) (entries : List (String × α)) :
    valueOf? other (insertEntry word value entries) =
      if other = word then some value else valueOf? other entries := by
  induction entries with
  | nil => simp [insertEntry, valueOf?]
  | cons first rest ih =>
      obtain ⟨head, current⟩ := first
      simp only [insertEntry]
      split
      · simp [valueOf?]
      · split
        · next after =>
            have apart : head ≠ word := fun equal => String.lt_irrefl word (equal ▸ after)
            by_cases same : other = head <;> simp [valueOf?, same, apart, ih]
        · next notBefore notAfter =>
            have equal : word = head := String.le_antisymm notAfter notBefore
            by_cases same : other = word <;> simp [valueOf?, same, ← equal]

/-- An entry is found under its word, and every other word keeps its value. -/
@[simp]
theorem get?_insert (dictionary : Dictionary α) (word other : String) (value : α) :
    (dictionary.insert word value).get? other =
      if other = word then some value else dictionary.get? other :=
  valueOf?_insertEntry word other value dictionary.entries

end Dictionary
end Collocation
