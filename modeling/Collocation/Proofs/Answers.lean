/-!
# Answers that may be errors

A computation that may be refused answers with a value only if each of its steps does, and is refused
where the first of them is.
-/

namespace Collocation

variable {ε α β : Type}

theorem bind_eq_ok_iff {answer : Except ε α} {next : α → Except ε β} {value : β} :
    (answer >>= next) = .ok value ↔ ∃ middle, answer = .ok middle ∧ next middle = .ok value := by
  cases answer <;> simp [bind, Except.bind]

theorem bind_eq_error_iff {answer : Except ε α} {next : α → Except ε β} {cause : ε} :
    (answer >>= next) = .error cause ↔
      answer = .error cause ∨ ∃ middle, answer = .ok middle ∧ next middle = .error cause := by
  cases answer <;> simp [bind, Except.bind]

theorem map_eq_ok_iff {answer : Except ε α} {change : α → β} {value : β} :
    answer.map change = .ok value ↔ ∃ middle, answer = .ok middle ∧ change middle = value := by
  cases answer <;> simp [Except.map]

theorem map_eq_error_iff {answer : Except ε α} {change : α → β} {cause : ε} :
    answer.map change = .error cause ↔ answer = .error cause := by
  cases answer <;> simp [Except.map]

theorem throw_ne_ok (cause : ε) (value : α) : (throw cause : Except ε α) ≠ .ok value := by
  simp [throw, throwThe, MonadExceptOf.throw]

theorem pure_eq_ok_iff {result value : α} :
    (pure result : Except ε α) = .ok value ↔ result = value := by
  simp [pure, Except.pure]

theorem pure_ne_error (value : α) (cause : ε) : (pure value : Except ε α) ≠ .error cause := by
  simp [pure, Except.pure]

theorem exists_ok_of_toOption {answer : Except ε α} {view : α → β} {value : β}
    (seen : answer.toOption.map view = some value) :
    ∃ result, answer = .ok result ∧ view result = value := by
  cases answer with
  | error cause => cases seen
  | ok result => exact ⟨result, rfl, Option.some.inj seen⟩

/-- Why there is no value. -/
def fault? (answer : Except ε α) : Option ε :=
  match answer with
  | .ok _ => none
  | .error cause => some cause

theorem fault?_eq_some_iff {answer : Except ε α} {cause : ε} : fault? answer = some cause ↔ answer = .error cause := by
  cases answer <;> simp [fault?]

section Lists

variable {compute : α → Except ε β} {results : List β}

theorem mapM_cons_eq_ok_iff {item : α} {list : List α} :
    (item :: list).mapM compute = .ok results ↔
      ∃ first others, compute item = .ok first ∧ list.mapM compute = .ok others ∧
        results = first :: others := by
  simp only [List.mapM_cons, bind_eq_ok_iff, pure_eq_ok_iff]
  constructor
  · rintro ⟨first, computed, others, continued, rfl⟩
    exact ⟨first, others, computed, continued, rfl⟩
  · rintro ⟨first, others, computed, continued, rfl⟩
    exact ⟨first, computed, others, continued, rfl⟩

theorem mapM_append_eq_ok_iff {first second : List α} :
    (first ++ second).mapM compute = .ok results ↔
      ∃ earlier later, first.mapM compute = .ok earlier ∧ second.mapM compute = .ok later ∧
        results = earlier ++ later := by
  simp only [List.mapM_append, bind_eq_ok_iff, pure_eq_ok_iff]
  constructor
  · rintro ⟨earlier, computed, later, continued, rfl⟩
    exact ⟨earlier, later, computed, continued, rfl⟩
  · rintro ⟨earlier, later, computed, continued, rfl⟩
    exact ⟨earlier, computed, later, continued, rfl⟩

theorem length_of_mapM_eq_ok {list : List α} (computed : list.mapM compute = .ok results) :
    results.length = list.length := by
  induction list generalizing results with
  | nil =>
      rw [List.mapM_nil, pure_eq_ok_iff] at computed
      rw [← computed, List.length_nil, List.length_nil]
  | cons item list induction =>
      obtain ⟨first, others, -, continued, rfl⟩ := mapM_cons_eq_ok_iff.mp computed
      rw [List.length_cons, List.length_cons, induction continued]

theorem exists_of_mem_of_mapM_eq_ok {list : List α} (computed : list.mapM compute = .ok results)
    {result : β} (member : result ∈ results) : ∃ item ∈ list, compute item = .ok result := by
  induction list generalizing results with
  | nil =>
      rw [List.mapM_nil, pure_eq_ok_iff] at computed
      rw [← computed] at member
      cases member
  | cons item list induction =>
      obtain ⟨first, others, here, continued, rfl⟩ := mapM_cons_eq_ok_iff.mp computed
      rcases List.mem_cons.mp member with rfl | later
      · exact ⟨item, List.mem_cons_self, here⟩
      · obtain ⟨origin, known, same⟩ := induction continued later
        exact ⟨origin, List.mem_cons_of_mem item known, same⟩

theorem mem_iff_of_mapM_eq_ok {list : List α} (computed : list.mapM compute = .ok results) {result : β} :
    result ∈ results ↔ ∃ item ∈ list, compute item = .ok result := by
  refine ⟨exists_of_mem_of_mapM_eq_ok computed, ?_⟩
  rintro ⟨item, member, same⟩
  induction list generalizing results with
  | nil => cases member
  | cons other list induction =>
      obtain ⟨first, others, here, continued, rfl⟩ := mapM_cons_eq_ok_iff.mp computed
      rcases List.mem_cons.mp member with rfl | later
      · obtain rfl := Except.ok.inj (here.symm.trans same)
        exact List.mem_cons_self
      · exact List.mem_cons_of_mem first (induction continued later)

theorem exists_mapM_eq_ok_iff {list : List α} :
    (∃ results, list.mapM compute = .ok results) ↔ ∀ item ∈ list, ∃ result, compute item = .ok result := by
  induction list with
  | nil => exact ⟨fun _ item member => absurd member List.not_mem_nil, fun _ => ⟨[], rfl⟩⟩
  | cons item list induction =>
      simp only [mapM_cons_eq_ok_iff, List.forall_mem_cons, ← induction]
      constructor
      · rintro ⟨_, first, others, here, continued, -⟩
        exact ⟨⟨first, here⟩, others, continued⟩
      · rintro ⟨⟨first, here⟩, others, continued⟩
        exact ⟨first :: others, first, others, here, continued, rfl⟩

/-- A list is refused at its first element that is refused. -/
theorem mapM_eq_error_iff {list : List α} {cause : ε} :
    list.mapM compute = .error cause ↔ ∃ before item after, list = before ++ item :: after ∧
      (∀ earlier ∈ before, ∃ result, compute earlier = .ok result) ∧ compute item = .error cause := by
  induction list with
  | nil =>
      refine ⟨fun refused => absurd refused (pure_ne_error _ _), ?_⟩
      rintro ⟨before, item, after, whole, -⟩
      exact absurd whole.symm (List.append_ne_nil_of_right_ne_nil before (List.cons_ne_nil item after))
  | cons first list induction =>
      simp only [List.mapM_cons, bind_eq_error_iff, pure_ne_error, and_false, exists_false, or_false, induction]
      constructor
      · rintro (refused | ⟨result, here, before, item, after, rfl, fine, refused⟩)
        · exact ⟨[], first, list, rfl, fun _ member => absurd member List.not_mem_nil, refused⟩
        · exact ⟨first :: before, item, after, rfl, List.forall_mem_cons.mpr ⟨⟨result, here⟩, fine⟩, refused⟩
      · rintro ⟨before, item, after, whole, fine, refused⟩
        cases before with
        | nil =>
            obtain ⟨rfl, rfl⟩ := List.cons_eq_cons.mp whole
            exact .inl refused
        | cons earlier before =>
            obtain ⟨rfl, rfl⟩ := List.cons_eq_cons.mp whole
            obtain ⟨⟨result, here⟩, fine⟩ := List.forall_mem_cons.mp fine
            exact .inr ⟨result, here, before, item, after, rfl, fine, refused⟩

theorem eq_map_of_mapM_eq_ok {make : α → β} (made : ∀ item result, compute item = .ok result → result = make item)
    {list : List α} (computed : list.mapM compute = .ok results) : results = list.map make := by
  induction list generalizing results with
  | nil => exact (pure_eq_ok_iff.mp computed).symm
  | cons item list induction =>
      obtain ⟨first, others, here, continued, rfl⟩ := mapM_cons_eq_ok_iff.mp computed
      rw [List.map_cons, made item first here, induction continued]

/-- A list in another order has its results in that order. -/
theorem exists_mapM_of_perm {list other : List α} (permuted : list.Perm other)
    (computed : list.mapM compute = .ok results) :
    ∃ others, other.mapM compute = .ok others ∧ results.Perm others := by
  induction permuted generalizing results with
  | nil => exact ⟨results, computed, .refl _⟩
  | cons item permuted induction =>
      obtain ⟨first, rest, here, continued, rfl⟩ := mapM_cons_eq_ok_iff.mp computed
      obtain ⟨others, also, same⟩ := induction continued
      exact ⟨first :: others, mapM_cons_eq_ok_iff.mpr ⟨first, others, here, also, rfl⟩, same.cons first⟩
  | swap left right list =>
      obtain ⟨second, _, there, further, rfl⟩ := mapM_cons_eq_ok_iff.mp computed
      obtain ⟨first, others, here, continued, rfl⟩ := mapM_cons_eq_ok_iff.mp further
      have behind := mapM_cons_eq_ok_iff.mpr ⟨second, others, there, continued, rfl⟩
      exact ⟨first :: second :: others, mapM_cons_eq_ok_iff.mpr ⟨first, _, here, behind, rfl⟩,
        .swap first second others⟩
  | trans _ _ first second =>
      obtain ⟨middle, continued, same⟩ := first computed
      obtain ⟨others, also, further⟩ := second continued
      exact ⟨others, also, same.trans further⟩

end Lists
end Collocation
