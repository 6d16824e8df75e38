namespace PawnBytecode.Traversal

variable {ε α β : Type} {visit : α → Except ε β} {items : List α}

theorem mapM_cons_eq_ok {item : α} {values : List β} : (item :: items).mapM visit = .ok values ↔
    ∃ value rest, visit item = .ok value ∧ items.mapM visit = .ok rest ∧ values = value :: rest := by
  rw [List.mapM_cons]
  cases visit item with
  | error cause => simp [bind, Except.bind]
  | ok value =>
    cases items.mapM visit with
    | error cause => simp [bind, Except.bind]
    | ok rest => simp [bind, Except.bind, pure, Except.pure, eq_comm]

theorem mapM_cons_eq_error {item : α} {cause : ε} : (item :: items).mapM visit = .error cause ↔
    visit item = .error cause ∨ ∃ value, visit item = .ok value ∧ items.mapM visit = .error cause := by
  rw [List.mapM_cons]
  cases visit item with
  | error cause => simp [bind, Except.bind]
  | ok value =>
    cases items.mapM visit with
    | error cause => simp [bind, Except.bind]
    | ok rest => simp [bind, Except.bind, pure, Except.pure]

theorem mapM_of_forall {value : α → β} (found : ∀ item ∈ items, visit item = .ok (value item)) :
    items.mapM visit = .ok (items.map value) := by
  induction items with
  | nil => rfl
  | cons item items ih =>
    have others := ih (fun item member => found item (List.mem_cons_of_mem _ member))
    exact mapM_cons_eq_ok.mpr ⟨_, _, found item List.mem_cons_self, others, rfl⟩

theorem exists_mapM (found : ∀ item ∈ items, ∃ value, visit item = .ok value) :
    ∃ values, items.mapM visit = .ok values := by
  induction items with
  | nil => exact ⟨[], rfl⟩
  | cons item items ih =>
    obtain ⟨⟨value, first⟩, others⟩ := List.forall_mem_cons.mp found
    obtain ⟨rest, visited⟩ := ih others
    exact ⟨_, mapM_cons_eq_ok.mpr ⟨value, rest, first, visited, rfl⟩⟩

theorem length_of_mapM {values : List β} (visited : items.mapM visit = .ok values) :
    values.length = items.length := by
  induction items generalizing values with
  | nil =>
    obtain rfl := Except.ok.inj visited
    rfl
  | cons item items ih =>
    obtain ⟨value, rest, _, others, rfl⟩ := mapM_cons_eq_ok.mp visited
    rw [List.length_cons, List.length_cons, ih others]

theorem mapM_of_kept {other : α → Except ε β} {values : List β} (visited : items.mapM visit = .ok values)
    (kept : ∀ item value, visit item = .ok value → other item = .ok value) :
    items.mapM other = .ok values := by
  induction items generalizing values with
  | nil => exact visited
  | cons item items ih =>
    obtain ⟨value, rest, first, others, rfl⟩ := mapM_cons_eq_ok.mp visited
    exact mapM_cons_eq_ok.mpr ⟨value, rest, kept item value first, ih others, rfl⟩

theorem mapM_congr {other : α → Except ε β} (same : ∀ item ∈ items, visit item = other item) :
    items.mapM visit = items.mapM other := by
  induction items with
  | nil => rfl
  | cons item items ih =>
    rw [List.mapM_cons, List.mapM_cons, same item List.mem_cons_self,
      ih fun item member => same item (List.mem_cons_of_mem _ member)]

theorem mapM_take {values : List β} (visited : items.mapM visit = .ok values) (count : Nat) :
    (items.take count).mapM visit = .ok (values.take count) := by
  induction items generalizing values count with
  | nil =>
    obtain rfl : values = [] := (Except.ok.inj visited).symm
    rw [List.take_nil, List.take_nil]
    rfl
  | cons item items ih =>
    obtain ⟨value, rest, first, others, rfl⟩ := mapM_cons_eq_ok.mp visited
    cases count with
    | zero => rfl
    | succ count => exact mapM_cons_eq_ok.mpr ⟨value, _, first, ih others count, rfl⟩

/-- Numbered visits give a list exactly when each gives the entry of its number. -/
theorem mapM_range_eq_ok {visit : Nat → Except ε β} {count : Nat} {values : List β} :
    (List.range count).mapM visit = .ok values ↔ values.length = count ∧
      ∀ index value, values[index]? = some value → visit index = .ok value := by
  induction count generalizing visit values with
  | zero =>
    rw [List.range_zero, List.mapM_nil, List.length_eq_zero_iff]
    constructor
    · intro same
      obtain rfl := Except.ok.inj same
      exact ⟨rfl, fun index value found => by cases found⟩
    · rintro ⟨rfl, _⟩
      rfl
  | succ count ih =>
    rw [List.range_succ_eq_map, mapM_cons_eq_ok]
    simp only [List.mapM_map, ih]
    constructor
    · rintro ⟨value, rest, first, ⟨length, each⟩, rfl⟩
      refine ⟨congrArg Nat.succ length, fun index other found => ?_⟩
      cases index with
      | zero => exact Option.some.inj found ▸ first
      | succ index => exact each index other found
    · rintro ⟨length, each⟩
      cases values with
      | nil => cases length
      | cons value rest =>
        exact ⟨value, rest, each 0 value rfl,
          ⟨Nat.succ.inj length, fun index other found => each (index + 1) other found⟩, rfl⟩

theorem mapM_range {visit : Nat → Except ε β} {values : List β}
    (found : ∀ index value, values[index]? = some value → visit index = .ok value) :
    (List.range values.length).mapM visit = .ok values :=
  mapM_range_eq_ok.mpr ⟨rfl, found⟩

/-- Numbered visits fail exactly as the first of them that fails. -/
theorem mapM_range_eq_error {visit : Nat → Except ε β} {count : Nat} {cause : ε} :
    (List.range count).mapM visit = .error cause ↔ ∃ index < count, visit index = .error cause ∧
      ∀ before < index, ∃ value, visit before = .ok value := by
  induction count generalizing visit with
  | zero => simp [pure, Except.pure]
  | succ count ih =>
    rw [List.range_succ_eq_map, mapM_cons_eq_error]
    simp only [List.mapM_map, ih]
    constructor
    · rintro (failed | ⟨value, first, index, inside, failed, earlier⟩)
      · exact ⟨0, Nat.succ_pos count, failed, fun before less => absurd less (Nat.not_lt_zero before)⟩
      · refine ⟨index + 1, Nat.succ_lt_succ inside, failed, fun before less => ?_⟩
        cases before with
        | zero => exact ⟨value, first⟩
        | succ before => exact earlier before (Nat.lt_of_succ_lt_succ less)
    · rintro ⟨index, inside, failed, earlier⟩
      cases index with
      | zero => exact .inl failed
      | succ index =>
        obtain ⟨value, first⟩ := earlier 0 (Nat.succ_pos index)
        exact .inr ⟨value, first, index, Nat.lt_of_succ_lt_succ inside, failed,
          fun before less => earlier (before + 1) (Nat.succ_lt_succ less)⟩

/-- Numbered visits fail as the first of them that fails. -/
theorem mapM_range_of_first {visit : Nat → Except ε β} {count index : Nat} {cause : ε}
    (inside : index < count) (failed : visit index = .error cause)
    (earlier : ∀ before < index, ∃ value, visit before = .ok value) :
    (List.range count).mapM visit = .error cause :=
  mapM_range_eq_error.mpr ⟨index, inside, failed, earlier⟩

/-- Where every item stands below the later ones, the first of a kind has none of it below. -/
theorem first_iff_least {below : α → α → Prop}
    (asymmetric : ∀ first second, below first second → ¬below second first)
    (ordered : items.Pairwise below) (item : α) (kind : α → Prop) :
    (∃ before after, items = before ++ item :: after ∧ ∀ other ∈ before, ¬kind other) ↔
      item ∈ items ∧ ∀ other ∈ items, kind other → ¬below other item := by
  constructor
  · rintro ⟨before, after, rfl, free⟩
    obtain ⟨_, rest, _⟩ := List.pairwise_append.mp ordered
    refine ⟨by simp, fun other member same => ?_⟩
    rcases List.mem_append.mp member with front | back
    · exact absurd same (free other front)
    · rcases List.mem_cons.mp back with rfl | later
      · exact fun less => asymmetric _ _ less less
      · exact asymmetric _ _ ((List.pairwise_cons.mp rest).1 other later)
  · rintro ⟨member, least⟩
    obtain ⟨before, after, rfl⟩ := List.append_of_mem member
    refine ⟨before, after, rfl, fun other front same => ?_⟩
    have less := (List.pairwise_append.mp ordered).2.2 other front item List.mem_cons_self
    exact least other (List.mem_append_left _ front) same less

end PawnBytecode.Traversal
