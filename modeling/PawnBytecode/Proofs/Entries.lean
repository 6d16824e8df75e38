import Mathlib.Data.List.Induction
import Mathlib.Data.List.Nodup
import PawnBytecode.Entries

namespace PawnBytecode.Entries

def names (pairs : List (Text × α)) : List Text := pairs.map Prod.fst

def place (pairs : List (Text × α)) (name : Text) : Nat := (names pairs).idxOf name

/-- No later pair has the name. -/
def IsLast (pairs : List (Text × α)) (name : Text) (value : α) : Prop :=
  ∃ before after, pairs = before ++ (name, value) :: after ∧ name ∉ names after

variable {α β : Type} {name other : Text} {value : α} {entries : Entries α} {pairs : List (Text × α)}

theorem mem_names : name ∈ names pairs ↔ ∃ value, (name, value) ∈ pairs := by
  simp [names]

theorem lookup_eq_none : pairs.lookup name = none ↔ name ∉ names pairs := by
  rw [List.lookup_eq_none_iff, names, List.mem_map]
  constructor
  · rintro absent ⟨pair, member, same⟩
    exact bne_iff_ne.mp (absent pair member) same.symm
  · exact fun absent pair member => bne_iff_ne.mpr fun same => absent ⟨pair, member, same.symm⟩

theorem isLast_iff_lookup : IsLast pairs name value ↔ pairs.reverse.lookup name = some value := by
  rw [List.lookup_eq_some_iff]
  constructor
  · rintro ⟨before, after, rfl, absent⟩
    refine ⟨after.reverse, before.reverse, by simp, fun pair member => ?_⟩
    have inside : pair.1 ∈ names after := List.mem_map_of_mem (List.mem_reverse.mp member)
    exact bne_iff_ne.mpr fun same => absent (same ▸ inside)
  · rintro ⟨after, before, same, absent⟩
    refine ⟨before.reverse, after.reverse, by rw [← List.reverse_reverse pairs, same]; simp, ?_⟩
    rw [names, List.map_reverse, List.mem_reverse]
    intro member
    obtain ⟨pair, inside, again⟩ := List.mem_map.mp member
    exact bne_iff_ne.mp (absent pair inside) again.symm

theorem names_put (name : Text) (value : α) (entries : Entries α) :
    names (put name value entries) = if name ∈ names entries then names entries else names entries ++ [name] := by
  induction entries with
  | nil => rfl
  | cons entry rest ih =>
    obtain ⟨known, old⟩ := entry
    rw [put]
    by_cases same : known = name
    · subst same
      simp [names]
    · rw [if_neg same]
      simp only [names, List.map_cons] at ih ⊢
      rw [ih]
      by_cases member : name ∈ rest.map Prod.fst <;> simp [member, Ne.symm same]

theorem lookup_cons {κ : Type} [BEq κ] [LawfulBEq κ] [DecidableEq κ] (known : κ) (old : α)
    (pairs : List (κ × α)) (name : κ) :
    ((known, old) :: pairs).lookup name = if name = known then some old else pairs.lookup name := by
  by_cases same : name = known
  · subst same
    simp
  · rw [List.lookup_cons, beq_false_of_ne same, if_neg same]

theorem lookup_put (name : Text) (value : α) (entries : Entries α) (other : Text) :
    (put name value entries).lookup other = if other = name then some value else entries.lookup other := by
  induction entries with
  | nil => exact lookup_cons name value [] other
  | cons entry rest ih =>
    obtain ⟨known, old⟩ := entry
    rw [put]
    by_cases replaced : known = name
    · subst replaced
      rw [if_pos rfl, lookup_cons, lookup_cons]
      split <;> rfl
    · rw [if_neg replaced, lookup_cons, lookup_cons, ih]
      by_cases same : other = known
      · rw [if_pos same, if_pos same, if_neg (same ▸ replaced)]
      · rw [if_neg same, if_neg same]

theorem ofPairs_concat (pairs : List (Text × α)) (pair : Text × α) :
    ofPairs (pairs ++ [pair]) = put pair.1 pair.2 (ofPairs pairs) := by
  rw [ofPairs, List.foldl_append]
  rfl

theorem mem_names_ofPairs : name ∈ names (ofPairs pairs) ↔ name ∈ names pairs := by
  induction pairs using List.reverseRecOn with
  | nil => rfl
  | append_singleton pairs pair ih =>
    have added : names (pairs ++ [pair]) = names pairs ++ [pair.1] := List.map_append
    rw [ofPairs_concat, names_put, added, List.mem_append, ← ih]
    split
    · rename_i known
      constructor
      · exact .inl
      · rintro (inside | fresh)
        · exact inside
        · exact List.mem_singleton.mp fresh ▸ known
    · exact List.mem_append

theorem lookup_ofPairs (pairs : List (Text × α)) (name : Text) :
    (ofPairs pairs).lookup name = pairs.reverse.lookup name := by
  induction pairs using List.reverseRecOn with
  | nil => rfl
  | append_singleton pairs pair ih =>
    rw [ofPairs_concat, lookup_put, ih, List.reverse_concat, ← lookup_cons]

/-- Names stand in the order of their first pairs. -/
theorem ordered_ofPairs (pairs : List (Text × α)) :
    (names (ofPairs pairs)).Pairwise fun first second => place pairs first < place pairs second := by
  induction pairs using List.reverseRecOn with
  | nil => exact .nil
  | append_singleton pairs pair ih =>
    have added : names (pairs ++ [pair]) = names pairs ++ [pair.1] := List.map_append
    have kept : ∀ name ∈ names (ofPairs pairs), place (pairs ++ [pair]) name = place pairs name := by
      intro name member
      rw [place, added, List.idxOf_append_of_mem (mem_names_ofPairs.mp member), place]
    have earlier : (names (ofPairs pairs)).Pairwise fun first second =>
        place (pairs ++ [pair]) first < place (pairs ++ [pair]) second :=
      ih.imp_of_mem fun first second below => by rwa [kept _ first, kept _ second]
    rw [ofPairs_concat, names_put]
    split
    · exact earlier
    · rename_i fresh
      refine List.pairwise_append.mpr ⟨earlier, List.pairwise_singleton .., fun first member second new => ?_⟩
      obtain rfl := List.mem_singleton.mp new
      rw [kept first member, place, place, added,
        List.idxOf_append_of_notMem fun known => fresh (mem_names_ofPairs.mpr known)]
      exact Nat.lt_add_right _ (List.idxOf_lt_length_iff.mpr (mem_names_ofPairs.mp member))

theorem nodup_ofPairs (pairs : List (Text × α)) : (names (ofPairs pairs)).Nodup :=
  List.nodup_iff_pairwise_ne.mpr ((ordered_ofPairs pairs).imp fun below same => by
    rw [same] at below
    exact Nat.lt_irrefl _ below)

/-- Of pairs every name is kept once, with its last value and in the order of the first pairs. -/
structure Kept (pairs : List (Text × α)) (entries : Entries α) : Prop where
  last : ∀ name value, (name, value) ∈ entries ↔ IsLast pairs name value
  ordered : entries.Pairwise fun first second => place pairs first.1 < place pairs second.1

theorem mem_iff_lookup (distinct : (names entries).Nodup) :
    (name, value) ∈ entries ↔ entries.lookup name = some value := by
  constructor
  · intro member
    have some : (entries.lookup name).isSome := List.lookup_isSome_iff.mpr ⟨_, member, beq_self_eq_true name⟩
    obtain ⟨found, same⟩ := Option.isSome_iff_exists.mp some
    obtain ⟨before, after, split, _⟩ := List.lookup_eq_some_iff.mp same
    have also : (name, found) ∈ entries := by simp [split]
    rw [same, (Prod.mk.inj (List.inj_on_of_nodup_map distinct member also rfl)).2]
  · intro found
    obtain ⟨before, after, rfl, _⟩ := List.lookup_eq_some_iff.mp found
    simp

theorem kept_ofPairs (pairs : List (Text × α)) : Kept pairs (ofPairs pairs) := by
  constructor
  · intro name value
    rw [mem_iff_lookup (nodup_ofPairs pairs), lookup_ofPairs, isLast_iff_lookup]
  · have ordered := ordered_ofPairs pairs
    rwa [names, List.pairwise_map] at ordered

variable {write : Text → α → β} {form : Text → Text}

theorem names_map (write : Text → α → β) (pairs : List (Text × α)) :
    names (pairs.map fun pair => (pair.1, write pair.1 pair.2)) = names pairs := by
  rw [names, List.map_map]
  rfl

theorem lookup_map (write : Text → α → β) (pairs : List (Text × α)) (name : Text) :
    (pairs.map fun pair => (pair.1, write pair.1 pair.2)).lookup name = (pairs.lookup name).map (write name) := by
  induction pairs with
  | nil => rfl
  | cons pair pairs ih =>
    rw [List.map_cons, lookup_cons, lookup_cons, ih]
    by_cases same : name = pair.1
    · rw [if_pos same, if_pos same, same]
      rfl
    · rw [if_neg same, if_neg same]

theorem isLast_map {written : β} :
    IsLast (pairs.map fun pair => (pair.1, write pair.1 pair.2)) name written ↔
      ∃ value, IsLast pairs name value ∧ written = write name value := by
  simp only [isLast_iff_lookup, ← List.map_reverse, lookup_map, Option.map_eq_some_iff]
  exact exists_congr fun value => and_congr_right' eq_comm

/-- Under other forms of the names the first pair is found whose name has the form. -/
theorem lookup_form : (pairs.map fun pair => (form pair.1, pair.2)).lookup name = some value ↔
    ∃ spelling, form spelling = name ∧ ∃ before after, pairs = before ++ (spelling, value) :: after ∧
      ∀ other ∈ before, ¬form other.1 = name := by
  rw [List.lookup_eq_some_iff]
  constructor
  · rintro ⟨before, after, same, earlier⟩
    obtain ⟨front, back, rfl, rfl, split⟩ := List.map_eq_append_iff.mp same
    obtain ⟨⟨spelling, found⟩, rest, rfl, here, rfl⟩ := List.map_eq_cons_iff.mp split
    obtain ⟨rfl, rfl⟩ := Prod.mk.inj here
    refine ⟨spelling, rfl, front, rest, rfl, fun other member again => ?_⟩
    exact bne_iff_ne.mp (earlier _ (List.mem_map_of_mem member)) again.symm
  · rintro ⟨spelling, rfl, before, after, rfl, earlier⟩
    refine ⟨before.map fun pair => (form pair.1, pair.2), after.map fun pair => (form pair.1, pair.2),
      List.map_append, fun pair member => ?_⟩
    obtain ⟨other, inside, rfl⟩ := List.mem_map.mp member
    exact bne_iff_ne.mpr fun same => earlier other inside same.symm

end PawnBytecode.Entries
