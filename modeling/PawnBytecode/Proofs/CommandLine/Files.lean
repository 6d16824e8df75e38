import PawnBytecode.CommandLine.FileSet
import PawnBytecode.Proofs.Entries

/-! What writing changes. A path that resolves has directories above its place, so putting a file there
makes no directory of another place, and every path still leads where it led. -/
namespace PawnBytecode.CommandLine.FileSet

open Entries (lookup_cons)

/-- The path leads to a place where a file stands or can be made. -/
structure Writable (files : FileSet) (path : Path) (place : Location) : Prop where
  resolved : files.resolve path = .ok place
  free : files.entryAt place ≠ .directory

/-- After the writes their places hold what was written last, and nothing else is another. -/
structure Changes (files : FileSet) (writes : List (Location × Bytes)) (after : FileSet) : Prop where
  entryAt : ∀ place, after.entryAt place = (writes.lookup place).elim (files.entryAt place) .file
  resolve : ∀ path place, after.resolve path = .ok place ↔ files.resolve path = .ok place

theorem lookup_put (place : Location) (content : Bytes) (files : List (Location × Bytes))
    (other : Location) :
    (put place content files).lookup other = if other = place then some content else files.lookup other := by
  induction files with
  | nil => exact lookup_cons place content [] other
  | cons file files ih =>
    obtain ⟨known, old⟩ := file
    rw [put]
    split
    · rename_i replaced
      subst replaced
      rw [lookup_cons, lookup_cons]
      split <;> rfl
    · rename_i kept
      rw [lookup_cons, lookup_cons, ih]
      by_cases same : other = known
      · rw [if_pos same, if_pos same, if_neg (same ▸ kept)]
      · rw [if_neg same, if_neg same]

theorem any_put (place : Location) (content : Bytes) (files : List (Location × Bytes))
    (test : Location → Bool) :
    (put place content files).any (fun file => test file.1) =
      (test place || files.any fun file => test file.1) := by
  induction files with
  | nil => rfl
  | cons file files ih =>
    obtain ⟨known, old⟩ := file
    by_cases replaced : known = place
    · subst replaced
      simp [put]
    · simp [put, replaced, ih, Bool.or_left_comm]

variable {self after : FileSet} {path : Path} {place : Location} {content : Bytes}

theorem read_of_entry (found : self.entry path = .ok (.file content)) : self.read path = .ok content := by
  unfold entry at found
  split at found
  · rename_i location resolved
    rw [read, resolved]
    simp only [bind, Except.bind, Except.ok.inj found]
    rfl
  · cases found
  · cases found

/-- A step adds a last component or takes one away. -/
theorem isPrefix_of_stepTo {location above : Location} {part : String}
    (front : above <+: stepTo location part) (proper : above ≠ stepTo location part) :
    above <+: location := by
  have added : ∀ last : String, above <+: location ++ [last] → above ≠ location ++ [last] →
      above <+: location := by
    intro last front proper
    rcases List.prefix_concat_iff.mp front with same | inside
    · exact absurd same proper
    · exact inside
  unfold stepTo at front proper
  split at front
  · rename_i up
    simp only [if_pos up] at proper
    split at front
    · exact front
    · rename_i below
      simp only [if_neg below] at proper
      split at front
      · rename_i outside
        rw [if_pos outside] at proper
        exact added _ front proper
      · exact front.trans (List.dropLast_prefix location)
  · rename_i down
    rw [if_neg down] at proper
    exact added _ front proper

theorem walk_above {parts : List String} {start : Location} (walked : self.walk start parts = .ok place)
    (above : ∀ other, other <+: start → other ≠ start → self.entryAt other ≠ .missing) :
    ∀ other, other <+: place → other ≠ place → self.entryAt other ≠ .missing := by
  induction parts generalizing start with
  | nil =>
    obtain rfl := Except.ok.inj walked
    exact above
  | cons part parts ih =>
    unfold walk at walked
    split at walked
    case h_1 stands =>
      split at walked
      · cases walked
      · refine ih walked fun other front proper => ?_
        by_cases same : other = start
        · rw [same, stands]
          exact Entry.noConfusion
        · exact above other (isPrefix_of_stepTo front proper) same
    all_goals cases walked

theorem entryAt_known {location : Location} (known : isKnownDirectory location = true) :
    self.entryAt location ≠ .missing := by
  unfold entryAt
  rw [known]
  split <;> exact Entry.noConfusion

theorem resolve_above (resolved : self.resolve path = .ok place) :
    ∀ other, other <+: place → other ≠ place → self.entryAt other ≠ .missing := by
  unfold resolve at resolved
  split at resolved
  · cases resolved
  · split at resolved
    · cases resolved
    · refine walk_above resolved fun other front proper => ?_
      split at front
      · rename_i relative
        rw [if_pos relative] at proper
        exact absurd (List.prefix_nil.mp front) proper
      · rename_i rooted
        rw [if_neg rooted] at proper
        rcases List.prefix_cons_iff.mp front with rfl | ⟨behind, rfl, nothing⟩
        · exact entryAt_known rfl
        · rw [List.prefix_nil.mp nothing] at proper
          exact absurd rfl proper

def holding (self : FileSet) (place : Location) (content : Bytes) : FileSet :=
  { self with files := put place content self.files }

theorem entryAt_holding (above : ∀ other, other <+: place → other ≠ place → self.entryAt other ≠ .missing)
    (other : Location) :
    (self.holding place content).entryAt other =
      if other = place then .file content else self.entryAt other := by
  by_cases same : other = place
  · rw [entryAt, holding, lookup_put, if_pos same, if_pos same]
  · rw [entryAt, holding, lookup_put, if_neg same, if_neg same, entryAt]
    cases found : self.files.lookup other with
    | some old => rfl
    | none =>
      simp only [any_put place content self.files fun name => other.isPrefixOf name]
      cases inside : other.isPrefixOf place with
      | false => rw [Bool.false_or]
      | true =>
        have present := above other (List.isPrefixOf_iff_prefix.mp inside) same
        rw [entryAt, found] at present
        simp only [Bool.true_or, Bool.or_true, ↓reduceIte]
        split
        · rfl
        · rename_i nothing
          rw [if_neg nothing] at present
          exact absurd rfl present

/-- The same walks arrive when the same places are directories. -/
theorem walk_iff (directories : ∀ other, after.entryAt other = .directory ↔ self.entryAt other = .directory)
    (start : Location) (parts : List String) :
    after.walk start parts = .ok place ↔ self.walk start parts = .ok place := by
  induction parts generalizing start with
  | nil => rfl
  | cons part parts ih =>
    by_cases stands : self.entryAt start = .directory
    · rw [walk, walk, stands, (directories start).mpr stands]
      simp only
      split
      · rfl
      · exact ih _
    · have blocked : ∀ files : FileSet, files.entryAt start ≠ .directory →
          files.walk start (part :: parts) ≠ .ok place := by
        intro files free
        rw [walk]
        cases found : files.entryAt start with
        | directory => exact absurd found free
        | file content => nofun
        | missing => nofun
      have free := fun same => stands ((directories start).mp same)
      exact iff_of_false (blocked after free) (blocked self stands)

theorem resolve_iff (directories : ∀ other, after.entryAt other = .directory ↔ self.entryAt other = .directory)
    (path : Path) : after.resolve path = .ok place ↔ self.resolve path = .ok place := by
  unfold resolve
  split
  · exact iff_of_false nofun nofun
  · split
    · exact iff_of_false nofun nofun
    · exact walk_iff directories _ _

theorem exists_write (writable : self.Writable path place) (content : Bytes) :
    ∃ after, self.write path content = .ok after ∧ self.Changes [(place, content)] after := by
  obtain ⟨resolved, free⟩ := writable
  have entries : ∀ other, (self.holding place content).entryAt other =
      if other = place then .file content else self.entryAt other :=
    entryAt_holding (resolve_above resolved)
  refine ⟨self.holding place content, ?_, ?_, fun other location => resolve_iff (fun above => ?_) other⟩
  · rw [write, resolved]
    simp only [bind, Except.bind]
    rfl
  · intro other
    rw [entries, lookup_cons]
    split <;> rfl
  · rw [entries]
    split
    · rename_i same
      rw [same]
      exact iff_of_false Entry.noConfusion free
    · rfl

/-- Later writes stand in front of earlier ones. -/
theorem Changes.trans {writes more : List (Location × Bytes)} {middle : FileSet}
    (first : self.Changes writes middle) (second : middle.Changes more after) :
    self.Changes (more ++ writes) after := by
  constructor
  · intro other
    rw [second.entryAt, first.entryAt, List.lookup_append]
    cases more.lookup other <;> rfl
  · intro other location
    rw [second.resolve, first.resolve]

theorem Writable.of_changes {writes : List (Location × Bytes)} (writable : self.Writable path place)
    (changes : self.Changes writes after) (other : writes.lookup place = none) :
    after.Writable path place := by
  refine ⟨(changes.resolve path place).mpr writable.resolved, ?_⟩
  rw [changes.entryAt, other]
  exact writable.free

end PawnBytecode.CommandLine.FileSet
