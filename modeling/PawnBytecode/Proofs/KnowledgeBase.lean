import Mathlib.Data.List.Dedup
import Mathlib.Data.List.Permutation
import PawnBytecode.KnowledgeBase
import PawnBytecode.Proofs.Entries
import PawnBytecode.Proofs.Traversal

/-! The note that answers for a mnemonic. Entries of one spelling replace each other in the place of the
first of them, and spellings that differ in case replace each other in that order, so neither the
first nor the last entry of a file has to be the one that is found. -/
namespace PawnBytecode

namespace OpcodeNote

theorem ofFields_eq (spelling : Text) (own : List (Text × Json)) :
    ofFields spelling own =
      { mnemonic := spelling
        summary := Json.field "summary" own
        category := Json.field "category" own
        attributes := own.filter fun field =>
          field.1 ∉ ["name", "mnemonic", "summary", "category"].map Text.ofString } := by
  rw [ofFields, ownFields]
  congr 2
  funext field
  rw [List.contains_eq_mem, decide_not]

end OpcodeNote

namespace KnowledgeBase

open Entries (IsLast Kept kept_ofPairs mem_names mem_names_ofPairs names place)
open Text (ofString)

/-- How an entry spells its mnemonic: by its key, unless it has a field for it with a text, a number,
`true`, or elements of its own. -/
def spelled (key : Text) (own : List (Text × Json)) : Text :=
  match own.lookup (ofString "mnemonic") with
  | some (.bool true) => ofString "True"
  | some (.whole value) => if value = 0 then key else ofString (toString value)
  | some (.real value) => if value.isZero then key else ofString value.text
  | some (.string []) => key
  | some (.string value) => value
  | some (.array (element :: rest)) => ofString (Json.array (element :: rest)).shown
  | some (.object (field :: rest)) => ofString (Json.object (field :: rest)).shown
  | _ => key

/-- The entries that are objects, each under the spelling of its mnemonic. -/
def objects (fields : List (Text × Json)) : List (Text × List (Text × Json)) :=
  fields.filterMap fun (key, entry) =>
    match entry with
    | .object own => some (spelled key own, own)
    | _ => none

theorem spelled_eq (key : Text) (own : List (Text × Json)) : spelled key own = OpcodeNote.spelling key own := by
  rw [spelled, OpcodeNote.spelling, Json.field]
  cases own.lookup (ofString "mnemonic") with
  | none => rfl
  | some value =>
    cases value with
    | null => rfl
    | bool value => cases value <;> rfl
    | whole value =>
      by_cases zero : value = 0
      · simp [Json.isPresent, zero]
      · simp [Json.isPresent, Json.text, Json.shown, zero]
    | real value =>
      cases zero : value.isZero <;> simp [Json.isPresent, Json.text, Json.shown, zero]
    | string value => cases value <;> rfl
    | array elements => cases elements <;> rfl
    | object fields => cases fields <;> rfl

/-- The entry that a mnemonic is answered with: the last one of its spelling, which is of the spellings
with the same small letters the one that came up latest. -/
structure Chosen (entries : List (Text × List (Text × Json))) (mnemonic spelling : Text)
    (own : List (Text × Json)) : Prop where
  spelled : spelling.lower = mnemonic.lower
  latest : ∀ other ∈ names entries, other.lower = mnemonic.lower →
    place entries other ≤ place entries spelling
  last : IsLast entries spelling own

/-- A base answers for the spellings of some entries, in whatever case. -/
structure Answers (base : KnowledgeBase) (entries : List (Text × List (Text × Json))) : Prop where
  missing : ∀ mnemonic, base.lookup mnemonic = none ↔
    ∀ spelling ∈ names entries, spelling.lower ≠ mnemonic.lower
  found : ∀ mnemonic note, base.lookup mnemonic = some note ↔
    ∃ spelling own, Chosen entries mnemonic spelling own ∧
      note = { mnemonic := spelling
               summary := Json.field "summary" own
               category := Json.field "category" own
               attributes := own.filter fun field =>
                 field.1 ∉ ["name", "mnemonic", "summary", "category"].map Text.ofString }
  spelled : ∀ mnemonic note, base.lookup mnemonic = some note → note.mnemonic.lower = mnemonic.lower
  size : base.size = ((names entries).map Text.lower).dedup.length

variable {fields : List (Text × Json)} {spelling mnemonic : Text} {note : OpcodeNote}

theorem bySpelling_eq (fields : List (Text × Json)) : bySpelling fields =
    .ofPairs ((objects fields).map fun entry => (entry.1, OpcodeNote.ofFields entry.1 entry.2)) := by
  rw [bySpelling, objects, List.map_filterMap]
  congr 1
  apply List.filterMap_congr
  rintro ⟨key, entry⟩ _
  cases entry with
  | object own => simp only [Option.map_some, spelled_eq]
  | null | bool | whole | real | string | array => rfl

theorem kept_bySpelling (fields : List (Text × Json)) :
    Kept ((objects fields).map fun entry => (entry.1, OpcodeNote.ofFields entry.1 entry.2))
      (bySpelling fields) :=
  bySpelling_eq fields ▸ kept_ofPairs _

theorem mem_bySpelling : (spelling, note) ∈ bySpelling fields ↔
    ∃ own, IsLast (objects fields) spelling own ∧ note = OpcodeNote.ofFields spelling own :=
  ((kept_bySpelling fields).last spelling note).trans Entries.isLast_map

theorem mem_names_bySpelling :
    spelling ∈ names (bySpelling fields) ↔ spelling ∈ names (objects fields) := by
  rw [bySpelling_eq, mem_names_ofPairs, Entries.names_map]

theorem ordered_bySpelling (fields : List (Text × Json)) : (bySpelling fields).Pairwise fun first second =>
    place (objects fields) first.1 < place (objects fields) second.1 := by
  have ordered := (kept_bySpelling fields).ordered
  simp only [place, Entries.names_map] at ordered
  exact ordered

theorem notes_ofPairs (fields : List (Text × Json)) : (ofPairs fields).notes =
    .ofPairs ((bySpelling fields).map fun entry => (entry.1.lower, entry.2)) := rfl

theorem mem_names_notes {form : Text} : form ∈ names (ofPairs fields).notes ↔
    ∃ spelling ∈ names (objects fields), spelling.lower = form := by
  have forms : names ((bySpelling fields).map fun entry => (entry.1.lower, entry.2)) =
      (names (bySpelling fields)).map Text.lower := by
    rw [names, names, List.map_map, List.map_map]
    rfl
  rw [notes_ofPairs, mem_names_ofPairs, forms, List.mem_map]
  simp only [mem_names_bySpelling]

/-- Of the spellings with the small letters of a mnemonic, the one that came up latest is found. -/
theorem lookup_ofPairs : (ofPairs fields).lookup mnemonic = some note ↔
    ∃ spelling own, Chosen (objects fields) mnemonic spelling own ∧
      note = OpcodeNote.ofFields spelling own := by
  -- The last of a list is the first of its reverse, where spellings stand the latest first.
  have search : ∀ spelling, _ ↔ _ := fun spelling => Traversal.first_iff_least
    (fun _ _ => Nat.lt_asymm) (List.pairwise_reverse.mpr (ordered_bySpelling fields))
    (spelling, note) fun entry => entry.1.lower = mnemonic.lower
  rw [lookup, Entries.get?, notes_ofPairs, Entries.lookup_ofPairs, ← List.map_reverse, Entries.lookup_form]
  simp only [search, List.mem_reverse, Nat.not_lt]
  constructor
  · rintro ⟨spelling, spelled, member, latest⟩
    obtain ⟨own, last, rfl⟩ := mem_bySpelling.mp member
    refine ⟨spelling, own, ⟨spelled, fun other known also => ?_, last⟩, rfl⟩
    obtain ⟨value, inside⟩ := mem_names.mp (mem_names_bySpelling.mpr known)
    exact latest _ inside also
  · rintro ⟨spelling, own, chosen, rfl⟩
    refine ⟨spelling, chosen.spelled, mem_bySpelling.mpr ⟨own, chosen.last, rfl⟩, ?_⟩
    intro other member also
    exact chosen.latest _ (mem_names_bySpelling.mp (List.mem_map_of_mem member)) also

theorem lookup_eq_none : (ofPairs fields).lookup mnemonic = none ↔
    ∀ spelling ∈ names (objects fields), spelling.lower ≠ mnemonic.lower := by
  rw [lookup, Entries.get?, Entries.lookup_eq_none, mem_names_notes]
  simp

theorem size_ofPairs (fields : List (Text × Json)) :
    (ofPairs fields).size = ((names (objects fields)).map Text.lower).dedup.length := by
  have distinct : (names (ofPairs fields).notes).Nodup := Entries.nodup_ofPairs _
  have same : (names (ofPairs fields).notes).Perm ((names (objects fields)).map Text.lower).dedup := by
    refine (List.perm_ext_iff_of_nodup distinct (List.nodup_dedup _)).mpr fun form => ?_
    rw [mem_names_notes, List.mem_dedup, List.mem_map]
  rw [← same.length_eq, names, List.length_map, size]

/-- The entries of a file answer for their mnemonics: of the entries with one spelling the last, and
of the spellings that differ in case the one that came up latest. -/
theorem lookup_exactly (pairs : List (Text × Json)) :
    Kept pairs (Entries.ofPairs pairs) ∧
      (ofPairs (Entries.ofPairs pairs)).Answers (objects (Entries.ofPairs pairs)) ∧
      ∀ content text, String.fromUTF8? ⟨content.toArray⟩ = some text →
        Json.ofText text = .ok (.object (Entries.ofPairs pairs)) →
        ofBytes content = .ok (ofPairs (Entries.ofPairs pairs)) := by
  refine ⟨kept_ofPairs pairs, ?_, fun content text decoded read => ?_⟩
  · constructor
    case missing => exact fun _ => lookup_eq_none
    case found =>
      intro mnemonic note
      simp only [lookup_ofPairs, OpcodeNote.ofFields_eq]
    case spelled =>
      intro mnemonic note found
      obtain ⟨spelling, own, chosen, rfl⟩ := lookup_ofPairs.mp found
      exact chosen.spelled
    case size => exact size_ofPairs _
  · simp only [ofBytes, decoded, read]

/-- A file with two spellings of one mnemonic, two entries for each of them. -/
def rivalText : String :=
  "\x7b\"nop\":\x7b\x7d,\"NOP\":\x7b\x7d,\"a\":\x7b\"mnemonic\":\"NOP\",\"by\":true\x7d," ++
    "\"b\":\x7b\"mnemonic\":\"nop\"\x7d\x7d"

def rivals : List (Text × Json) :=
  [(ofString "nop", .object []), (ofString "NOP", .object []),
    (ofString "a", .object [(ofString "mnemonic", .string (ofString "NOP")), (ofString "by", .bool true)]),
    (ofString "b", .object [(ofString "mnemonic", .string (ofString "nop"))])]

/-- The entry that is found is neither the first nor the last of the file. -/
theorem lookup_exactly_rivals :
    ∃ base, ofBytes rivalText.toUTF8.data.toList = .ok base ∧
      base.lookup (ofString "Nop") =
        some ⟨ofString "NOP", .null, .null, [(ofString "by", .bool true)]⟩ ∧
      base.lookup (ofString "halt") = none ∧ base.size = 1 := by
  obtain ⟨_, answers, loaded⟩ := lookup_exactly rivals
  have chosen : Chosen (objects (Entries.ofPairs rivals)) (ofString "Nop") (ofString "NOP")
      [(ofString "mnemonic", .string (ofString "NOP")), (ofString "by", .bool true)] := by
    constructor
    case spelled => decide +kernel
    case latest => decide +kernel
    case last =>
      exact ⟨[(ofString "nop", []), (ofString "NOP", [])], [(ofString "nop", _)], rfl, by decide +kernel⟩
  refine ⟨_, loaded _ rivalText (dif_pos rivalText.isValidUTF8) (by cbv), ?_, ?_, ?_⟩
  · exact (answers.found _ _).mpr ⟨_, _, chosen, rfl⟩
  · exact (answers.missing _).mpr (by decide +kernel)
  · exact answers.size.trans (by decide +kernel)

end KnowledgeBase

end PawnBytecode
