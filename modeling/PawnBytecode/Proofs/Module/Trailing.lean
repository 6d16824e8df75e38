import PawnBytecode.Listing
import PawnBytecode.Proofs.Bytes.Trailing
import PawnBytecode.Proofs.Container
import PawnBytecode.Proofs.Module.ReadBack
import PawnBytecode.Proofs.Module.Rebuilding
import PawnBytecode.Proofs.Shown
import PawnBytecode.Tree.Rebuild

/-! Files with more bytes behind them. Every reader looks at bytes it was already allowed to see, so
what loads without the bytes behind loads with them, and answers as before. -/
namespace PawnBytecode

variable {suffix : Bytes}

namespace Header

theorem require_keeps (wrong : Stage → Int → Int → Fault) (expected actual : Nat) :
    Reading.Keeps suffix (require wrong expected actual) := by
  unfold require
  split
  · exact .pure ()
  · exact .throw _

theorem readMarks_keeps : Reading.Keeps suffix readMarks := by
  refine (Cursor.u16_keeps _).bind fun _ => (require_keeps _ _ _).bind fun _ => ?_
  refine (Cursor.u8_keeps _).bind fun _ => (require_keeps _ _ _).bind fun _ => ?_
  exact (Cursor.u8_keeps _).bind fun _ => require_keeps _ _ _

theorem read_keeps : Reading.Keeps suffix read := by
  refine (Cursor.u32_keeps _).bind fun _ => readMarks_keeps.bind fun _ => ?_
  refine (Cursor.u16_keeps _).bind fun _ => (Cursor.u16_keeps _).bind fun _ => ?_
  iterate 11 refine (Cursor.u32_keeps _).bind fun _ => ?_
  exact .pure _

end Header

namespace Module

variable {self : Module}

def extended (self : Module) (suffix : Bytes) : Module := { self with image := self.image ++ suffix }

theorem parse_append {image : Bytes} {cellSize : Int} (parsed : parse image cellSize = .ok self)
    (suffix : Bytes) : parse (image ++ suffix) cellSize = .ok (self.extended suffix) := by
  obtain ⟨size, supported, parsed⟩ := exists_of_bind parsed
  obtain ⟨⟨header, after⟩, read, same⟩ := exists_of_bind parsed
  obtain ⟨further, again, _⟩ :=
    Header.read_keeps _ _ header after (Cursor.extends_seek .image image 0 suffix) read
  obtain rfl := Except.ok.inj same
  rw [parse, supported]
  simp only [bind, Except.bind, again]
  rfl

theorem segment_extended {name : String} {start stop : Nat} {region : Bytes}
    (found : self.segment name start stop = .ok region) (suffix : Bytes) :
    (self.extended suffix).segment name start stop = .ok region := by
  unfold segment at found
  split at found
  · rename_i sliced
    obtain rfl := Except.ok.inj found
    rw [segment, extended, Bytes.slice?_append sliced]
  · cases found

theorem symbolAt_extended {table : String} {start index : Nat} {symbol : Symbol}
    (found : self.symbolAt table start index = .ok symbol) (suffix : Bytes) :
    (self.extended suffix).symbolAt table start index = .ok symbol := by
  have behind := Cursor.extends_seek .image self.image (start + recordLength * index) suffix
  obtain ⟨⟨address, cursor⟩, addressRead, found⟩ := exists_of_bind found
  obtain ⟨⟨offset, after⟩, offsetRead, found⟩ := exists_of_bind found
  obtain ⟨name, nameRead, same⟩ := exists_of_bind found
  obtain ⟨longer, addressAgain, behind⟩ := Cursor.u32_keeps _ _ _ _ _ behind addressRead
  obtain ⟨_, offsetAgain, _⟩ := Cursor.u32_keeps _ _ _ _ _ behind offsetRead
  have nameAgain := Bytes.stringAt_append nameRead suffix
  obtain rfl := Except.ok.inj same
  simp only [symbolAt, extended, bind, Except.bind, addressAgain, offsetAgain, nameAgain]
  rfl

theorem symbolsIn_extended {table : String} {start stop : Nat} {symbols : List Symbol}
    (found : self.symbolsIn table start stop = .ok symbols) (suffix : Bytes) :
    (self.extended suffix).symbolsIn table start stop = .ok symbols := by
  obtain ⟨region, segment, found⟩ := exists_of_bind found
  obtain ⟨entries, visited, found⟩ := exists_of_bind found
  have again := Traversal.mapM_of_kept visited fun _ _ entry => symbolAt_extended entry suffix
  rw [symbolsIn, segment_extended segment suffix]
  simp only [bind, Except.bind, again]
  exact found

/-- What can be read of a module is read alike of another one. -/
structure ReadLike (module other : Module) : Prop where
  header : other.header = module.header
  cellSize : other.cellSize = module.cellSize
  publics : ∀ symbols, module.publics = .ok symbols → other.publics = .ok symbols
  natives : ∀ symbols, module.natives = .ok symbols → other.natives = .ok symbols
  instructions : ∀ found, module.instructions = .ok found → other.instructions = .ok found
  dataSegment : ∀ data, module.dataSegment = .ok data → other.dataSegment = .ok data
  constant : ∀ address string, module.constant address = .ok string →
    other.constant address = .ok string
  listing : ∀ limit text, Listing.text ⟨.empty, limit⟩ module = .ok text →
    Listing.text ⟨.empty, limit⟩ other = .ok text
  rebuild : ∀ rebuilt, module.rebuild = .ok rebuilt → other.rebuild = .ok rebuilt

theorem ReadLike.refl (self : Module) : self.ReadLike self := by
  constructor
  case header | cellSize => rfl
  case constant | listing => exact fun _ _ found => found
  all_goals exact fun _ found => found

theorem readLike_extended (self : Module) (suffix : Bytes) : self.ReadLike (self.extended suffix) := by
  have publics : ∀ symbols, self.publics = .ok symbols →
      (self.extended suffix).publics = .ok symbols := fun _ read => symbolsIn_extended read suffix
  have natives : ∀ symbols, self.natives = .ok symbols →
      (self.extended suffix).natives = .ok symbols := fun _ read => symbolsIn_extended read suffix
  have instructions : ∀ found, self.instructions = .ok found →
      (self.extended suffix).instructions = .ok found := by
    intro found decoded
    rw [Module.instructions_eq] at decoded ⊢
    split at decoded
    · cases decoded
    · rename_i fixed
      obtain ⟨code, segment, decoded⟩ := exists_of_bind decoded
      have again : (self.extended suffix).codeSegment = .ok code := segment_extended segment suffix
      rw [if_neg (show ¬(self.extended suffix).header.isCompact = true from fixed), again]
      exact decoded
  constructor
  case header | cellSize => rfl
  case publics => exact publics
  case natives => exact natives
  case instructions => exact instructions
  case dataSegment => exact fun data segment => segment_extended segment suffix
  case constant =>
    intro address string found
    obtain ⟨data, segment, found⟩ := exists_of_bind found
    have again : (self.extended suffix).dataSegment = .ok data := segment_extended segment suffix
    rw [constant, again]
    exact found
  case listing =>
    intro limit text listed
    obtain ⟨lines, shown, listed⟩ := exists_of_bind listed
    obtain ⟨nativeSymbols, nativesRead, shown⟩ := exists_of_bind shown
    obtain ⟨publicSymbols, publicsRead, shown⟩ := exists_of_bind shown
    obtain ⟨found, decoded, shown⟩ := exists_of_bind shown
    have again : Listing.lines ⟨.empty, limit⟩ (self.extended suffix) = .ok lines := by
      rw [Listing.lines, natives _ (Failure.eq_ok_of_lift nativesRead),
        publics _ (Failure.eq_ok_of_lift publicsRead), instructions _ (Failure.eq_ok_of_lift decoded)]
      exact shown
    rw [Listing.text, again]
    exact listed
  case rebuild =>
    intro rebuilt built
    obtain ⟨found, decoded, built⟩ := exists_of_bind built
    obtain ⟨publicSymbols, publicsRead, built⟩ := exists_of_bind built
    obtain ⟨nativeSymbols, nativesRead, built⟩ := exists_of_bind built
    rw [rebuild, instructions _ (Failure.eq_ok_of_lift decoded),
      publics _ (Failure.eq_ok_of_lift publicsRead), natives _ (Failure.eq_ok_of_lift nativesRead)]
    exact built

end Module

namespace Section

variable {self : Section}

theorem readRecord_keeps (index : Int) : Reading.Keeps suffix (readRecord index) := by
  refine (Cursor.u8_keeps _).bind fun _ => (Reading.Keeps.lift _).bind fun _ => ?_
  iterate 4 refine (Cursor.u32_keeps _).bind fun _ => ?_
  exact .pure _

theorem read_append {data : Bytes} {index : Int} (found : read data index = .ok self)
    (suffix : Bytes) : read (data ++ suffix) index = .ok self := by
  obtain ⟨⟨record, after⟩, taken, same⟩ := exists_of_bind found
  obtain ⟨further, again, _⟩ := readRecord_keeps index _ _ record after
    (Cursor.extends_seek .record data (tableStart + recordLength * index) suffix) taken
  obtain rfl := Except.ok.inj same
  simp only [read, bind, Except.bind, again]
  rfl

theorem unpack_append {data image : Bytes} (unpacked : self.unpack data = .ok image)
    (suffix : Bytes) : self.unpack (data ++ suffix) = .ok image := by
  unfold unpack at unpacked
  split at unpacked
  · cases unpacked
  · rename_i payload sliced
    rw [unpack, Bytes.slice?_append sliced]
    exact unpacked

end Section

namespace Container

theorem readHeader_keeps : Reading.Keeps suffix readHeader := by
  refine (Cursor.u32_keeps _).bind fun _ => ?_
  split
  · exact .throw _
  · refine (Cursor.u16_keeps _).bind fun _ => ?_
    split
    · exact .throw _
    · refine (Cursor.u8_keeps _).bind fun count => ?_
      by_cases few : count < 1
      · simp only [if_pos few]
        exact .throw _
      · simp only [if_neg few]
        by_cases many : count > sectionLimit
        · simp only [if_pos many]
          exact .throw _
        · simp only [if_neg many]
          exact .pure _

theorem isContainer_append {data : Bytes} (marked : 4 ≤ data.length) (suffix : Bytes) :
    isContainer (data ++ suffix) = isContainer data := by
  have longer : 4 ≤ (data ++ suffix).length := by
    rw [List.length_append]
    omega
  rw [isContainer, isContainer, List.take_append_of_le_length marked, decide_eq_true marked,
    decide_eq_true longer]

theorem parse_append {data : Bytes} {self : Container} (parsed : parse data = .ok self)
    (suffix : Bytes) : parse (data ++ suffix) = .ok ⟨self.sectionCount, data ++ suffix⟩ := by
  obtain ⟨⟨count, after⟩, read, same⟩ := exists_of_bind parsed
  obtain ⟨further, again, _⟩ :=
    readHeader_keeps _ _ count after (Cursor.extends_seek .container data 0 suffix) read
  obtain rfl := Except.ok.inj same
  simp only [parse, bind, Except.bind, again]
  rfl

theorem load_trailing {self : Container} {index : Int} {module : Module}
    (loaded : self.load index = .ok module) (suffix : Bytes) :
    load ⟨self.sectionCount, self.data ++ suffix⟩ index = .ok module := by
  obtain ⟨found, record, loaded⟩ := exists_of_bind loaded
  obtain ⟨image, unpacked, parsed⟩ := exists_of_bind loaded
  unfold sectionAt at record
  split at record
  · rename_i inside
    rw [load, sectionAt, if_pos inside, Section.read_append record suffix]
    simp only [bind, Except.bind, Section.load, Section.unpack_append unpacked suffix]
    exact parsed
  · cases record

end Container

namespace Module

theorem length_of_parse {image : Bytes} {cellSize : Int} {self : Module}
    (parsed : parse image cellSize = .ok self) : 4 ≤ image.length := by
  obtain ⟨_, _, parsed⟩ := exists_of_bind parsed
  obtain ⟨_, read, _⟩ := exists_of_bind parsed
  obtain ⟨_, first, _⟩ := exists_of_bind read
  rw [Cursor.seek_zero] at first
  exact Cursor.length_of_number first

/-- Bytes behind a file change no answer. The longer file loads with the same header, from a
container as the same module, and what could be read before is read alike. -/
theorem load_append {data : Bytes} {index : Int} {cellSize : Option Int} {module : Module}
    (loaded : load data index cellSize = .ok module) (suffix : Bytes) :
    ∃ longer, load (data ++ suffix) index cellSize = .ok longer ∧ module.ReadLike longer ∧
      (Container.isContainer data = true → longer = module) := by
  unfold load at loaded
  split at loaded
  · rename_i marked
    obtain ⟨container, parsed, opened⟩ := exists_of_bind loaded
    have long : 4 ≤ data.length := of_decide_eq_true (Bool.and_eq_true_iff.mp marked).1
    refine ⟨module, ?_, .refl module, fun _ => rfl⟩
    rw [load, Container.isContainer_append long, if_pos marked, Container.parse_append parsed suffix,
      ← Container.data_of_parse parsed]
    exact Container.load_trailing opened suffix
  · rename_i unmarked
    refine ⟨module.extended suffix, ?_, module.readLike_extended suffix, fun marked => ?_⟩
    · rw [load, Container.isContainer_append (length_of_parse loaded), if_neg unmarked]
      exact parse_append loaded suffix
    · exact absurd marked unmarked

/-- The bytes behind would make the last constant longer if the data ran on into them. -/
theorem load_append_sample :
    load sampleParts.image 0 (some 4) = .ok sampleParts.assembled ∧
      ∃ longer, load (sampleParts.image ++ [0x41, 0, 0]) 0 (some 4) = .ok longer ∧
        longer.header = sampleParts.header ∧ longer.publics = .ok [⟨"mé", 8⟩] ∧
        longer.natives = .ok [⟨"p", 0⟩] ∧ longer.dataSegment = .ok [1, 2, 3, 4] := by
  have fits : sampleParts.Fits := by
    refine ⟨?_, ?_, ?_, ?_, ?_, ?_⟩ <;> decide
  have unmarked : ¬Container.isContainer sampleParts.image = true := by decide +kernel
  have loaded : load sampleParts.image 0 (some 4) = .ok sampleParts.assembled := by
    rw [load, if_neg unmarked]
    exact fits.parse
  obtain ⟨longer, again, alike, _⟩ := load_append loaded [0x41, 0, 0]
  have name : Parts.symbol ([0x6D, 0xE9], 8) = ⟨"mé", 8⟩ := Parts.symbol_of_spells ⟨by decide, rfl⟩
  have native : Parts.symbol ([0x70], 0) = ⟨"p", 0⟩ := Parts.symbol_of_spells ⟨by decide, rfl⟩
  refine ⟨loaded, longer, again, alike.header, alike.publics _ ?_, alike.natives _ ?_,
    alike.dataSegment _ ?_⟩
  · rw [fits.publics, ← name]
    rfl
  · rw [fits.natives, ← native]
    rfl
  · exact sampleParts.dataSegment_assembled

end Module

end PawnBytecode
