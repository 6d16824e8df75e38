import PawnBytecode.CommandLine.Options
import PawnBytecode.Proofs.Reports

namespace PawnBytecode

open Numeral (Writable)

theorem Numeral.writable_of_lt {size : Nat} (small : size < tooLong) (negative : Prop)
    [Decidable negative] : Writable (if negative then -(size : Int) else size) := by
  unfold Writable
  split
  · rwa [Int.natAbs_neg, Int.natAbs_natCast]
  · rwa [Int.natAbs_natCast]

namespace Text

theorem digitValue?_lt {char : Char} {digit : Nat} (found : digitValue? char = some digit) : digit < 10 := by
  obtain ⟨first, among, rfl⟩ := Option.map_eq_some_iff.mp found
  have within := List.find?_some among
  simp only [Bool.and_eq_true, decide_eq_true_eq] at within
  omega

theorem groupedDigits?_lt {chars : List Char} {digits : List Nat} (found : groupedDigits? chars = some digits) :
    ∀ digit ∈ digits, digit < 10 := by
  fun_induction groupedDigits? chars generalizing digits with
  | case1 => cases found
  | case2 char =>
    obtain ⟨digit, value, rfl⟩ := Option.map_eq_some_iff.mp found
    exact List.forall_mem_singleton.mpr (digitValue?_lt value)
  | case3 char rest ih | case4 char rest _ _ ih =>
    obtain ⟨digit, value, found⟩ := Option.bind_eq_some_iff.mp found
    obtain ⟨others, behind, same⟩ := Option.bind_eq_some_iff.mp found
    obtain rfl := Option.some.inj same
    exact List.forall_mem_cons.mpr ⟨digitValue?_lt value, ih behind⟩

theorem foldl_digits_lt {digits : List Nat} (small : ∀ digit ∈ digits, digit < 10) {start bound : Nat}
    (low : start < bound) :
    digits.foldl (fun value digit => 10 * value + digit) start < bound * 10 ^ digits.length := by
  induction digits generalizing start bound with
  | nil => simpa using low
  | cons digit digits ih =>
    obtain ⟨first, others⟩ := List.forall_mem_cons.mp small
    have next : 10 * start + digit < bound * 10 := by omega
    rw [List.foldl_cons, List.length_cons, Nat.pow_succ', ← Nat.mul_assoc]
    exact ih others next

theorem writable_of_wholeNumber? {text : String} {value : Int} (typed : wholeNumber? text = some value) :
    Writable value := by
  obtain ⟨digits, found, spelled⟩ := Option.bind_eq_some_iff.mp typed
  split at spelled
  · cases spelled
  · rename_i few
    have size := foldl_digits_lt (groupedDigits?_lt found) Nat.zero_lt_one
    rw [Nat.one_mul] at size
    have bound := Nat.lt_of_lt_of_le size (Numeral.pow_le_tooLong (Nat.le_of_not_lt few))
    obtain rfl := Option.some.inj spelled
    exact Numeral.writable_of_lt bound _

end Text

namespace CommandLine

/-- The numbers among the options can be written. -/
structure Options.Written (options : Options) : Prop where
  sectionIndex : ∀ index ∈ options.sectionIndex, Writable index
  cellSize : ∀ size ∈ options.cellSize, Writable size

namespace Gathered

variable {state : Gathered}

theorem written_setFlag (written : state.options.Written) (name : OptionName) :
    Ends (fun next : Gathered => next.options.Written) (fun _ => True) (state.setFlag name) := by
  cases name with
  | help => trivial
  | verbose | sectionIndex | cellSize | listingPath | treePath | knowledgePath =>
    exact ⟨written.sectionIndex, written.cellSize⟩

theorem written_of_given {read : String → Option Int} {value : String} {number : Option Int}
    (typed : ∀ text number, read text = some number → Writable number)
    (found : (given value).mapM read = some number) : ∀ given ∈ number, Writable given := by
  cases shown : given value with
  | none =>
    rw [shown] at found
    obtain rfl := Option.some.inj found
    exact nofun
  | some text =>
    rw [shown] at found
    obtain ⟨size, spelled, rfl⟩ := Option.map_eq_some_iff.mp found
    rintro _ ⟨⟩
    exact typed text size spelled

theorem written_setValue (written : state.options.Written) (name : OptionName) (value : String) :
    Ends (fun next : Gathered => next.options.Written) (fun _ => True) (state.setValue name value) := by
  cases name with
  | help | verbose => trivial
  | listingPath | treePath | knowledgePath => exact ⟨written.sectionIndex, written.cellSize⟩
  | sectionIndex =>
    cases found : (given value).mapM Text.wholeNumber? with
    | none =>
      simp only [setValue, found]
      trivial
    | some number =>
      simp only [setValue, found]
      exact ⟨written_of_given (fun _ _ => Text.writable_of_wholeNumber?) found, written.cellSize⟩
  | cellSize =>
    cases found : (given value).mapM cellSizeOf? with
    | none =>
      simp only [setValue, found]
      trivial
    | some number =>
      simp only [setValue, found]
      refine ⟨written.sectionIndex, written_of_given (fun text size spelled => ?_) found⟩
      exact Text.writable_of_wholeNumber? (Option.filter_eq_some_iff.mp spelled).1

theorem written_useWords (written : state.options.Written) (words : List Word) :
    Ends (fun next : Gathered => next.options.Written) (fun _ => True) (state.useWords words) := by
  fun_induction useWords state words with
  | case1 => exact written
  | case2 state words ih => exact ih written
  | case3 state words ih => exact ih written
  | case4 state text words free ih => exact ih written
  | case5 state text words taken ih => exact ih written
  | case6 state text words _ free ih => exact ih written
  | case7 state text words _ taken ih => exact ih written
  | case8 state flag rest words flags _ ih =>
    exact (Ends.foldlM (fun name _ _ kept => written_setFlag kept name) written).bind fun next kept => ih next kept
  | case9 => trivial
  | case10 state name value words ih =>
    exact (written_setValue written name value).bind fun next kept => ih next kept
  | case11 state name words _ ih => exact (written_setFlag written name).bind fun next kept => ih next kept
  | case12 state name _ value words ih =>
    exact (written_setValue written name value).bind fun next kept => ih next kept
  | case13 => trivial

end Gathered

theorem Options.written_ofArguments {arguments : List String} {options : Options}
    (given : ofArguments arguments = .ok options) : options.Written := by
  obtain ⟨words, _, used⟩ := exists_of_bind given
  obtain ⟨state, gathered, finished⟩ := exists_of_bind used
  have start : Gathered.start.options.Written := by
    refine ⟨?_, nofun⟩
    rintro _ ⟨⟩
    exact Numeral.writable_of_small (by decide)
  have written := (Gathered.written_useWords start words).of_ok gathered
  unfold Gathered.finish at finished
  split at finished
  · split at finished
    · cases finished
    · obtain rfl := Except.ok.inj finished
      exact ⟨written.sectionIndex, written.cellSize⟩
  · cases finished

/-- A module that is asked for on a command line is loaded, or it is told why not. -/
theorem report_load {arguments : List String} {options : Options}
    (given : Options.ofArguments arguments = .ok options) (data : Bytes) :
    Failure.report (Module.load data (options.sectionIndex.getD 0) options.cellSize) =
      Failure.lift (Module.load data (options.sectionIndex.getD 0) options.cellSize) := by
  have written := Options.written_ofArguments given
  apply Failure.report_of_briefly
  refine Module.load_brief_iff.mpr fun unwritten => ?_
  generalize asked : options.cellSize = cellSize at unwritten
  cases unwritten with
  | index _ long =>
    apply long
    cases index : options.sectionIndex with
    | none => exact Numeral.writable_of_small (by decide)
    | some number => exact written.sectionIndex number index
  | cellSize _ long => exact long (written.cellSize _ asked)

end CommandLine

end PawnBytecode
