import CHeader.Proofs.HeaderLoading
import CHeader.Proofs.TableValues

/-!
# The table of a split

A declared type is split with the constants of the settings, overridden by headers, overridden by
flags.  Headers are loaded first and flags are read next, each up to the first fault; only then is
the declaration looked at.
-/

namespace CHeader
namespace Command

/-! ## Flags -/

section Flag

variable {flag : Text} {pair : Text × Int64} {error : CommandError}

/-- A flag gives a value to a name: the trimmed text before the first `=` is the name, and the text
behind it is a literal of the value. -/
def Defines (flag : Text) (pair : Text × Int64) : Prop :=
  ∃ front text, flag = front ++ '=' :: text ∧ '=' ∉ front ∧ pair.1 = Text.trim front ∧
    IntLiteral.parse? text = some pair.2.toInt

/-- What is wrong with a flag. -/
inductive FlagFault (flag : Text) : CommandError → Prop where
  /-- The flag has no `=`. -/
  | noMark (bare : '=' ∉ flag) : FlagFault flag (.flagWithoutValue flag)
  /-- What follows the first `=` is no literal of a signed 64-bit integer. -/
  | noInteger {front text : Text} (split : flag = front ++ '=' :: text) (first : '=' ∉ front)
      (unread : ∀ value : Int64, IntLiteral.parse? text ≠ some value.toInt) :
      FlagFault flag (.flagNotInteger flag)

theorem flagConstant_of_defines (defines : Defines flag pair) : flagConstant flag = .ok pair := by
  obtain ⟨front, text, rfl, first, name, read⟩ := defines
  simp only [flagConstant, Text.cut?_eq_some_iff.mpr ⟨rfl, first⟩,
    Constants.bind_value?_eq_some_iff.mpr read, ← name]

theorem flagConstant_of_fault (fault : FlagFault flag error) :
    flagConstant flag = .error error := by
  cases fault with
  | noMark bare => rw [flagConstant, Text.cut?_eq_none_iff.mpr bare]
  | @noInteger front text split first unread =>
      have read : (IntLiteral.parse? text).bind Constants.value? = none :=
        Option.eq_none_iff_forall_ne_some.mpr fun value found =>
          unread value (Constants.bind_value?_eq_some_iff.mp found)
      simp only [flagConstant, Text.cut?_eq_some_iff.mpr ⟨split, first⟩, read]

theorem defines_or_fault (flag : Text) :
    (∃ pair, Defines flag pair) ∨ ∃ error, FlagFault flag error := by
  by_cases mark : '=' ∈ flag
  · obtain ⟨front, text, split, first⟩ := List.eq_append_cons_of_mem mark
    by_cases read : ∃ value : Int64, IntLiteral.parse? text = some value.toInt
    · obtain ⟨value, read⟩ := read
      exact .inl ⟨(Text.trim front, value), front, text, split, first, rfl, read⟩
    · exact .inr ⟨_, .noInteger split first (not_exists.mp read)⟩
  · exact .inr ⟨_, .noMark mark⟩

theorem flagConstant_eq_iff (flag : Text) :
    (∀ pair, flagConstant flag = .ok pair ↔ Defines flag pair) ∧
      ∀ error, flagConstant flag = .error error ↔ FlagFault flag error :=
  except_eq_iff_of_total (fun _ => flagConstant_of_defines) (fun _ => flagConstant_of_fault)
    (defines_or_fault flag)

theorem flagConstant_eq_ok_iff : flagConstant flag = .ok pair ↔ Defines flag pair :=
  (flagConstant_eq_iff flag).1 pair

theorem flagConstant_eq_error_iff : flagConstant flag = .error error ↔ FlagFault flag error :=
  (flagConstant_eq_iff flag).2 error

end Flag

/-! ## Layers -/

/-- The value of a name by the last flag that defines it, or else by the last header that has it,
or else by the settings. -/
def layeredValue? (config : Config) (headers : List Header) (pairs : List (Text × Int64))
    (name : Text) : Option Int64 :=
  (Constants.valuesOf name pairs).getLast?.or
    ((headers.reverse.findSome? fun header => header.constants.get? name).or
      (config.constants.get? name))

theorem get?_foldl_extend (table : Constants) (headers : List Header) (name : Text) :
    (headers.foldl (fun table header => table.extend header.constants) table).get? name =
      (headers.reverse.findSome? fun header => header.constants.get? name).or
        (table.get? name) :=
  foldl_eq_findSome?_or (fun table => table.get? name)
    (fun table header => table.get?_extend header.constants name) table headers

theorem get?_layered (config : Config) (headers : List Header) (pairs : List (Text × Int64))
    (name : Text) :
    (layered config headers pairs).get? name = layeredValue? config headers pairs name := by
  rw [layered, Constants.get?_extend, Constants.get?_ofList, get?_foldl_extend, layeredValue?]

section Split

variable {files : FileSystem} {config : Config} {paths : List Path} {flags : List Text}
  {declaration : Text} {table other : Constants} {error : CommandError}

/-- The table that a declared type is split with: all headers load, all flags define something,
and each name has its layered value. -/
def IsLayered (files : FileSystem) (config : Config) (paths : List Path) (flags : List Text)
    (table : Constants) : Prop :=
  ∃ headers pairs, List.Forall₂ (Loads files config) paths headers ∧
    List.Forall₂ Defines flags pairs ∧
    ∀ name, table.get? name = layeredValue? config headers pairs name

theorem isLayered_iff :
    IsLayered files config paths flags table ↔
      ∃ headers, paths.mapM (loadHeader files config) = .ok headers ∧
        ∃ pairs, flags.mapM flagConstant = .ok pairs ∧ layered config headers pairs = table := by
  simp only [mapM_eq_ok_iff, loadHeader_eq_ok_iff, flagConstant_eq_ok_iff]
  constructor
  · rintro ⟨headers, pairs, loaded, defined, values⟩
    refine ⟨headers, loaded, pairs, defined, Constants.eq_of_get?_eq fun name => ?_⟩
    rw [get?_layered, values]
  · rintro ⟨headers, loaded, pairs, defined, rfl⟩
    exact ⟨headers, pairs, loaded, defined, get?_layered config headers pairs⟩

theorem IsLayered.unique (layered : IsLayered files config paths flags table)
    (also : IsLayered files config paths flags other) : table = other := by
  obtain ⟨headers, loaded, pairs, defined, rfl⟩ := isLayered_iff.mp layered
  obtain ⟨headers', loaded', pairs', defined', rfl⟩ := isLayered_iff.mp also
  cases loaded.symm.trans loaded'
  cases defined.symm.trans defined'
  rfl

/-- Why a split fails: by the first header at fault, or else by the first flag at fault, or else by
the declaration. -/
inductive SplitFault (files : FileSystem) (config : Config) (declaration : Text)
    (paths : List Path) (flags : List Text) : CommandError → Prop where
  | header {front back : List Path} {path : Path} {error : CommandError}
      (split : paths = front ++ path :: back)
      (before : ∀ earlier ∈ front, ∃ header, Loads files config earlier header)
      (fault : HeaderFault files config path error) :
      SplitFault files config declaration paths flags error
  | flag {front back : List Text} {flag : Text} {error : CommandError}
      (loaded : ∀ path ∈ paths, ∃ header, Loads files config path header)
      (split : flags = front ++ flag :: back)
      (before : ∀ earlier ∈ front, ∃ pair, Defines earlier pair) (fault : FlagFault flag error) :
      SplitFault files config declaration paths flags error
  | declaration {table : Constants} {cause : ExtractError}
      (layered : IsLayered files config paths flags table)
      (fault : ArrayType.split declaration table = .error cause) :
      SplitFault files config declaration paths flags (.declaration cause)

theorem result_splitType_eq_ok_iff {document : Document} :
    (splitType declaration paths flags).result files config = .ok document ↔
      ∃ table type, IsLayered files config paths flags table ∧
        ArrayType.split declaration table = .ok type ∧ .json type.toJson = document := by
  simp only [result, except_bind_eq_ok_iff, except_mapError_eq_ok_iff, isLayered_iff, pure,
    Except.pure, Except.ok.injEq]
  constructor
  · rintro ⟨headers, loaded, pairs, defined, type, split, rfl⟩
    exact ⟨_, type, ⟨headers, loaded, pairs, defined, rfl⟩, split, rfl⟩
  · rintro ⟨_, type, ⟨headers, loaded, pairs, defined, rfl⟩, split, rfl⟩
    exact ⟨headers, loaded, pairs, defined, type, split, rfl⟩

theorem result_splitType_eq_error_iff :
    (splitType declaration paths flags).result files config = .error error ↔
      SplitFault files config declaration paths flags error := by
  simp only [result, except_bind_eq_error_iff, except_mapError_eq_error_iff, pure, Except.pure,
    reduceCtorEq, and_false, exists_false, or_false]
  constructor
  · rintro (failed | ⟨headers, loaded, failed | ⟨pairs, defined, cause, fault, rfl⟩⟩)
    · obtain ⟨path, front, back, split, before, fault⟩ := mapM_loadHeader_eq_error_iff.mp failed
      exact .header split before fault
    · obtain ⟨front, flag, back, split, before, fault⟩ := mapM_eq_error_iff.mp failed
      simp only [flagConstant_eq_ok_iff] at before
      exact .flag (exists_mapM_loadHeader_iff.mp ⟨headers, loaded⟩) split before
        (flagConstant_eq_error_iff.mp fault)
    · exact .declaration (isLayered_iff.mpr ⟨headers, loaded, pairs, defined, rfl⟩) fault
  · rintro (⟨split, before, fault⟩ | ⟨loaded, split, before, fault⟩ | ⟨layered, fault⟩)
    · exact .inl (mapM_loadHeader_eq_error_iff.mpr ⟨_, _, _, split, before, fault⟩)
    · simp only [← flagConstant_eq_ok_iff] at before
      obtain ⟨headers, loaded⟩ := exists_mapM_loadHeader_iff.mpr loaded
      exact .inr ⟨headers, loaded, .inl (mapM_eq_error_iff.mpr
        ⟨_, _, _, split, before, flagConstant_eq_error_iff.mpr fault⟩)⟩
    · obtain ⟨headers, loaded, pairs, defined, rfl⟩ := isLayered_iff.mp layered
      exact .inr ⟨headers, loaded, .inr ⟨pairs, defined, _, fault, rfl⟩⟩

/-- A split fails exactly if something is wrong, wherever that is. -/
theorem exists_splitFault_iff :
    (∃ error, SplitFault files config declaration paths flags error) ↔
      (∃ path ∈ paths, ∃ error, HeaderFault files config path error) ∨
      (∃ flag ∈ flags, ∃ error, FlagFault flag error) ∨
      ∃ table cause, IsLayered files config paths flags table ∧
        ArrayType.split declaration table = .error cause := by
  constructor
  · rintro ⟨error, ⟨rfl, before, fault⟩ | ⟨loaded, rfl, before, fault⟩ | ⟨layered, fault⟩⟩
    · exact .inl ⟨_, by simp, error, fault⟩
    · exact .inr (.inl ⟨_, by simp, error, fault⟩)
    · exact .inr (.inr ⟨_, _, layered, fault⟩)
  · intro wrong
    simp only [← result_splitType_eq_error_iff]
    refine except_exists_error_iff.mpr fun ⟨document, succeeded⟩ => ?_
    obtain ⟨table, type, layered, split, -⟩ := result_splitType_eq_ok_iff.mp succeeded
    obtain ⟨headers, loaded, pairs, defined, -⟩ := isLayered_iff.mp layered
    rcases wrong with ⟨path, listed, error, fault⟩ | ⟨flag, listed, error, fault⟩ |
      ⟨other, cause, also, fault⟩
    · obtain ⟨header, loads⟩ := exists_mapM_loadHeader_iff.mp ⟨headers, loaded⟩ path listed
      cases (loadHeader_eq_ok_iff.mpr loads).symm.trans (loadHeader_eq_error_iff.mpr fault)
    · obtain ⟨pair, -, defines⟩ := exists_mem_mapM_of_mem defined listed
      simp [flagConstant_eq_error_iff.mpr fault] at defines
    · cases layered.unique also
      simp [split] at fault

end Split

end Command
end CHeader
