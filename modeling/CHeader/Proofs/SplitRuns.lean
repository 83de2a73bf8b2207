import CHeader.Proofs.Runs
import CHeader.Proofs.SplitLayers

/-!
# Splitting a declared type on the command line

What the tool prints for a declared type is decided by the layers of constants, and its exit code by
whether a header, a flag or the declaration is at fault.
-/

namespace CHeader

open Command in
/-- A run that splits a declared type.  If it succeeds, it prints the type as split with the layered
constants: a name has the value of the last flag that defines it, or else of the last header that
has it, or else that of the settings.  It fails exactly if a header cannot be loaded, a flag defines
nothing or the declaration cannot be split, and reports the first of these, headers before flags and
flags before the declaration.  The filter of the settings decides which enums headers have. -/
theorem runArguments_splitType (around : Surroundings) (arguments : List Text)
    {invocation : Invocation} {config : Config} {declaration : Text} {paths : List Path}
    {flags : List Text}
    (accepted : Arguments.read around.configVariable arguments = .ok invocation)
    (command : invocation.command = .splitType declaration paths flags)
    (settings : around.config invocation = .ok config) :
    (∀ output, (runArguments around arguments).exitCode = 0 ∧
        (runArguments around arguments).output = output ↔
      ∃ table type, IsLayered around.files config paths flags table ∧
        ArrayType.split declaration table = .ok type ∧
        output = type.toJson.write config.layout ++ ['\n']) ∧
    ((runArguments around arguments).exitCode = 1 ∧
        (runArguments around arguments).output = [] ↔
      (∃ path ∈ paths, ∃ error, HeaderFault around.files config path error) ∨
      (∃ flag ∈ flags, ∃ error, FlagFault flag error) ∨
      ∃ table cause, IsLayered around.files config paths flags table ∧
        ArrayType.split declaration table = .error cause) ∧
    (∀ error, SplitFault around.files config declaration paths flags error →
      runArguments around arguments =
        invocation.failure (invocation.fullLog around config) error.report) ∧
    ∀ path header, Loads around.files config path header → ∀ enum ∈ header.enums,
      ∃ text block, around.files.read path = .ok text ∧ block ∈ Block.ofHeader .enum text ∧
        config.filter.keeps block = true ∧ Enum.resolve block.text = .ok enum := by
  have run_eq : runArguments around arguments = invocation.run around := by
    rw [runArguments, accepted]
  rw [run_eq]
  refine ⟨fun output => ?success, ?failure, fun error fault => ?report,
    fun path header loads enum listed => loads.exists_block listed⟩
  case success =>
    rw [Invocation.succeeds_iff settings, command]
    simp only [result_splitType_eq_ok_iff]
    constructor
    · rintro ⟨_, ⟨table, type, layered, split, rfl⟩, printed⟩
      exact ⟨table, type, layered, split, printed⟩
    · rintro ⟨table, type, layered, split, printed⟩
      exact ⟨_, ⟨table, type, layered, split, rfl⟩, printed⟩
  case failure =>
    rw [Invocation.fails_iff settings, command]
    simp only [result_splitType_eq_error_iff]
    exact exists_splitFault_iff
  case report =>
    rw [Invocation.run_of_config settings, command, result_splitType_eq_error_iff.mpr fault]

/-- A file tree with settings and two headers, one of them with an enum that the settings drop. -/
def layeredTree : Surroundings :=
  { files := ⟨.directory
      [("cextract.toml".toList, .file (.ok (String.toUTF8
          "[constants]\nN = 1\nK = 5\n[filter]\nexclude_types = [\"hidden\"]\n"))),
        ("a.h".toList, .file (.ok "#define N 2\nenum hidden { K = 6 };".toUTF8)),
        ("b.h".toList, .file (.ok "enum seen { N = 3 };".toUTF8))], []⟩
    home := none
    configVariable := none }

/-- Arguments that split a declared type, with further arguments behind it. -/
def splitArguments (declaration : String) (further : List String) : List Text :=
  "split-type".toList :: declaration.toList :: further.map String.toList

/-- What comes of splitting a declared type there. -/
def splitThere (declaration : String) (further : List String) : Outcome :=
  runArguments layeredTree (splitArguments declaration further)

/-- What is printed of an array of integers, whose count has one digit. -/
def printedInts (digit : Char) : Text :=
  r#"{
  "count": "#.toList ++ digit :: r#",
  "base_type": "int"
}
"#.toList

open Command in
/-- The name `N` is counted as the last flag says, or else as the last header does; `K` is counted
as the settings say, because the enum that has it is dropped; and a flag without a value is reported
although the header loads. -/
theorem runArguments_splitType_layeredTree :
    ((splitThere "int[N]" ["--header", "a.h", "--header", "b.h", "-D", "N =4"]).exitCode = 0 ∧
      (splitThere "int[N]" ["--header", "a.h", "--header", "b.h", "-D", "N =4"]).output =
        printedInts '4') ∧
    ((splitThere "int[N]" ["--header", "a.h", "--header", "b.h"]).exitCode = 0 ∧
      (splitThere "int[N]" ["--header", "a.h", "--header", "b.h"]).output = printedInts '3') ∧
    ((splitThere "int[K]" ["--header", "a.h"]).exitCode = 0 ∧
      (splitThere "int[K]" ["--header", "a.h"]).output = printedInts '5') ∧
    (splitThere "int[N]" ["--header", "a.h", "-D", "N"]).exitCode = 1 ∧
      ∃ invocation log, splitThere "int[N]" ["--header", "a.h", "-D", "N"] =
        Invocation.failure invocation log
          { message := "invalid --define `N`: expected NAME=VALUE" } := by
  let config : Config :=
    ⟨.ofList [("N".toList, 1), ("K".toList, 5)], none, some ["hidden".toList], none⟩
  let first : Header := ⟨"a.h".toList, [], [], [⟨"N".toList, "2".toList⟩]⟩
  let second : Header := ⟨"b.h".toList, [], [⟨"seen".toList, [⟨"N".toList, .int 3⟩]⟩], []⟩
  have settings (command : Command) :
      layeredTree.config ⟨false, true, none, command⟩ = .ok config := by
    have loaded : layeredTree.config ⟨false, true, none, .parse []⟩ = .ok config := by
      decide +kernel
    exact loaded
  have first_loads : Loads layeredTree.files config "a.h".toList first :=
    ⟨"#define N 2\nenum hidden { K = 6 };".toList, rfl, by decide +kernel⟩
  have second_loads : Loads layeredTree.files config "b.h".toList second :=
    ⟨"enum seen { N = 3 };".toList, rfl, by decide +kernel⟩
  have both_load : List.Forall₂ (Loads layeredTree.files config)
      ["a.h".toList, "b.h".toList] [first, second] := .cons first_loads (.cons second_loads .nil)
  have defines : Defines "N =4".toList ("N".toList, 4) :=
    ⟨"N ".toList, "4".toList, rfl, by decide, by decide, by decide⟩
  have fault : SplitFault layeredTree.files config "int[N]".toList ["a.h".toList] ["N".toList]
      (.flagWithoutValue "N".toList) := by
    refine .flag ?_ (List.nil_append ["N".toList]).symm (by simp) (.noMark (by decide))
    simpa using ⟨_, first_loads⟩
  refine ⟨?flag, ?header, ?settings, ?fault⟩
  case flag =>
    obtain ⟨success, -⟩ := runArguments_splitType layeredTree
      (splitArguments "int[N]" ["--header", "a.h", "--header", "b.h", "-D", "N =4"])
      rfl rfl (settings _)
    exact (success _).mpr ⟨layered config [first, second] [("N".toList, 4)], ⟨4, "int".toList⟩,
      ⟨_, _, both_load, .cons defines .nil, get?_layered _ _ _⟩, by decide, rfl⟩
  case header =>
    obtain ⟨success, -⟩ := runArguments_splitType layeredTree
      (splitArguments "int[N]" ["--header", "a.h", "--header", "b.h"]) rfl rfl (settings _)
    exact (success _).mpr ⟨layered config [first, second] [], ⟨3, "int".toList⟩,
      ⟨_, _, both_load, .nil, get?_layered _ _ _⟩, by decide, rfl⟩
  case settings =>
    obtain ⟨success, -⟩ := runArguments_splitType layeredTree
      (splitArguments "int[K]" ["--header", "a.h"]) rfl rfl (settings _)
    exact (success _).mpr ⟨layered config [first] [], ⟨5, "int".toList⟩,
      ⟨_, _, .cons first_loads .nil, .nil, get?_layered _ _ _⟩, by decide, rfl⟩
  case fault =>
    obtain ⟨-, -, report, -⟩ := runArguments_splitType layeredTree
      (splitArguments "int[N]" ["--header", "a.h", "-D", "N"]) rfl rfl (settings _)
    have run_eq := report _ fault
    exact ⟨congrArg Outcome.exitCode run_eq, _, _, run_eq⟩

end CHeader
