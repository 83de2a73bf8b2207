import CHeader.Proofs.HeaderLoading
import CHeader.Proofs.Runs

/-!
# Parsing the headers that patterns match

A command that parses headers is all or nothing: it prints the merge of all headers that its
patterns match, or it prints nothing and reports one fault.  If every pattern matches something,
that is the fault of the first header that does not load, whatever stands behind it.  If all of them
load, then the path of the first can be at fault: it is printed as the source, so it needs a text.
-/

namespace CHeader

/-! ## The patterns that a command is given -/

namespace Arguments

theorem patterns_ne_nil_of_command? {name : CommandName} {given : Given} {patterns : List Text}
    (found : command? name given = some (.parse patterns)) : patterns ≠ [] := by
  cases name with
  | parse =>
      simp only [command?] at found
      split at found
      · simp at found
      · next nonempty =>
          obtain rfl : given.operands = patterns := by simpa using found
          simpa using nonempty
  | structs => simp [command?] at found
  | enums => simp [command?] at found
  | defines => simp [command?] at found
  | splitType =>
      simp only [command?] at found
      split at found <;> simp at found
  | completions =>
      simp only [command?] at found
      split at found <;> simp at found

/-- A command that parses headers is given a pattern. -/
theorem patterns_ne_nil_of_read {fallback : Option Path} {arguments patterns : List Text}
    {invocation : Invocation} (accepted : read fallback arguments = .ok invocation)
    (command : invocation.command = .parse patterns) : patterns ≠ [] := by
  simp only [read, except_bind_eq_ok_iff] at accepted
  obtain ⟨⟨front, behind⟩, -, accepted⟩ := accepted
  split at accepted
  · simp at accepted
  · split at accepted
    · simp at accepted
    · split at accepted
      · simp at accepted
      · simp only [except_bind_eq_ok_iff] at accepted
        obtain ⟨⟨back, unread⟩, -, config, -, accepted⟩ := accepted
        split at accepted
        · simp at accepted
        · next given found =>
            obtain rfl := Except.ok.inj accepted
            obtain rfl : given = .parse patterns := command
            exact patterns_ne_nil_of_command? found

/-- Patterns of any form can be given behind `--`. -/
theorem read_parse {fallback : Option Path} {patterns : List Text} (named : fallback ≠ some [])
    (nonempty : patterns ≠ []) :
    read fallback ("parse".toList :: "--".toList :: patterns) =
      .ok ⟨false, true, fallback, .parse patterns⟩ := by
  have command : command? .parse (Given.addOperands {} patterns) = some (.parse patterns) := by
    simp [command?, Given.addOperands, nonempty]
  have front : readOptions none {} ("parse".toList :: "--".toList :: patterns) =
      .ok ({}, "parse".toList :: "--".toList :: patterns) := rfl
  have back : readOptions (some .parse) {} ("--".toList :: patterns) =
      .ok (Given.addOperands {} patterns, []) := rfl
  have config : configPath {} (Given.addOperands {} patterns) fallback = .ok fallback := by
    simp [configPath, Given.addOperands, named]
  have word : CommandName.ofText? "parse".toList = some .parse := rfl
  have no_help : "parse".toList ≠ "help".toList := by decide
  simp only [read, except_bind_eq_ok_iff]
  refine ⟨_, front, ?_⟩
  simp only [if_neg no_help, word, except_bind_eq_ok_iff]
  refine ⟨_, back, fallback, config, ?_⟩
  simp only [command]
  rfl

end Arguments

/-- What can be listed is a directory. -/
theorem FileSystem.isDirectory_of_list {files : FileSystem} {path : Path}
    {entries : List (Path × FileNode)} (listed : files.list path = .ok entries) :
    files.isDirectory path = true := by
  obtain ⟨ancestry, located, listed⟩ := except_bind_eq_ok_iff.mp listed
  rw [isDirectory, located]
  split at listed
  · rfl
  · simp at listed

namespace Command

variable {files : FileSystem} {config : Config} {pattern : Text} {patterns : List Text}
  {path : Path} {paths : List Path} {header : Header} {headers : List Header}

/-! ## The files that patterns match -/

/-- The files that a pattern matches; a text that is no pattern matches none. -/
def matched (files : FileSystem) (pattern : Text) : List Path :=
  match PathPattern.parse pattern with
  | .ok parsed => parsed.expand files
  | .error _ => []

/-- The files that patterns match, in the order of the patterns; a file that is matched twice is
listed twice. -/
def matchedAll (files : FileSystem) (patterns : List Text) : List Path :=
  patterns.flatMap (matched files)

/-- A text is a pattern and matches a file. -/
def Expands (files : FileSystem) (pattern : Text) : Prop :=
  ∃ parsed, PathPattern.parse pattern = .ok parsed ∧ parsed.expand files ≠ []

theorem matched_of_parse {parsed : PathPattern} (read : PathPattern.parse pattern = .ok parsed) :
    matched files pattern = parsed.expand files := by
  rw [matched, read]

/-- A pattern that is one wildcard matches the regular files of the working directory whose names
the wildcard matches. -/
theorem matched_wildcard (parts : List PatternPart) {entries : List (Path × FileNode)}
    (read : PathPattern.parse pattern = .ok ⟨false, [.wildcard parts], false⟩)
    (no_dot : parts.head? ≠ some (.char '.')) (listed : files.list Path.here = .ok entries) :
    matched files pattern = (entries.map Prod.fst).filter fun name =>
      (PatternComponent.wildcard parts).matchName name && files.isFile name := by
  have start : PathPattern.start ⟨false, [.wildcard parts], false⟩ files =
      ⟨Path.here, Path.here, true⟩ := by
    simp [PathPattern.start, FileSystem.isDirectory_of_list listed]
  have path_eq (name : Path) : Place.entryPath Path.here name = name := if_pos (by decide)
  have dots : Place.dotPlaces files ⟨Path.here, Path.here, true⟩ parts = [] :=
    if_neg (by simpa using no_dot)
  rw [matched_of_parse read, PathPattern.expand, PathPattern.walk, start]
  simp only [Place.expand, Place.children, listed, dots, List.nil_append, Bool.false_eq_true,
    if_false, if_true]
  clear listed start
  induction entries with
  | nil => rfl
  | cons entry entries ih =>
      obtain ⟨name, node⟩ := entry
      have place_path : (Place.ofEntry files Path.here name node).path = name := path_eq name
      have place_name : (Place.ofEntry files Path.here name node).name = name := rfl
      cases matches_name : (PatternComponent.wildcard parts).matchName name <;>
        cases is_file : files.isFile name <;>
        simp [matches_name, is_file, place_path, place_name, ih]

theorem expands_iff_matched_ne_nil : Expands files pattern ↔ matched files pattern ≠ [] := by
  constructor
  · rintro ⟨parsed, read, nonempty⟩
    rwa [matched_of_parse read]
  · intro nonempty
    cases read : PathPattern.parse pattern with
    | ok parsed => exact ⟨parsed, read, by rwa [matched_of_parse read] at nonempty⟩
    | error fault => exact absurd (by rw [matched, read]) nonempty

theorem filesOf_eq_ok_iff :
    filesOf files pattern = .ok paths ↔ Expands files pattern ∧ matched files pattern = paths := by
  simp only [filesOf, except_bind_eq_ok_iff, except_mapError_eq_ok_iff]
  constructor
  · rintro ⟨parsed, read, found⟩
    split at found
    · simp at found
    · next path paths expansion =>
        obtain rfl := Except.ok.inj found
        exact ⟨⟨parsed, read, by simp [expansion]⟩, by rw [matched_of_parse read, expansion]⟩
  · rintro ⟨⟨parsed, read, nonempty⟩, rfl⟩
    refine ⟨parsed, read, ?_⟩
    rw [matched_of_parse read]
    split
    · next expansion => exact absurd expansion nonempty
    · next expansion => rw [expansion]

theorem filesOfAll_eq_ok_iff :
    filesOfAll files patterns = .ok paths ↔
      (∀ pattern ∈ patterns, Expands files pattern) ∧ matchedAll files patterns = paths := by
  rw [filesOfAll, except_map_eq_ok_iff]
  constructor
  · rintro ⟨found, mapped, rfl⟩
    obtain ⟨pairs, rfl, rfl, each⟩ := exists_pairs_of_mapM mapped
    simp only [filesOf_eq_ok_iff] at each
    refine ⟨?_, ?_⟩
    · simpa using fun pattern paths member => (each (pattern, paths) member).1
    · rw [matchedAll, List.flatMap_def, List.map_map]
      exact congrArg List.flatten (List.map_congr_left fun pair member => (each pair member).2)
  · rintro ⟨each, rfl⟩
    refine ⟨patterns.map (matched files), ?_, (List.flatMap_def ..).symm⟩
    refine mapM_eq_ok_iff.mpr (List.forall₂_map_right_iff.mpr (List.forall₂_same.mpr ?_))
    exact fun pattern member => filesOf_eq_ok_iff.mpr ⟨each pattern member, rfl⟩

/-! ## Results -/

theorem source_foldl_merge (header : Header) (headers : List Header) :
    (headers.foldl Header.merge header).source = header.source := by
  induction headers generalizing header with
  | nil => rfl
  | cons next headers ih => exact ih (header.merge next)

/-- The first of some paths is the UTF-8 form of a text. -/
def FirstIsText (paths : List Path) : Prop :=
  ∃ source later, paths = .ofText source :: later

theorem firstIsText_cons_iff :
    FirstIsText (path :: paths) ↔ ∃ source, path.text? = some source := by
  simp [FirstIsText, Path.text?_eq_some_iff]

/-- The merge of headers can be printed if the path of the first has a text, which then is the
source of the merge. -/
theorem mergedJson_eq_ok_iff (loads : Loads files config path header) {json : Json} :
    mergedJson (path :: paths) (header :: headers) = .ok json ↔
      ∃ source, path = .ofText source ∧ (headers.foldl Header.merge header).source = source ∧
        (headers.foldl Header.merge header).toJson = json := by
  have merged_source : (headers.foldl Header.merge header).source = path.shown := by
    rw [source_foldl_merge, loads.source_eq]
  rw [mergedJson, mergeAll]
  constructor
  · intro merged
    split at merged
    · next source text =>
        obtain rfl := Path.text?_eq_some_iff.mp text
        rw [Path.shown_ofText] at merged_source
        refine ⟨source, rfl, merged_source, ?_⟩
        rw [← Except.ok.inj merged, ← merged_source]
    · simp at merged
  · rintro ⟨source, rfl, same, rfl⟩
    rw [Path.text?_eq_some_iff.mpr rfl, ← same]

theorem mergedJson_eq_error_iff {error : CommandError} :
    mergedJson (path :: paths) headers = .error error ↔
      ¬ FirstIsText (path :: paths) ∧ error = .sourceWithoutText := by
  simp only [mergedJson, firstIsText_cons_iff]
  cases path.text? with
  | none => simp [eq_comm]
  | some source => simp

theorem matchedAll_ne_nil (nonempty : patterns ≠ [])
    (expand : ∀ pattern ∈ patterns, Expands files pattern) : matchedAll files patterns ≠ [] := by
  cases patterns with
  | nil => exact absurd rfl nonempty
  | cons first later =>
      have first_matched := expands_iff_matched_ne_nil.mp (expand first List.mem_cons_self)
      simp [matchedAll, first_matched]

/-- What is printed is the merge of all headers that the patterns match, with the source of the
first. -/
theorem result_parse_eq_ok_iff (nonempty : patterns ≠ []) {document : Document} :
    (parse patterns).result files config = .ok document ↔
      (∀ pattern ∈ patterns, Expands files pattern) ∧
      ∃ source paths header headers, matchedAll files patterns = .ofText source :: paths ∧
        List.Forall₂ (Loads files config) (.ofText source :: paths) (header :: headers) ∧
        (headers.foldl Header.merge header).source = source ∧
        .json (headers.foldl Header.merge header).toJson = document := by
  simp only [result, except_bind_eq_ok_iff, filesOfAll_eq_ok_iff, mapM_loadHeader_eq_ok_iff, pure,
    Except.pure, Except.ok.injEq]
  constructor
  · rintro ⟨found, ⟨expand, files_matched⟩, headers, loaded, json, merged, rfl⟩
    refine ⟨expand, ?_⟩
    cases loaded with
    | nil => exact absurd files_matched (matchedAll_ne_nil nonempty expand)
    | @cons path header paths headers first later =>
        obtain ⟨source, rfl, source_eq, rfl⟩ := (mergedJson_eq_ok_iff first).mp merged
        exact ⟨source, paths, header, headers, files_matched, .cons first later, source_eq, rfl⟩
  · rintro ⟨expand, source, paths, header, headers, files_matched, loaded, source_eq, rfl⟩
    obtain ⟨first, -⟩ := List.forall₂_cons.mp loaded
    exact ⟨_, ⟨expand, files_matched⟩, _, loaded, _,
      (mergedJson_eq_ok_iff first).mpr ⟨source, rfl, source_eq, rfl⟩, rfl⟩

theorem exists_result_parse_iff (nonempty : patterns ≠ []) :
    (∃ document, (parse patterns).result files config = .ok document) ↔
      (∀ pattern ∈ patterns, Expands files pattern) ∧
      (∀ path ∈ matchedAll files patterns, ∃ header, Loads files config path header) ∧
      FirstIsText (matchedAll files patterns) := by
  simp only [result_parse_eq_ok_iff nonempty, ← exists_mapM_loadHeader_iff,
    mapM_loadHeader_eq_ok_iff]
  constructor
  · rintro ⟨document, expand, source, paths, header, headers, files_matched, loaded, -⟩
    rw [files_matched]
    exact ⟨expand, ⟨_, loaded⟩, source, paths, rfl⟩
  · rintro ⟨expand, ⟨headers, loaded⟩, source, paths, files_matched⟩
    rw [files_matched] at loaded
    cases loaded with
    | @cons _ header _ headers first later =>
        refine
          ⟨_, expand, source, paths, header, headers, files_matched, .cons first later, ?_, rfl⟩
        rw [source_foldl_merge, first.source_eq, Path.shown_ofText]

/-- If all patterns match something, then the first header that does not load is at fault, or else
the path of the first header. -/
theorem result_parse_eq_error_iff (nonempty : patterns ≠ [])
    (expand : ∀ pattern ∈ patterns, Expands files pattern) {error : CommandError} :
    (parse patterns).result files config = .error error ↔
      (∃ path, FirstFault files config (matchedAll files patterns) path error) ∨
      (∀ path ∈ matchedAll files patterns, ∃ header, Loads files config path header) ∧
        ¬ FirstIsText (matchedAll files patterns) ∧ error = .sourceWithoutText := by
  have found := filesOfAll_eq_ok_iff.mpr ⟨expand, rfl⟩
  obtain ⟨path, paths, files_matched⟩ :=
    List.exists_cons_of_ne_nil (matchedAll_ne_nil nonempty expand)
  simp only [result, found, files_matched, except_bind_eq_error_iff, mapM_loadHeader_eq_error_iff,
    mergedJson_eq_error_iff, ← exists_mapM_loadHeader_iff, pure, Except.pure, reduceCtorEq,
    and_false, exists_false, or_false, false_or, Except.ok.injEq, exists_eq_left',
    exists_and_right]

end Command

open Command in
/-- A run that parses headers.  It succeeds exactly if every pattern is one and matches a file,
every file that is matched loads, and the path of the first has a text; then it prints the merge of
the headers from front to back, with that text as the source.  Otherwise it prints nothing and has
exit code 1.  If every pattern matches a file, then it reports the fault of the first file that does
not load and names that file as the location, whatever the files behind it hold; and if all of them
load, it reports that the source cannot be printed, without a location. -/
theorem runArguments_parse (around : Surroundings) (arguments : List Text)
    {invocation : Invocation} {config : Config} {patterns : List Text}
    (accepted : Arguments.read around.configVariable arguments = .ok invocation)
    (command : invocation.command = .parse patterns)
    (settings : around.config invocation = .ok config) :
    ((runArguments around arguments).exitCode = 0 ↔
      (∀ pattern ∈ patterns, Expands around.files pattern) ∧
      (∀ path ∈ matchedAll around.files patterns, ∃ header,
        Loads around.files config path header) ∧
      FirstIsText (matchedAll around.files patterns)) ∧
    (∀ output, (runArguments around arguments).exitCode = 0 ∧
        (runArguments around arguments).output = output ↔
      (∀ pattern ∈ patterns, Expands around.files pattern) ∧
      ∃ source paths header headers, matchedAll around.files patterns = .ofText source :: paths ∧
        List.Forall₂ (Loads around.files config) (.ofText source :: paths) (header :: headers) ∧
        (headers.foldl Header.merge header).source = source ∧
        output = (headers.foldl Header.merge header).toJson.write config.layout ++ ['\n']) ∧
    ((runArguments around arguments).exitCode ≠ 0 →
      (runArguments around arguments).exitCode = 1 ∧
      (runArguments around arguments).output = [] ∧
      ((∀ pattern ∈ patterns, Expands around.files pattern) →
        (∃ path error,
          FirstFault around.files config (matchedAll around.files patterns) path error) ∨
        (∀ path ∈ matchedAll around.files patterns, ∃ header,
          Loads around.files config path header) ∧
          ¬ FirstIsText (matchedAll around.files patterns))) ∧
    (∀ path error, (∀ pattern ∈ patterns, Expands around.files pattern) →
      FirstFault around.files config (matchedAll around.files patterns) path error →
      runArguments around arguments =
        invocation.failure (invocation.fullLog around config) error.report ∧
      error.report.location = some path) ∧
    ((∀ pattern ∈ patterns, Expands around.files pattern) →
      (∀ path ∈ matchedAll around.files patterns, ∃ header,
        Loads around.files config path header) →
      ¬ FirstIsText (matchedAll around.files patterns) →
      runArguments around arguments =
        invocation.failure (invocation.fullLog around config)
          { message := "failed to serialize output"
            context := ["path contains invalid UTF-8 characters"]
            location := none }) := by
  have run_eq : runArguments around arguments = invocation.run around := by
    rw [runArguments, accepted]
  have nonempty := Arguments.patterns_ne_nil_of_read accepted command
  rw [run_eq]
  refine ⟨?exit, fun output => ?success, fun failed => ?failure,
    fun path error expand fault => ?report, fun expand load no_text => ?unprintable⟩
  case exit =>
    rw [Invocation.exitCode_eq_zero_iff settings, command, exists_result_parse_iff nonempty]
  case success =>
    rw [Invocation.succeeds_iff settings, command]
    simp only [result_parse_eq_ok_iff nonempty]
    constructor
    · rintro ⟨_, ⟨expand, source, paths, header, headers, same, loaded, named, rfl⟩, printed⟩
      exact ⟨expand, source, paths, header, headers, same, loaded, named, printed⟩
    · rintro ⟨expand, source, paths, header, headers, same, loaded, named, printed⟩
      exact ⟨_, ⟨expand, source, paths, header, headers, same, loaded, named, rfl⟩, printed⟩
  case failure =>
    rw [ne_eq, Invocation.exitCode_eq_zero_iff settings, ← except_exists_error_iff] at failed
    obtain ⟨code, silent⟩ := (Invocation.fails_iff settings).mpr failed
    refine ⟨code, silent, fun expand => ?_⟩
    obtain ⟨error, failed⟩ := failed
    rw [command, result_parse_eq_error_iff nonempty expand] at failed
    obtain ⟨path, fault⟩ | ⟨load, no_text, -⟩ := failed
    · exact .inl ⟨path, error, fault⟩
    · exact .inr ⟨load, no_text⟩
  case report =>
    have failed := (result_parse_eq_error_iff nonempty expand).mpr (.inl ⟨path, fault⟩)
    obtain ⟨-, -, -, -, header_fault⟩ := fault
    refine ⟨?_, header_fault.location⟩
    rw [Invocation.run_of_config settings, command, failed]
  case unprintable =>
    have failed := (result_parse_eq_error_iff nonempty expand).mpr (.inr ⟨load, no_text, rfl⟩)
    rw [Invocation.run_of_config settings, command, failed]
    rfl

/-- What comes of parsing the headers that patterns match. -/
def parseIn (around : Surroundings) (patterns : List Text) : Outcome :=
  runArguments around ("parse".toList :: "--".toList :: patterns)

/-- A file tree with a header below a directory whose name is no text, and no settings. -/
def strayDirectory : Surroundings :=
  { files := ⟨.directory [([0xFF], .directory
      [("a.h".toList, .file (.ok "#define N 2".toUTF8))])], []⟩
    home := none
    configVariable := none }

/-- The path of the header in that tree. -/
def strayPath : Path :=
  0xFF :: Path.ofText "/a.h".toList

theorem matched_strayDirectory :
    Command.matched strayDirectory.files "**/a.h".toList = [strayPath] := by
  decide +kernel

theorem expands_strayDirectory :
    ∀ pattern ∈ ["**/a.h".toList], Command.Expands strayDirectory.files pattern := by
  simp only [List.forall_mem_singleton, Command.expands_iff_matched_ne_nil, matched_strayDirectory]
  simp

theorem matchedAll_strayDirectory :
    Command.matchedAll strayDirectory.files ["**/a.h".toList] = [strayPath] := by
  rw [Command.matchedAll, List.flatMap_singleton, matched_strayDirectory]

theorem loads_strayPath :
    Command.Loads strayDirectory.files .empty strayPath
      ⟨strayPath.shown, [], [], [⟨"N".toList, "2".toList⟩]⟩ :=
  ⟨"#define N 2".toList, rfl, by decide +kernel⟩

open Command in
/-- The pattern matches a file, and every file that it matches loads, but nothing is printed; and no
patterns at all are wrong usage, although nothing is amiss with any of them. -/
theorem parseIn_strayDirectory :
    (∀ pattern ∈ ["**/a.h".toList], Expands strayDirectory.files pattern) ∧
    (∀ path ∈ matchedAll strayDirectory.files ["**/a.h".toList], ∃ header,
      Loads strayDirectory.files .empty path header) ∧
    (parseIn strayDirectory ["**/a.h".toList]).exitCode = 1 ∧
    (parseIn strayDirectory ["**/a.h".toList]).output = [] ∧
    (parseIn strayDirectory []).exitCode = 2 := by
  refine ⟨expands_strayDirectory, ?_, by decide +kernel, by decide +kernel, by decide +kernel⟩
  rw [matchedAll_strayDirectory]
  exact List.forall_mem_singleton.mpr ⟨_, loads_strayPath⟩

/-- The path of a header whose name has one letter. -/
def headerPath (letter : Char) : Path :=
  Path.ofText [letter, '.', 'h']

/-- A header that parses, one that does not and one that cannot be read. -/
def threeEntries : List (Path × FileNode) :=
  [(headerPath 'a', .file (.ok "#define N 2".toUTF8)),
    (headerPath 'b', .file (.ok "enum f { = 2 };".toUTF8)),
    (headerPath 'c', .file (.error .permissionDenied))]

/-- A file tree with these headers and no settings. -/
def threeHeaders : Surroundings :=
  { files := ⟨.directory threeEntries, []⟩
    home := none
    configVariable := none }

open Command in
/-- Matched twice, the first header is printed with its macro twice.  Matched together with the
other two, it is not printed at all, and whichever of them comes first is reported.  Behind a
directory whose name is no text, a header is not printed either. -/
theorem runArguments_parse_threeHeaders :
    ((parseIn threeHeaders ["a.h".toList, "a*".toList]).exitCode = 0 ∧
      (parseIn threeHeaders ["a.h".toList, "a*".toList]).output = (Header.mk "a.h".toList [] []
        [⟨"N".toList, "2".toList⟩, ⟨"N".toList, "2".toList⟩]).toJson.write .pretty ++ ['\n']) ∧
    ((parseIn threeHeaders ["a.h".toList, "*.h".toList]).exitCode = 1 ∧
      ∃ invocation log report, parseIn threeHeaders ["a.h".toList, "*.h".toList] =
        Invocation.failure invocation log report ∧ report.location = some (headerPath 'b')) ∧
    ((parseIn threeHeaders ["[ac].h".toList, "*.h".toList]).exitCode = 1 ∧
      ∃ invocation log report, parseIn threeHeaders ["[ac].h".toList, "*.h".toList] =
        Invocation.failure invocation log report ∧ report.location = some (headerPath 'c')) ∧
    (parseIn strayDirectory ["**/a.h".toList]).exitCode = 1 ∧
      ∃ invocation log report, parseIn strayDirectory ["**/a.h".toList] =
        Invocation.failure invocation log report ∧ report.location = none := by
  have first_loads : Loads threeHeaders.files .empty (headerPath 'a')
      ⟨"a.h".toList, [], [], [⟨"N".toList, "2".toList⟩]⟩ :=
    ⟨"#define N 2".toList, rfl, by decide +kernel⟩
  have second_fails : HeaderFault threeHeaders.files .empty (headerPath 'b')
      (.header (.unparsable (headerPath 'b') (.malformedEnumerator "f".toList " = 2 ".toList))) :=
    have read : threeHeaders.files.read (headerPath 'b') = .ok "enum f { = 2 };".toList := rfl
    .unparsable read (by decide +kernel)
  have third_fails : HeaderFault threeHeaders.files .empty (headerPath 'c')
      (.header (.unreadable (headerPath 'c') .permissionDenied)) := .unreadable rfl
  have listed : threeHeaders.files.list Path.here = .ok threeEntries :=
    congrArg Except.ok (List.mergeSort_of_pairwise (by decide +kernel))
  have named : matched threeHeaders.files "a.h".toList = [headerPath 'a'] := by decide +kernel
  have starting : matched threeHeaders.files "a*".toList = [headerPath 'a'] :=
    (matched_wildcard [.char 'a', .anyText] (by decide +kernel) (by decide) listed).trans
      (by decide +kernel)
  have ending : matched threeHeaders.files "*.h".toList =
      [headerPath 'a', headerPath 'b', headerPath 'c'] :=
    (matched_wildcard [.anyText, .char '.', .char 'h'] (by decide +kernel) (by decide) listed).trans
      (by decide +kernel)
  have either : matched threeHeaders.files "[ac].h".toList = [headerPath 'a', headerPath 'c'] :=
    (matched_wildcard [.oneOf [('a', 'a'), ('c', 'c')], .char '.', .char 'h'] (by decide +kernel)
      (by decide) listed).trans (by decide +kernel)
  have accepted (pattern : Text) (patterns : List Text) :
      Arguments.read none ("parse".toList :: "--".toList :: pattern :: patterns) =
        .ok ⟨false, true, none, .parse (pattern :: patterns)⟩ :=
    Arguments.read_parse (by simp) (by simp)
  have settings (patterns : List Text) :
      threeHeaders.config ⟨false, true, none, .parse patterns⟩ = .ok .empty := rfl
  have stray_settings (patterns : List Text) :
      strayDirectory.config ⟨false, true, none, .parse patterns⟩ = .ok .empty := rfl
  have located (pattern : Text) (patterns : List Text) {front back : List Path} {path : Path}
      {error : CommandError}
      (expand : ∀ other ∈ pattern :: patterns, Expands threeHeaders.files other)
      (split : matchedAll threeHeaders.files (pattern :: patterns) = front ++ path :: back)
      (earlier : ∀ other ∈ front, other = headerPath 'a')
      (fault : HeaderFault threeHeaders.files .empty path error) :
      (parseIn threeHeaders (pattern :: patterns)).exitCode = 1 ∧
        ∃ invocation log report, parseIn threeHeaders (pattern :: patterns) =
          Invocation.failure invocation log report ∧ report.location = some path := by
    obtain ⟨-, -, -, report, -⟩ :=
      runArguments_parse threeHeaders _ (accepted pattern patterns) rfl (settings _)
    obtain ⟨run_eq, location⟩ := report _ _ expand
      ⟨_, _, split, fun other member => ⟨_, earlier other member ▸ first_loads⟩, fault⟩
    exact ⟨congrArg Outcome.exitCode run_eq, _, _, _, run_eq, location⟩
  refine ⟨?printed, ?second, ?third, ?stray⟩
  case printed =>
    have expand : ∀ pattern ∈ ["a.h".toList, "a*".toList], Expands threeHeaders.files pattern := by
      simp only [List.forall_mem_cons, expands_iff_matched_ne_nil, named, starting]
      simp
    have matched_twice : matchedAll threeHeaders.files ["a.h".toList, "a*".toList] =
        [headerPath 'a', headerPath 'a'] := by
      simp only [matchedAll, List.flatMap_cons, List.flatMap_nil, named, starting]
      rfl
    obtain ⟨-, success, -⟩ :=
      runArguments_parse threeHeaders _ (accepted "a.h".toList ["a*".toList]) rfl (settings _)
    exact (success _).mpr ⟨expand, _, _, _, _, matched_twice,
      .cons first_loads (.cons first_loads .nil), rfl, rfl⟩
  case second =>
    have split : matchedAll threeHeaders.files ["a.h".toList, "*.h".toList] =
        [headerPath 'a', headerPath 'a'] ++ headerPath 'b' :: [headerPath 'c'] := by
      simp only [matchedAll, List.flatMap_cons, List.flatMap_nil, named, ending]
      rfl
    refine located _ _ ?_ split (by simp) second_fails
    simp only [List.forall_mem_cons, expands_iff_matched_ne_nil, named, ending]
    simp
  case third =>
    have split : matchedAll threeHeaders.files ["[ac].h".toList, "*.h".toList] =
        [headerPath 'a'] ++ headerPath 'c' :: [headerPath 'a', headerPath 'b', headerPath 'c'] := by
      simp only [matchedAll, List.flatMap_cons, List.flatMap_nil, either, ending]
      rfl
    refine located _ _ ?_ split (by simp) third_fails
    simp only [List.forall_mem_cons, expands_iff_matched_ne_nil, either, ending]
    simp
  case stray =>
    have no_text : ¬ FirstIsText [strayPath] := by
      have text : strayPath.text? = none := by decide +kernel
      simp [firstIsText_cons_iff, text]
    obtain ⟨-, -, -, -, unprintable⟩ :=
      runArguments_parse strayDirectory _ (accepted "**/a.h".toList []) rfl (stray_settings _)
    rw [matchedAll_strayDirectory] at unprintable
    have run_eq := unprintable expands_strayDirectory
      (List.forall_mem_singleton.mpr ⟨_, loads_strayPath⟩) no_text
    exact ⟨congrArg Outcome.exitCode run_eq, _, _, _, run_eq, rfl⟩

end CHeader
