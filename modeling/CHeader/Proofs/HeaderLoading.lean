import CHeader.Command
import CHeader.Proofs.Traversal

/-!
# Loading a header for a command

A header loads if its path leads to a text that parses with the filter of the settings.  Otherwise
the file or the text is at fault, and the report is located in the header.
-/

namespace CHeader
namespace Command

variable {files : FileSystem} {config : Config} {path : Path} {header : Header}
  {error : CommandError}

/-- A path leads to the text of a header, parsed with the filter of the settings. -/
def Loads (files : FileSystem) (config : Config) (path : Path) (header : Header) : Prop :=
  ∃ text, files.read path = .ok text ∧ Header.parse config.filter path.shown text = .ok header

/-- What is wrong with a header file. -/
inductive HeaderFault (files : FileSystem) (config : Config) (path : Path) :
    CommandError → Prop where
  | unreadable {cause : FileError} (unread : files.read path = .error cause) :
      HeaderFault files config path (.header (.unreadable path cause))
  | unparsable {text : Text} {cause : ExtractError} (read : files.read path = .ok text)
      (unparsed : Header.parse config.filter path.shown text = .error cause) :
      HeaderFault files config path (.header (.unparsable path cause))

theorem loadHeader_eq_ok_iff :
    loadHeader files config path = .ok header ↔ Loads files config path header := by
  simp only [loadHeader, Header.load, Header.readText, except_mapError_eq_ok_iff,
    except_bind_eq_ok_iff, Loads]

theorem loadHeader_eq_error_iff :
    loadHeader files config path = .error error ↔ HeaderFault files config path error := by
  simp only [loadHeader, Header.load, Header.readText, except_mapError_eq_error_iff,
    except_bind_eq_error_iff, except_mapError_eq_ok_iff]
  constructor
  · rintro ⟨_, ⟨cause, unread, rfl⟩ | ⟨text, read, cause, unparsed, rfl⟩, rfl⟩
    · exact .unreadable unread
    · exact .unparsable read unparsed
  · rintro (unread | ⟨read, unparsed⟩)
    · exact ⟨_, .inl ⟨_, unread, rfl⟩, rfl⟩
    · exact ⟨_, .inr ⟨_, read, _, unparsed, rfl⟩, rfl⟩

theorem Loads.source_eq (loads : Loads files config path header) : header.source = path.shown := by
  obtain ⟨text, -, parsed⟩ := loads
  obtain ⟨enums, -, rfl⟩ := except_map_eq_ok_iff.mp parsed
  rfl

/-- The report of a fault is located in the header. -/
theorem HeaderFault.location (fault : HeaderFault files config path error) :
    error.report.location = some path := by
  cases fault <;> rfl

/-- Every enum of a header comes from a block that passes the filter. -/
theorem Loads.exists_block (loads : Loads files config path header) {enum : Enum}
    (listed : enum ∈ header.enums) : ∃ text block, files.read path = .ok text ∧
      block ∈ Block.ofHeader .enum text ∧ config.filter.keeps block = true ∧
      Enum.resolve block.text = .ok enum := by
  obtain ⟨text, read, parsed⟩ := loads
  obtain ⟨enums, resolved, rfl⟩ := except_map_eq_ok_iff.mp parsed
  obtain ⟨block, member, block_resolved⟩ := exists_mem_of_mem_mapM resolved listed
  obtain ⟨found, kept⟩ := List.mem_filter.mp member
  exact ⟨text, block, read, found, kept, block_resolved⟩

/-! ## Many headers -/

variable {paths : List Path}

/-- A header does not load, and all headers before it do. -/
def FirstFault (files : FileSystem) (config : Config) (paths : List Path) (path : Path)
    (error : CommandError) : Prop :=
  ∃ front back, paths = front ++ path :: back ∧
    (∀ earlier ∈ front, ∃ header, Loads files config earlier header) ∧
    HeaderFault files config path error

theorem mapM_loadHeader_eq_ok_iff {headers : List Header} :
    paths.mapM (loadHeader files config) = .ok headers ↔
      List.Forall₂ (Loads files config) paths headers := by
  simp only [mapM_eq_ok_iff, loadHeader_eq_ok_iff]

theorem mapM_loadHeader_eq_error_iff :
    paths.mapM (loadHeader files config) = .error error ↔
      ∃ path, FirstFault files config paths path error := by
  simp only [mapM_eq_error_iff, loadHeader_eq_ok_iff, loadHeader_eq_error_iff, FirstFault]
  constructor
  · rintro ⟨front, path, back, first⟩
    exact ⟨path, front, back, first⟩
  · rintro ⟨path, front, back, first⟩
    exact ⟨front, path, back, first⟩

theorem exists_mapM_loadHeader_iff :
    (∃ headers, paths.mapM (loadHeader files config) = .ok headers) ↔
      ∀ path ∈ paths, ∃ header, Loads files config path header := by
  constructor
  · rintro ⟨headers, loaded⟩ path listed
    obtain ⟨header, -, loads⟩ := exists_mem_mapM_of_mem loaded listed
    exact ⟨header, loadHeader_eq_ok_iff.mp loads⟩
  · intro each
    simp only [← loadHeader_eq_ok_iff] at each
    exact exists_mapM_eq_ok each

end Command
end CHeader
