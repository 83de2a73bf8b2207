import CHeader.Config.Load
import CHeader.Proofs.ConfigLayers
import CHeader.Proofs.Traversal

/-!
# Loading settings from intact and broken files

A file of settings is intact if its text can be read and describes settings; otherwise it is broken.
Loading fails exactly if the user asked for a project file that is broken.  In all other cases a
broken file counts as empty settings, so that only what intact files describe reaches the result.
-/

namespace CHeader
namespace ConfigSource

variable {source other : ConfigSource} {path projectPath : Path} {globalPath : Option Path}
  {config layer : Config} {error : ConfigError} {explicit : Bool}

/-! ## One file -/

/-- A path leads to a text that describes these settings. -/
def Holds (source : ConfigSource) (path : Path) (config : Config) : Prop :=
  ∃ text, source.read path = .ok text ∧ source.parse? text = some config

/-- What is wrong with a file of settings. -/
inductive Fault (source : ConfigSource) (path : Path) : ConfigError → Prop where
  | unreadable {cause : FileError} (unread : source.read path = .error cause) :
      Fault source path (.unreadable path cause)
  | unparsable {text : Text} (read : source.read path = .ok text)
      (unparsed : source.parse? text = none) : Fault source path (.unparsable path)

/-- A file of settings is missing, or something is wrong with it. -/
def IsBroken (source : ConfigSource) (path : Path) : Prop :=
  source.contains path = false ∨ ∃ error, source.Fault path error

theorem load_of_holds (holds : source.Holds path config) : source.load path = .ok config := by
  obtain ⟨text, read, parsed⟩ := holds
  simp only [load, read, parsed]

theorem load_of_fault (fault : source.Fault path error) : source.load path = .error error := by
  cases fault with
  | unreadable unread => simp only [load, unread]
  | unparsable read unparsed => simp only [load, read, unparsed]

theorem holds_or_fault (source : ConfigSource) (path : Path) :
    (∃ config, source.Holds path config) ∨ ∃ error, source.Fault path error := by
  cases read : source.read path with
  | error cause => exact .inr ⟨_, .unreadable read⟩
  | ok text =>
      cases parsed : source.parse? text with
      | some config => exact .inl ⟨config, text, read, parsed⟩
      | none => exact .inr ⟨_, .unparsable read parsed⟩

theorem load_eq_iff (source : ConfigSource) (path : Path) :
    (∀ config, source.load path = .ok config ↔ source.Holds path config) ∧
      ∀ error, source.load path = .error error ↔ source.Fault path error :=
  except_eq_iff_of_total (fun _ => load_of_holds) (fun _ => load_of_fault)
    (holds_or_fault source path)

theorem Holds.contains_eq (holds : source.Holds path config) : source.contains path = true := by
  obtain ⟨text, read, -⟩ := holds
  exact source.contains_of_read path text read

/-- A file is broken if it does not hold settings; one that is missing cannot be read. -/
theorem isBroken_iff : source.IsBroken path ↔ ¬ ∃ config, source.Holds path config := by
  have faulty : (∃ error, source.Fault path error) ↔ ¬ ∃ config, source.Holds path config := by
    simp only [← (load_eq_iff source path).1, ← (load_eq_iff source path).2,
      except_exists_error_iff]
  rw [IsBroken, faulty, or_iff_right_of_imp]
  rintro missing ⟨config, holds⟩
  simp [holds.contains_eq] at missing

theorem IsBroken.exists_fault (broken : source.IsBroken path) :
    ∃ error, source.Fault path error :=
  (holds_or_fault source path).resolve_left (isBroken_iff.mp broken)

/-! ## Layers -/

/-- The settings that an optional path contributes if broken files are passed over. -/
inductive Contributes (source : ConfigSource) : Option Path → Config → Prop where
  | unnamed : Contributes source none .empty
  | broken {path : Path} (broken : source.IsBroken path) : Contributes source (some path) .empty
  | intact {path : Path} {config : Config} (holds : source.Holds path config) :
      Contributes source (some path) config

theorem exists_contributes (source : ConfigSource) (path? : Option Path) :
    ∃ config, source.Contributes path? config := by
  cases path? with
  | none => exact ⟨_, .unnamed⟩
  | some path =>
      by_cases holds : ∃ config, source.Holds path config
      · obtain ⟨config, holds⟩ := holds
        exact ⟨config, .intact holds⟩
      · exact ⟨_, .broken (isBroken_iff.mpr holds)⟩

/-- Whether a file exists is asked twice, but one that does not would add nothing. -/
theorem Contributes.overlay_eq (contributes : source.Contributes (some path) layer) :
    source.overlay config path = config.merge layer := by
  unfold overlay loadOrEmpty
  cases contributes with
  | intact holds => rw [if_pos holds.contains_eq, if_pos holds.contains_eq, load_of_holds holds]
  | broken broken =>
      by_cases found : source.contains path = true
      · obtain ⟨error, fault⟩ := broken.exists_fault
        rw [if_pos found, if_pos found, load_of_fault fault]
      · rw [if_neg found, Config.merge_empty]

theorem Contributes.globalLayer_eq (contributes : source.Contributes globalPath layer) :
    source.globalLayer globalPath = layer := by
  cases globalPath with
  | none =>
      cases contributes
      rfl
  | some path => rw [globalLayer, contributes.overlay_eq, Config.empty_merge]

/-- Sources whose files hold the same settings contribute the same. -/
theorem Contributes.of_holds_iff (contributes : source.Contributes globalPath layer)
    (same : ∀ path ∈ globalPath, ∀ config, other.Holds path config ↔ source.Holds path config) :
    other.Contributes globalPath layer := by
  cases contributes with
  | unnamed => exact .unnamed
  | @broken path broken =>
      have same_path := same path rfl
      refine .broken (isBroken_iff.mpr ?_)
      simpa only [same_path] using isBroken_iff.mp broken
  | @intact path _ holds => exact .intact ((same path rfl _).mpr holds)

/-! ## Both files -/

theorem loadAll_of_contributes {global project : Config}
    (usable : ¬ (explicit = true ∧ source.IsBroken projectPath))
    (global_layer : source.Contributes globalPath global)
    (project_layer : source.Contributes (some projectPath) project) :
    source.loadAll globalPath projectPath explicit = .ok (global.merge project) := by
  simp only [loadAll, global_layer.globalLayer_eq]
  cases explicit with
  | false => rw [if_neg Bool.false_ne_true, project_layer.overlay_eq]
  | true =>
      cases project_layer with
      | broken broken => exact absurd ⟨rfl, broken⟩ usable
      | intact holds =>
          rw [if_pos rfl, load_of_holds holds]
          rfl

theorem loadAll_of_fault (fault : source.Fault projectPath error) :
    source.loadAll globalPath projectPath true = .error error := by
  simp only [loadAll, if_pos, load_of_fault fault]
  rfl

/-- Loading returns the merged layers, or fails with what is wrong with a project file that the user
asked for. -/
theorem loadAll_eq_iff (source : ConfigSource) (globalPath : Option Path) (projectPath : Path)
    (explicit : Bool) :
    (∀ config, source.loadAll globalPath projectPath explicit = .ok config ↔
      ¬ (explicit = true ∧ source.IsBroken projectPath) ∧ ∃ global project,
        source.Contributes globalPath global ∧ source.Contributes (some projectPath) project ∧
          config = global.merge project) ∧
    ∀ error, source.loadAll globalPath projectPath explicit = .error error ↔
      explicit = true ∧ source.Fault projectPath error := by
  refine except_eq_iff_of_total ?succeeds ?fails ?total
  case succeeds =>
    rintro _ ⟨usable, global, project, global_layer, project_layer, rfl⟩
    exact loadAll_of_contributes usable global_layer project_layer
  case fails =>
    rintro error ⟨rfl, fault⟩
    exact loadAll_of_fault fault
  case total =>
    by_cases lacking : explicit = true ∧ source.IsBroken projectPath
    · obtain ⟨asked, broken⟩ := lacking
      obtain ⟨error, fault⟩ := broken.exists_fault
      exact .inr ⟨error, asked, fault⟩
    · obtain ⟨global, global_layer⟩ := exists_contributes source globalPath
      obtain ⟨project, project_layer⟩ := exists_contributes source (some projectPath)
      exact .inl ⟨_, lacking, global, project, global_layer, project_layer, rfl⟩

theorem loadAll_broken_global (broken : source.IsBroken path) :
    source.loadAll (some path) projectPath explicit =
      source.loadAll none projectPath explicit := by
  have global_layer : source.globalLayer (some path) = source.globalLayer none :=
    (Contributes.broken broken).globalLayer_eq
  simp only [loadAll, global_layer]

theorem loadAll_eq_ok_of_holds_iff
    (same : ∀ path, path ∈ globalPath ∨ path = projectPath →
      ∀ config, other.Holds path config ↔ source.Holds path config)
    (loaded : source.loadAll globalPath projectPath explicit = .ok config) :
    other.loadAll globalPath projectPath explicit = .ok config := by
  obtain ⟨usable, global, project, global_layer, project_layer, rfl⟩ :=
    ((loadAll_eq_iff _ _ _ _).1 _).mp loaded
  have same_project := same projectPath (.inr rfl)
  refine loadAll_of_contributes ?usable ?global ?project
  case usable => simpa only [isBroken_iff, same_project] using usable
  case global => exact global_layer.of_holds_iff fun path named => same path (.inl named)
  case project =>
    refine project_layer.of_holds_iff fun path named => ?_
    obtain rfl := Option.some.inj named
    exact same_project

/-- Loading fails exactly if the user asked for a project file that is missing, cannot be read or
does not describe settings, and what is reported is wrong with that file, whatever the global file
is.  Otherwise the settings of the global file are returned, overridden by those of the project
file, where either counts as empty settings if it is not named or broken.  So a broken global file
is as good as none, and two sources whose files hold the same settings give the same result, however
their broken files differ. -/
theorem loadAll_from_intact (source : ConfigSource) (globalPath : Option Path) (projectPath : Path)
    (explicit : Bool) :
    ((∃ error, source.loadAll globalPath projectPath explicit = .error error) ↔
      explicit = true ∧ source.IsBroken projectPath) ∧
    (∀ error, source.loadAll globalPath projectPath explicit = .error error ↔
      explicit = true ∧ source.Fault projectPath error) ∧
    (∀ config, source.loadAll globalPath projectPath explicit = .ok config ↔
      ¬ (explicit = true ∧ source.IsBroken projectPath) ∧ ∃ global project,
        source.Contributes globalPath global ∧ source.Contributes (some projectPath) project ∧
          config = global.merge project) ∧
    (∀ path, source.IsBroken path → source.loadAll (some path) projectPath explicit =
      source.loadAll none projectPath explicit) ∧
    ∀ other : ConfigSource,
      (∀ path, path ∈ globalPath ∨ path = projectPath →
        ∀ config, other.Holds path config ↔ source.Holds path config) →
      ∀ config, other.loadAll globalPath projectPath explicit = .ok config ↔
        source.loadAll globalPath projectPath explicit = .ok config := by
  obtain ⟨success, failure⟩ := loadAll_eq_iff source globalPath projectPath explicit
  refine ⟨?fails, failure, success, fun _ => loadAll_broken_global,
    fun other same config => ?intact⟩
  case fails =>
    simp only [failure, exists_and_left]
    refine and_congr_right fun _ => ⟨.inr, IsBroken.exists_fault⟩
  case intact =>
    exact ⟨loadAll_eq_ok_of_holds_iff fun path named config => (same path named config).symm,
      loadAll_eq_ok_of_holds_iff same⟩

/-- A file tree with broken global settings and intact settings of a project. -/
def brokenGlobal : FileSystem :=
  ⟨.directory [("global.toml".toList, .file (.ok "[output\n".toUTF8)),
    ("project.toml".toList, .file (.ok "[output]\npretty = false\n".toUTF8))], []⟩

theorem loadAll_from_intact_brokenGlobal :
    brokenGlobal.configSource.IsBroken "global.toml".toList ∧
      Config.loadAll brokenGlobal (some "global.toml".toList) "project.toml".toList true =
        .ok ⟨.empty, none, none, some false⟩ := by
  have broken : brokenGlobal.configSource.IsBroken "global.toml".toList :=
    .inr ⟨_, .unparsable rfl (by decide +kernel)⟩
  have holds : brokenGlobal.configSource.Holds "project.toml".toList
      ⟨.empty, none, none, some false⟩ := ⟨_, rfl, by decide +kernel⟩
  have usable : ¬ (true = true ∧ brokenGlobal.configSource.IsBroken "project.toml".toList) :=
    fun lacking => isBroken_iff.mp lacking.2 ⟨_, holds⟩
  obtain ⟨-, -, success, -⟩ := loadAll_from_intact brokenGlobal.configSource
    (some "global.toml".toList) "project.toml".toList true
  exact ⟨broken, (success _).mpr ⟨usable, _, _, .broken broken, .intact holds, by decide⟩⟩

end ConfigSource
end CHeader
