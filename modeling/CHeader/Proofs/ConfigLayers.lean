import CHeader.Config
import CHeader.Proofs.TableValues

/-!
# Layers of settings

Every setting, be it the value of a constant or one of the three choices, is taken from the later
of two layers that are merged, if that one sets it.  So merging is associative, a layer that leaves
everything open changes nothing, and of many layers the last one that sets a setting decides it.
-/

namespace CHeader
namespace Config

variable {α : Type} {setting : Config → Option α}

/-- Settings that leave everything open do not set it, and of two layers the later one decides if it
sets it. -/
structure Overrides (setting : Config → Option α) : Prop where
  empty : setting empty = none
  merge : ∀ config other : Config,
    setting (config.merge other) = (setting other).or (setting config)

theorem overrides_constant (name : Text) : Overrides fun config => config.constants.get? name :=
  ⟨rfl, fun config other => config.constants.get?_extend other.constants name⟩

theorem overrides_included : Overrides included :=
  ⟨rfl, fun _ _ => by simp [merge]⟩

theorem overrides_excluded : Overrides excluded :=
  ⟨rfl, fun _ _ => by simp [merge]⟩

theorem overrides_pretty : Overrides pretty :=
  ⟨rfl, fun _ _ => by simp [merge]⟩

/-- Nothing but what can be overridden tells two layers apart. -/
theorem eq_of_overrides {config other : Config}
    (same : ∀ {α : Type} (setting : Config → Option α), Overrides setting →
      setting config = setting other) : config = other := by
  have constants : config.constants = other.constants :=
    Constants.eq_of_get?_eq fun name => same _ (overrides_constant name)
  have included := same included overrides_included
  have excluded := same excluded overrides_excluded
  have pretty := same pretty overrides_pretty
  cases config
  cases other
  simp_all

theorem merge_assoc (config other later : Config) :
    (config.merge other).merge later = config.merge (other.merge later) :=
  eq_of_overrides fun _ overrides => by simp only [overrides.merge, Option.or_assoc]

theorem empty_merge (config : Config) : empty.merge config = config :=
  eq_of_overrides fun _ overrides => by rw [overrides.merge, overrides.empty, Option.or_none]

theorem merge_empty (config : Config) : config.merge empty = config :=
  eq_of_overrides fun _ overrides => by rw [overrides.merge, overrides.empty, Option.none_or]

theorem merge_self (config : Config) : config.merge config = config :=
  eq_of_overrides fun _ overrides => by rw [overrides.merge, Option.or_self]

/-! ## Many layers -/

/-- The settings of layers that are merged from front to back, on top of settings that leave
everything open. -/
def ofLayers (layers : List Config) : Config :=
  layers.foldl merge empty

/-- One of the layers sets a setting to this value, and no layer behind it sets that setting. -/
def LastSets (setting : Config → Option α) (layers : List Config) (value : α) : Prop :=
  ∃ front layer back, layers = front ++ layer :: back ∧ setting layer = some value ∧
    ∀ later ∈ back, setting later = none

theorem lastSets_iff {layers : List Config} {value : α} :
    LastSets setting layers value ↔ layers.reverse.findSome? setting = some value :=
  findSome?_reverse_eq_some_iff.symm

theorem Overrides.ofLayers_eq_some_iff (overrides : Overrides setting) {layers : List Config}
    {value : α} : setting (ofLayers layers) = some value ↔ LastSets setting layers value := by
  rw [ofLayers, foldl_eq_findSome?_or setting overrides.merge, overrides.empty, Option.or_none,
    lastSets_iff]

/-- Merging is associative and idempotent, and settings that leave everything open are neutral on
both sides.  Of layers that are merged one after another, the last one that sets a constant decides
it, and so it is for the tags to keep, the tags to drop and the layout, each on its own. -/
theorem merge_takes_last (config : Config) (layers : List Config) :
    (∀ other later : Config,
      (config.merge other).merge later = config.merge (other.merge later)) ∧
    (empty.merge config = config ∧ config.merge empty = config ∧ config.merge config = config) ∧
    (∀ name value, (ofLayers layers).constants.get? name = some value ↔
      LastSets (fun layer => layer.constants.get? name) layers value) ∧
    (∀ tags, (ofLayers layers).included = some tags ↔ LastSets included layers tags) ∧
    (∀ tags, (ofLayers layers).excluded = some tags ↔ LastSets excluded layers tags) ∧
    ∀ choice, (ofLayers layers).pretty = some choice ↔ LastSets pretty layers choice :=
  ⟨fun other later => merge_assoc config other later,
    ⟨empty_merge config, merge_empty config, merge_self config⟩,
    fun name _ => (overrides_constant name).ofLayers_eq_some_iff,
    fun _ => overrides_included.ofLayers_eq_some_iff,
    fun _ => overrides_excluded.ofLayers_eq_some_iff,
    fun _ => overrides_pretty.ofLayers_eq_some_iff⟩

/-- No tags to drop is a choice as well. -/
example :
    (ofLayers [⟨.empty, none, some ["a".toList], none⟩, ⟨.empty, none, some [], none⟩,
      .empty]).excluded = some [] := by
  decide

end Config
end CHeader
