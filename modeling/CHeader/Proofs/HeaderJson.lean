import CHeader.Header.Json
import CHeader.Proofs.JsonReading

/-!
# Headers written as JSON

A header is read back from its JSON text exactly if none of its enumerators has an integer; a number
is written and not read.  The text still determines the header, since an integer is written without
quotes and an expression with them.
-/

namespace CHeader

/-! ## Records and lists -/

namespace Json

theorem isIntegral_ofFields {fields : List (Text × Json)}
    (each : ∀ field ∈ fields, IsIntegral field.2) : IsIntegral (.ofFields fields) := by
  refine .object fun written member => ?_
  obtain ⟨field, listed, rfl⟩ := List.mem_map.mp member
  exact each field listed

theorem isIntegral_array_map {α : Type} {write : α → Json} (each : ∀ x, IsIntegral (write x))
    (xs : List α) : IsIntegral (.array (xs.map write)) := by
  refine .array fun written member => ?_
  obtain ⟨x, -, rfl⟩ := List.mem_map.mp member
  exact each x

theorem filter_name_eq {fields : List (Text × Json)} (distinct : (fields.map Prod.fst).Nodup)
    {field : Text × Json} (member : field ∈ fields) :
    fields.filter (fun other => other.1 = field.1) = [field] := by
  induction fields with
  | nil => simp at member
  | cons other fields ih =>
      rw [List.map_cons, List.nodup_cons] at distinct
      rcases List.mem_cons.mp member with rfl | listed
      · have no_later : fields.filter (fun other => other.1 = field.1) = [] := by
          rw [List.filter_eq_nil_iff]
          intro later listed same
          exact distinct.1 (of_decide_eq_true same ▸ List.mem_map_of_mem listed)
        rw [List.filter_cons_of_pos (by simp), no_later]
      · have different : other.1 ≠ field.1 := fun same =>
          distinct.1 (same ▸ List.mem_map_of_mem listed)
        rw [List.filter_cons_of_neg (by simpa using different), ih distinct.2 listed]

theorem field?_eq_of_mem {fields : List (Text × Json)} (distinct : (fields.map Prod.fst).Nodup)
    {field : Text × Json} (member : field ∈ fields) :
    field? (fields.map fun (name, value) => (some name, value)) field.1 = some field.2 := by
  have only := filter_name_eq distinct member
  simp only [field?, List.filter_map, Function.comp_def, Option.some.injEq, only, List.map_cons,
    List.map_nil]

theorem mapM_map_eq_some {α β : Type} {name : α → Text} {value : α → β} {read : Text → Option β}
    {xs : List α} (each : ∀ x ∈ xs, read (name x) = some (value x)) :
    (xs.map name).mapM read = some (xs.map value) := by
  induction xs with
  | nil => rfl
  | cons x xs ih =>
      obtain ⟨first, later⟩ := List.forall_mem_cons.mp each
      rw [List.map_cons, List.mapM_cons, first, ih later]
      rfl

/-- A record is read from the object of its fields. -/
theorem record?_ofFields {fields : List (Text × Json)} (distinct : (fields.map Prod.fst).Nodup) :
    record? (fields.map Prod.fst) (.ofFields fields) = some (fields.map Prod.snd) := by
  rw [ofFields, record?, if_pos (by simp)]
  exact mapM_map_eq_some fun field member => field?_eq_of_mem distinct member

/-- The reader undoes the writer where a condition holds and fails elsewhere. -/
def Undoes {α : Type} (read : Json → Option α) (write : α → Json) (readable : α → Prop) : Prop :=
  ∀ x y, read (write x) = some y ↔ y = x ∧ readable x

theorem Undoes.bind_eq_some_iff {α β : Type} {read : Json → Option α} {write : α → Json}
    {readable : α → Prop} (undoes : Undoes read write readable) {x : α} {next : α → Option β}
    {y : β} : (read (write x)).bind next = some y ↔ readable x ∧ next x = some y := by
  rw [Option.bind_eq_some_iff]
  constructor
  · rintro ⟨other, found, final⟩
    obtain ⟨rfl, holds⟩ := (undoes x other).mp found
    exact ⟨holds, final⟩
  · rintro ⟨holds, final⟩
    exact ⟨x, (undoes x x).mpr ⟨rfl, holds⟩, final⟩

@[simp]
theorem text?_ofText (text : Text) : (Json.ofText text).text? = some text := rfl

theorem undoes_listOf? {α : Type} {read : Json → Option α} {write : α → Json}
    {readable : α → Prop} (undoes : Undoes read write readable) :
    Undoes (listOf? read) (fun xs => .array (xs.map write)) fun xs => ∀ x ∈ xs, readable x := by
  intro xs ys
  rw [listOf?]
  induction xs generalizing ys with
  | nil => simp [eq_comm]
  | cons x xs ih =>
      simp only [List.map_cons, List.mapM_cons, Option.bind_eq_bind, Option.bind_eq_some_iff,
        Option.pure_def, Option.some.injEq, undoes x, ih, List.forall_mem_cons]
      constructor
      · rintro ⟨_, ⟨rfl, first⟩, _, ⟨rfl, later⟩, rfl⟩
        exact ⟨rfl, first, later⟩
      · rintro ⟨rfl, first, later⟩
        exact ⟨x, ⟨rfl, first⟩, xs, ⟨rfl, later⟩, rfl⟩

end Json

/-! ## Declarations -/

namespace Block

theorem isIntegral_toJson (block : Block) : block.toJson.IsIntegral :=
  .string (some block.text)

theorem undoes_toJson : Json.Undoes ofJson? toJson fun _ => True := by
  rintro ⟨text⟩ other
  simp [ofJson?, toJson, Json.ofText, Json.text?, eq_comm]

theorem toJson_injective : Function.Injective toJson := by
  rintro ⟨text⟩ ⟨other⟩ same
  simpa [toJson, Json.ofText] using same

end Block

namespace Define

theorem isIntegral_toJson (define : Define) : define.toJson.IsIntegral := by
  refine Json.isIntegral_ofFields ?_
  simp [Json.ofText, Json.IsIntegral.string]

theorem undoes_toJson : Json.Undoes ofJson? toJson fun _ => True := by
  rintro ⟨name, value⟩ other
  have record : Json.record? ["name".toList, "value".toList] (toJson ⟨name, value⟩) =
      some [.ofText name, .ofText value] := Json.record?_ofFields (by simp)
  rw [ofJson?, record]
  simp [eq_comm]

theorem toJson_injective : Function.Injective toJson := by
  rintro ⟨name, value⟩ ⟨name', value'⟩ same
  simpa [toJson, Json.ofFields, Json.ofText] using same

end Define

namespace EnumValue

theorem isIntegral_toJson (value : EnumValue) : value.toJson.IsIntegral := by
  cases value with
  | int value => exact .number value
  | expr text => exact .string (some text)

theorem ofJson?_eq (json : Json) : ofJson? json = json.text?.map expr := by
  simp [ofJson?, Json.wideInteger?]

theorem undoes_toJson : Json.Undoes ofJson? toJson fun value => value.int? = none := by
  intro value other
  rw [ofJson?_eq]
  cases value with
  | int value => simp [toJson, Json.ofInt, Json.text?, int?]
  | expr text => simp [toJson, Json.ofText, Json.text?, int?, eq_comm]

theorem toJson_injective : Function.Injective toJson := by
  intro value other same
  cases value with
  | int value =>
      cases other with
      | int other =>
          have literals : Text.ofInt value = Text.ofInt other := by
            simpa [toJson, Json.ofInt] using same
          rw [IntLiteral.ofInt_injective literals]
      | expr text => simp [toJson, Json.ofInt, Json.ofText] at same
  | expr text =>
      cases other with
      | int other => simp [toJson, Json.ofInt, Json.ofText] at same
      | expr other => simpa [toJson, Json.ofText] using same

end EnumValue

namespace Enumerator

theorem isIntegral_toJson (enumerator : Enumerator) : enumerator.toJson.IsIntegral := by
  refine Json.isIntegral_ofFields ?_
  simp [Json.ofText, Json.IsIntegral.string, EnumValue.isIntegral_toJson]

theorem undoes_toJson :
    Json.Undoes ofJson? toJson fun enumerator => enumerator.value.int? = none := by
  rintro ⟨name, value⟩ other
  have record : Json.record? ["name".toList, "value".toList] (toJson ⟨name, value⟩) =
      some [.ofText name, value.toJson] := Json.record?_ofFields (by simp)
  rw [ofJson?, record]
  simp [EnumValue.undoes_toJson.bind_eq_some_iff, eq_comm, and_comm]

theorem toJson_injective : Function.Injective toJson := by
  rintro ⟨name, value⟩ ⟨name', value'⟩ same
  simpa [toJson, Json.ofFields, Json.ofText, EnumValue.toJson_injective.eq_iff] using same

end Enumerator

namespace Enum

theorem isIntegral_toJson (enum : Enum) : enum.toJson.IsIntegral := by
  refine Json.isIntegral_ofFields ?_
  simp [Json.ofText, Json.IsIntegral.string,
    Json.isIntegral_array_map Enumerator.isIntegral_toJson]

/-- Whether no enumerator has an integer. -/
def IsSymbolic (enum : Enum) : Prop :=
  ∀ enumerator ∈ enum.enumerators, enumerator.value.int? = none

theorem undoes_toJson : Json.Undoes ofJson? toJson IsSymbolic := by
  rintro ⟨name, enumerators⟩ other
  have record : Json.record? ["name".toList, "enumerators".toList] (toJson ⟨name, enumerators⟩) =
      some [.ofText name, .array (enumerators.map Enumerator.toJson)] :=
    Json.record?_ofFields (by simp)
  have list := Json.undoes_listOf? Enumerator.undoes_toJson
  rw [ofJson?, record]
  simp [list.bind_eq_some_iff, IsSymbolic, eq_comm, and_comm]

theorem toJson_injective : Function.Injective toJson := by
  rintro ⟨name, enumerators⟩ ⟨name', enumerators'⟩ same
  have lists := List.map_injective_iff.mpr Enumerator.toJson_injective
  simpa [toJson, Json.ofFields, Json.ofText, lists.eq_iff] using same

end Enum

/-! ## Headers -/

namespace Header

theorem isIntegral_toJson (header : Header) : header.toJson.IsIntegral := by
  refine Json.isIntegral_ofFields ?_
  simp [Json.ofText, Json.IsIntegral.string, Json.isIntegral_array_map Block.isIntegral_toJson,
    Json.isIntegral_array_map Enum.isIntegral_toJson,
    Json.isIntegral_array_map Define.isIntegral_toJson]

theorem undoes_toJson :
    Json.Undoes ofJson? toJson fun header => ∀ enum ∈ header.enums, enum.IsSymbolic := by
  rintro ⟨source, structs, enums, defines⟩ other
  have record : Json.record? ["source".toList, "structs".toList, "enums".toList, "defines".toList]
      (toJson ⟨source, structs, enums, defines⟩) =
        some [.ofText source, .array (structs.map Block.toJson), .array (enums.map Enum.toJson),
          .array (defines.map Define.toJson)] := Json.record?_ofFields (by simp)
  have blocks := Json.undoes_listOf? Block.undoes_toJson
  have descriptors := Json.undoes_listOf? Enum.undoes_toJson
  have macros := Json.undoes_listOf? Define.undoes_toJson
  rw [ofJson?, record]
  simp [blocks.bind_eq_some_iff, descriptors.bind_eq_some_iff, macros.bind_eq_some_iff, eq_comm,
    and_comm]

theorem toJson_injective : Function.Injective toJson := by
  rintro ⟨source, structs, enums, defines⟩ ⟨source', structs', enums', defines'⟩ same
  have blocks := List.map_injective_iff.mpr Block.toJson_injective
  have descriptors := List.map_injective_iff.mpr Enum.toJson_injective
  have macros := List.map_injective_iff.mpr Define.toJson_injective
  simpa [toJson, Json.ofFields, Json.ofText, blocks.eq_iff, descriptors.eq_iff, macros.eq_iff]
    using same

/-- A header is read back from its JSON text exactly if no enumerator has an integer. -/
theorem read?_write_eq_some_iff (layout : Json.Layout) (header other : Header) :
    read? (header.write layout) = some other ↔
      other = header ∧
        ∀ enum ∈ header.enums, ∀ enumerator ∈ enum.enumerators, enumerator.value.int? = none := by
  rw [read?, write, header.isIntegral_toJson.read?_write, Option.bind_some]
  exact undoes_toJson header other

/-- The JSON text of a header determines the header.  In particular an integer and an expression
have different texts, whatever the text of the expression is. -/
theorem write_eq_write_iff (layout : Json.Layout) :
    (∀ header other : Header, header.write layout = other.write layout ↔ header = other) ∧
      ∀ (value : Int) (text : Text),
        (EnumValue.int value).toJson.write layout ≠ (EnumValue.expr text).toJson.write layout := by
  refine ⟨fun header other => ⟨fun same => ?_, fun same => by rw [same]⟩, fun value text same => ?_⟩
  · exact toJson_injective (header.isIntegral_toJson.eq_of_write_eq other.isIntegral_toJson same)
  · have confused := (EnumValue.int value).isIntegral_toJson.eq_of_write_eq
      (EnumValue.expr text).isIntegral_toJson same
    cases EnumValue.toJson_injective confused

end Header
end CHeader
