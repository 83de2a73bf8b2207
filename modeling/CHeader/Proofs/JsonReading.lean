import CHeader.Json.Reader
import CHeader.Proofs.JsonTokens

/-!
# Reading written JSON

The reader completes a value from its tokens in front of any others, whatever is on its stack.  So a
written value is read back, and different values are written differently.
-/

namespace CHeader
namespace Json
namespace Reader

theorem run_cons {reader next : Reader} {token : Token} (stepped : reader.step token = some next)
    (tokens : List Token) : run reader (token :: tokens) = run next tokens := by
  rw [run, stepped, Option.bind_some]

/-- Whether the reader completes a value from its tokens. -/
def Completes (json : Json) : Prop :=
  ∀ stack rest, run (.value stack) (json.tokens ++ rest) = run (.complete json stack) rest

/-- No value begins with a closing bracket. -/
theorem run_firstItem (json : Json) (stack : List Frame) (rest : List Token) :
    run (.firstItem stack) (json.tokens ++ rest) =
      run (.value (.items [] :: stack)) (json.tokens ++ rest) := by
  cases json with
  | array items => cases items <;> rfl
  | object fields => cases fields <;> rfl
  | _ => rfl

theorem run_itemTokens {items : List Json} (each : ∀ item ∈ items, Completes item) (item : Json)
    (before : List Json) (stack : List Frame) (rest : List Token) :
    run (.complete item (.items before :: stack)) (itemTokens items ++ .closeBracket :: rest) =
      run (.complete (.array (before.reverse ++ item :: items)) stack) rest := by
  induction items generalizing item before with
  | nil => rw [itemTokens, List.nil_append, run_cons rfl, List.reverse_cons]
  | cons next items ih =>
      obtain ⟨first, later⟩ := List.forall_mem_cons.mp each
      rw [itemTokens, List.cons_append, List.append_assoc, run_cons rfl, first, ih later]
      simp

theorem run_fieldTokens {fields : List (Option Text × Json)}
    (each : ∀ field ∈ fields, Completes field.2) (name : Option Text) (content : Json)
    (before : List (Option Text × Json)) (stack : List Frame) (rest : List Token) :
    run (.complete content (.field before name :: stack))
        (fieldTokens fields ++ .closeBrace :: rest) =
      run (.complete (.object (before.reverse ++ (name, content) :: fields)) stack) rest := by
  induction fields generalizing name content before with
  | nil => rw [fieldTokens, List.nil_append, run_cons rfl, List.reverse_cons]
  | cons field fields ih =>
      obtain ⟨first, later⟩ := List.forall_mem_cons.mp each
      rw [fieldTokens, List.cons_append, List.cons_append, List.cons_append, List.append_assoc,
        run_cons rfl, run_cons rfl, run_cons rfl, first, ih later]
      simp

theorem completes_array {items : List Json} (each : ∀ item ∈ items, Completes item) :
    Completes (.array items) := by
  intro stack rest
  cases items with
  | nil => rfl
  | cons item items =>
      obtain ⟨first, later⟩ := List.forall_mem_cons.mp each
      simp only [tokens, List.cons_append, List.append_assoc, List.nil_append]
      rw [run_cons rfl, run_firstItem, first, run_itemTokens later]
      rfl

theorem completes_object {fields : List (Option Text × Json)}
    (each : ∀ field ∈ fields, Completes field.2) : Completes (.object fields) := by
  intro stack rest
  cases fields with
  | nil => rfl
  | cons field fields =>
      obtain ⟨first, later⟩ := List.forall_mem_cons.mp each
      simp only [tokens, List.cons_append, List.append_assoc, List.nil_append]
      rw [run_cons rfl, run_cons rfl, run_cons rfl, first, run_fieldTokens later]
      rfl

end Reader

namespace IsIntegral

theorem completes {json : Json} (integral : IsIntegral json) : Reader.Completes json := by
  induction integral with
  | null => exact fun stack rest => rfl
  | bool value => exact fun stack rest => rfl
  | number value => exact fun stack rest => rfl
  | string text => exact fun stack rest => rfl
  | array _ each => exact Reader.completes_array each
  | object _ each => exact Reader.completes_object each

theorem ofTokens?_tokens {json : Json} (integral : IsIntegral json) :
    ofTokens? json.tokens = some json := by
  have complete : Reader.run (.value []) json.tokens = some (.complete json []) := by
    have whole := integral.completes [] []
    rwa [List.append_nil, Reader.run] at whole
  rw [ofTokens?, complete]

/-- A written value is read back. -/
theorem read?_write {json : Json} (integral : IsIntegral json) (layout : Layout) :
    read? (json.write layout) = some json := by
  rw [read?, integral.lex?_write, Option.bind_some, integral.ofTokens?_tokens]

/-- Two values with the same text are equal, since both are what is read from it. -/
theorem eq_of_write_eq {json other : Json} (integral : IsIntegral json)
    (integral' : IsIntegral other) {layout : Layout}
    (same : json.write layout = other.write layout) : json = other := by
  have read : read? (other.write layout) = some json := same ▸ integral.read?_write layout
  exact Option.some.inj (read.symm.trans (integral'.read?_write layout))

end IsIntegral
end Json
end CHeader
