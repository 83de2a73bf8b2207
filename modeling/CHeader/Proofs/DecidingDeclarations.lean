import CHeader.Proofs.HeaderConstants

/-!
# Which declaration decides a constant

The last enumerator that gives a name an integer of 64 bits decides the constant of that name.  If
there is none, then the last macro does whose value is a literal for such an integer, with or
without a pair of parentheses around it.  Declarations that give nothing could as well be left out.
-/

namespace CHeader

/-! ## Giving an integer to a name -/

/-- An enumerator gives its name an integer of 64 bits. -/
structure Enumerator.Gives (enumerator : Enumerator) (name : Text) (value : Int) : Prop where
  named : enumerator.name = name
  integer : enumerator.value = .int value
  fits : Constants.Fits value

/-- A text without one pair of parentheses that encloses it, if there is one. -/
inductive Unenclosed : Text → Text → Prop where
  | inside (inner : Text) : Unenclosed ('(' :: (inner ++ [')'])) inner
  | whole {text : Text} (no_pair : ∀ inner, text ≠ '(' :: (inner ++ [')'])) : Unenclosed text text

/-- A macro gives its name an integer of 64 bits, by a literal that may stand in parentheses. -/
structure Define.Gives (define : Define) (name : Text) (value : Int) : Prop where
  named : define.name = name
  literal : ∃ numeral, Unenclosed (Text.trim define.value) numeral ∧
    IntLiteral.parse? numeral = some value
  fits : Constants.Fits value

section Declarations

variable {α : Type}

/-- A declaration that gives some name an integer. -/
def GivesAny (Gives : α → Text → Int → Prop) (declaration : α) : Prop :=
  ∃ name value, Gives declaration name value

/-- None of the declarations gives the name an integer. -/
def NoneGives (Gives : α → Text → Int → Prop) (declarations : List α) (name : Text) : Prop :=
  ∀ declaration ∈ declarations, ∀ value, ¬ Gives declaration name value

/-- One of the declarations gives the name this integer, and none behind it gives the name any. -/
def LastGives (Gives : α → Text → Int → Prop) (declarations : List α) (name : Text)
    (value : Int) : Prop :=
  ∃ front declaration back, declarations = front ++ declaration :: back ∧
    Gives declaration name value ∧ NoneGives Gives back name

end Declarations

theorem unenclosed_iff {text numeral : Text} :
    Unenclosed text numeral ↔ Constants.unparenthesized text = numeral := by
  constructor
  · rintro (⟨⟩ | ⟨no_pair⟩)
    · simp [Constants.unparenthesized]
    · unfold Constants.unparenthesized
      split
      · next inner =>
          refine if_neg fun closed => ?_
          obtain ⟨front, rfl⟩ := List.getLast?_eq_some_iff.mp closed
          exact no_pair front rfl
      · rfl
  · rintro rfl
    unfold Constants.unparenthesized
    split
    · next inner =>
        split
        · next closed =>
            obtain ⟨front, rfl⟩ := List.getLast?_eq_some_iff.mp closed
            rw [List.dropLast_concat]
            exact .inside front
        · next unclosed =>
            refine .whole fun front same => unclosed ?_
            rw [(List.cons.inj same).2, List.getLast?_concat]
    · next no_opening => exact .whole fun front => no_opening (front ++ [')'])

namespace Constants

theorem enumeratorPair?_eq_some_iff (enumerator : Enumerator) (name : Text) (value : Int) :
    enumeratorPair? enumerator = some (name, value) ↔ enumerator.Gives name value := by
  have integer : enumerator.value.int? = some value ↔ enumerator.value = .int value := by
    cases enumerator.value <;> simp [EnumValue.int?]
  simp only [enumeratorPair?, Option.map_eq_some_iff, Option.filter_eq_some_iff, decide_eq_true_eq,
    Prod.mk.injEq]
  constructor
  · rintro ⟨_, ⟨found, fits⟩, named, rfl⟩
    exact ⟨named, integer.mp found, fits⟩
  · rintro ⟨named, found, fits⟩
    exact ⟨value, ⟨integer.mpr found, fits⟩, named, rfl⟩

theorem definePair?_eq_some_iff (define : Define) (name : Text) (value : Int) :
    definePair? define = some (name, value) ↔ define.Gives name value := by
  simp only [definePair?, Option.map_eq_some_iff, Option.filter_eq_some_iff, decide_eq_true_eq,
    Prod.mk.injEq]
  constructor
  · rintro ⟨_, ⟨read, fits⟩, named, rfl⟩
    exact ⟨named, ⟨_, unenclosed_iff.mpr rfl, read⟩, fits⟩
  · rintro ⟨named, ⟨_, unenclosed, read⟩, fits⟩
    rw [← unenclosed_iff.mp unenclosed] at read
    exact ⟨value, ⟨read, fits⟩, named, rfl⟩

/-! ## The last one -/

section Last

variable {α : Type} {pair? : α → Option (Text × Int)}

theorem valuesOf_filterMap (name : Text) (declarations : List α) :
    valuesOf name (declarations.filterMap pair?) = declarations.filterMap fun declaration =>
      (pair? declaration).bind fun pair => if pair.1 = name then some pair.2 else none := by
  rw [← List.filterMap_filterMap]
  induction declarations.filterMap pair? with
  | nil => rfl
  | cons pair pairs ih =>
      rw [valuesOf_cons, ih, List.filterMap_cons]
      split <;> rfl

variable {Gives : α → Text → Int → Prop}
  (gives_iff : ∀ declaration name value,
    pair? declaration = some (name, value) ↔ Gives declaration name value)

include gives_iff

theorem bind_pair?_eq_some_iff {declaration : α} {name : Text} {value : Int} :
    ((pair? declaration).bind fun pair => if pair.1 = name then some pair.2 else none) =
      some value ↔ Gives declaration name value := by
  rw [← gives_iff, Option.bind_eq_some_iff]
  constructor
  · rintro ⟨⟨given, value'⟩, found, same⟩
    obtain ⟨rfl, rfl⟩ : given = name ∧ value' = value := by simpa using same
    exact found
  · intro found
    exact ⟨_, found, if_pos rfl⟩

theorem bind_pair?_eq_none_iff {declaration : α} {name : Text} :
    ((pair? declaration).bind fun pair => if pair.1 = name then some pair.2 else none) = none ↔
      ∀ value, ¬ Gives declaration name value := by
  simp only [Option.eq_none_iff_forall_ne_some, ne_eq, bind_pair?_eq_some_iff gives_iff]

theorem getLast?_valuesOf_eq_none_iff {declarations : List α} {name : Text} :
    (valuesOf name (declarations.filterMap pair?)).getLast? = none ↔
      NoneGives Gives declarations name := by
  rw [List.getLast?_eq_none_iff, valuesOf_filterMap, List.filterMap_eq_nil_iff]
  exact forall₂_congr fun _ _ => bind_pair?_eq_none_iff gives_iff

theorem getLast?_valuesOf_eq_some_iff {declarations : List α} {name : Text} {value : Int} :
    (valuesOf name (declarations.filterMap pair?)).getLast? = some value ↔
      LastGives Gives declarations name value := by
  rw [valuesOf_filterMap, List.getLast?_filterMap, findSome?_reverse_eq_some_iff]
  simp only [bind_pair?_eq_some_iff gives_iff, bind_pair?_eq_none_iff gives_iff]
  rfl

theorem isSome_pair?_iff {declaration : α} :
    (pair? declaration).isSome = true ↔ GivesAny Gives declaration := by
  simp only [Option.isSome_iff_exists, Prod.exists, gives_iff, GivesAny]

/-- Declarations that give nothing write no pairs. -/
theorem filterMap_filter_givesAny [DecidablePred (GivesAny Gives)] (declarations : List α) :
    (declarations.filter fun declaration => GivesAny Gives declaration).filterMap pair? =
      declarations.filterMap pair? := by
  rw [List.filterMap_filter]
  refine List.filterMap_congr fun declaration _ => ?_
  by_cases any : GivesAny Gives declaration
  · rw [if_pos (decide_eq_true any)]
  · have nothing : pair? declaration = none := by
      rwa [← isSome_pair?_iff gives_iff, Bool.not_eq_true, Option.isSome_eq_false_iff,
        Option.isNone_iff_eq_none] at any
    rw [nothing, ite_self]

end Last

end Constants

instance : DecidablePred (GivesAny Enumerator.Gives) :=
  fun _ => decidable_of_iff _ (Constants.isSome_pair?_iff Constants.enumeratorPair?_eq_some_iff)

instance : DecidablePred (GivesAny Define.Gives) :=
  fun _ => decidable_of_iff _ (Constants.isSome_pair?_iff Constants.definePair?_eq_some_iff)

namespace Header

/-- The enumerators of all enums in order. -/
def enumerators (header : Header) : List Enumerator :=
  header.enums.flatMap Enum.enumerators

/-- A header without the enumerators and the macros that give nothing. -/
def onlyGiving (header : Header) : Header :=
  { header with
    enums := header.enums.map fun enum =>
      { enum with
        enumerators := enum.enumerators.filter fun enumerator =>
          GivesAny Enumerator.Gives enumerator }
    defines := header.defines.filter fun define => GivesAny Define.Gives define }

theorem enumerator?_eq_some_iff {header : Header} {name : Text} {value : Int} :
    header.enumerator? name = some value ↔
      LastGives Enumerator.Gives header.enumerators name value :=
  Constants.getLast?_valuesOf_eq_some_iff Constants.enumeratorPair?_eq_some_iff

theorem enumerator?_eq_none_iff {header : Header} {name : Text} :
    header.enumerator? name = none ↔ NoneGives Enumerator.Gives header.enumerators name :=
  Constants.getLast?_valuesOf_eq_none_iff Constants.enumeratorPair?_eq_some_iff

theorem define?_eq_some_iff {header : Header} {name : Text} {value : Int} :
    header.define? name = some value ↔ LastGives Define.Gives header.defines name value :=
  Constants.getLast?_valuesOf_eq_some_iff Constants.definePair?_eq_some_iff

theorem define?_eq_none_iff {header : Header} {name : Text} :
    header.define? name = none ↔ NoneGives Define.Gives header.defines name :=
  Constants.getLast?_valuesOf_eq_none_iff Constants.definePair?_eq_some_iff

theorem enumeratorPairs_onlyGiving (header : Header) :
    header.onlyGiving.enumeratorPairs = header.enumeratorPairs := by
  rw [enumeratorPairs, enumeratorPairs, onlyGiving, List.flatMap_map, List.filterMap_flatMap,
    List.filterMap_flatMap]
  simp only [Constants.filterMap_filter_givesAny Constants.enumeratorPair?_eq_some_iff]

theorem definePairs_onlyGiving (header : Header) :
    header.onlyGiving.definePairs = header.definePairs :=
  Constants.filterMap_filter_givesAny Constants.definePair?_eq_some_iff header.defines

theorem constants_onlyGiving (header : Header) :
    header.onlyGiving.constants = header.constants := by
  refine Constants.eq_of_get?_eq fun name => ?_
  rw [← Constants.integer?_eq_integer?_iff, integer?_constants, integer?_constants, enumerator?,
    enumerator?, define?, define?, enumeratorPairs_onlyGiving, definePairs_onlyGiving]

/-- A name has the integer that the last enumerator gives it, over all enums in order, or else the
one that the last macro gives it, and no value if none of them gives it any.  Enumerators and macros
that give nothing, because they are no integers or do not fit into 64 bits, can be left out without
changing the table. -/
theorem constants_decided_by_last (header : Header) (name : Text) :
    (∀ value, header.constants.integer? name = some value ↔
      LastGives Enumerator.Gives header.enumerators name value ∨
        NoneGives Enumerator.Gives header.enumerators name ∧
          LastGives Define.Gives header.defines name value) ∧
    (header.constants.get? name = none ↔
      NoneGives Enumerator.Gives header.enumerators name ∧
        NoneGives Define.Gives header.defines name) ∧
    header.onlyGiving.constants = header.constants := by
  refine ⟨fun value => ?decided, ?undecided, constants_onlyGiving header⟩
  case decided =>
    rw [integer?_constants, Option.or_eq_some_iff, enumerator?_eq_some_iff,
      enumerator?_eq_none_iff, define?_eq_some_iff]
  case undecided =>
    have no_integer : header.constants.get? name = none ↔
        header.constants.integer? name = none := Option.map_eq_none_iff.symm
    rw [no_integer, integer?_constants, Option.or_eq_none_iff, enumerator?_eq_none_iff,
      define?_eq_none_iff]

end Header
end CHeader
