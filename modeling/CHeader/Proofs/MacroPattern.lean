import CHeader.Proofs.Blocks
import CHeader.Proofs.Macros
import CHeader.Proofs.Regex

/-!
# The pattern of macros

The macros of a header are the matches of one pattern in its normal form.  The pattern has three
runs of spaces and two runs of other characters, which a search could divide in several ways.  In
the normal form it divides them in one way only, and a match stays on its line, so the macros are
read off the lines one by one.
-/

namespace CHeader

namespace Text

theorem dropWhile_append_of_stop {p : Char → Bool} {rest : Text}
    (stops : ∀ c ∈ rest.head?, p c = false) (text : Text) :
    (text ++ rest).dropWhile p = text.dropWhile p ++ rest := by
  induction text with
  | nil =>
      have no_front : ∀ c ∈ ([] : Text), p c = true := List.forall_mem_nil _
      exact dropWhile_append_eq_right no_front stops
  | cons c text ih =>
      rw [List.cons_append, List.dropWhile_cons, List.dropWhile_cons, ih]
      split <;> rfl

theorem forall_head?_append {p : Char → Prop} {text rest : Text} (front : ∀ c ∈ text.head?, p c)
    (behind : ∀ c ∈ rest.head?, p c) : ∀ c ∈ (text ++ rest).head?, p c := by
  cases text with
  | nil => exact behind
  | cons c text => exact front

end Text

namespace Source

/-- What the end of a line of the normal form looks like. -/
structure IsTidyEnd (text : Text) : Prop where
  one_line : '\n' ∉ text
  solid_end : ∀ c ∈ text.getLast?, Text.isBlank c = false

theorem IsTidyLine.isTidyEnd {line : Text} (tidy : IsTidyLine line) : IsTidyEnd line :=
  ⟨tidy.no_newline, tidy.solid_end⟩

theorem IsTidyEnd.of_suffix {text back : Text} (tidy : IsTidyEnd text) (within : back <:+ text) :
    IsTidyEnd back := by
  refine ⟨fun member => tidy.one_line (within.subset member), fun c last => ?_⟩
  obtain ⟨front, rfl⟩ := within
  refine tidy.solid_end c ?_
  rw [List.getLast?_append, Option.mem_def.mp last]
  rfl

theorem IsTidyEnd.dropWhile_space_ne_nil {text : Text} (tidy : IsTidyEnd text)
    (nonempty : text ≠ []) : text.dropWhile (· = ' ') ≠ [] := by
  intro none_left
  have last := List.getLast?_eq_getLast_of_ne_nil nonempty
  have space := List.dropWhile_eq_nil_iff.mp none_left _ (List.getLast_mem nonempty)
  rw [of_decide_eq_true space] at last
  simpa using tidy.solid_end ' ' last

end Source

namespace Define

/-- A space. -/
def space : Regex :=
  .one fun c => c = ' '

/-- A character of a name. -/
def nameChar : Regex :=
  .one fun c => c ≠ ' ' ∧ c ≠ '\n'

/-- A character of a line. -/
def lineChar : Regex :=
  .one fun c => c ≠ '\n'

/-- The value, up to the end of the line. -/
def valuePattern : Regex :=
  .seq (.group (.atLeastOne lineChar)) .lineEnd

/-- The name and what follows it. -/
def namePattern : Regex :=
  .seq (.group (.atLeastOne nameChar)) (.seq (.atLeastOne space) valuePattern)

/-- A line that defines a macro. -/
def pattern : Regex :=
  .seq .lineStart (.seq (.many space)
    (.seq (.text "#define".toList) (.seq (.atLeastOne space) namePattern)))

/-- The groups of a match and the text behind it. -/
def report {α : Type} (outcome : List Text → Text → α) (found : Match) : Option α :=
  some (outcome found.groups found.rest)

/-- The name at the front of a text and the value behind it. -/
def nameAndValue? (text : Text) : Option Define :=
  if text.takeWhile (· ≠ ' ') = [] then none
  else (afterSpaces? (text.dropWhile (· ≠ ' '))).bind fun value =>
    if value = [] then none else some ⟨text.takeWhile (· ≠ ' '), value⟩

theorem ofLine?_eq (line : Text) :
    ofLine? line =
      (Text.dropFront? "#define".toList (line.dropWhile (· = ' '))).bind fun behind =>
        (afterSpaces? behind).bind nameAndValue? := by
  refine Option.bind_congr fun behind _ => Option.bind_congr fun text _ => ?_
  rw [nameAndValue?]
  split
  · next no_name =>
      refine Option.bind_eq_none_iff.mpr fun value _ => ?_
      exact if_pos (by rw [no_name]; rfl)
  · next named =>
      refine Option.bind_congr fun value _ => ?_
      rw [List.isEmpty_eq_false_iff.mpr named, Bool.false_or]
      cases value <;> rfl

section Search

open Regex

variable {α : Type} {outcome : List Text → Text → α} {before : Option Char} {text rest : Text}

theorem firstThat?_spaces_seq_of_ne {next : Regex} {goOn : Match → Option α}
    (no_space : ∀ c ∈ text.head?, c ≠ ' ') :
    (Regex.seq (.atLeastOne space) next).firstThat? goOn before text = none := by
  rw [firstThat?_seq, atLeastOne, firstThat?_seq]
  exact firstThat?_one_of_neg fun c first => by simpa using no_space c first

/-- One or more spaces, if either all of them lead to a match or none can be left over. -/
theorem firstThat?_spaces_seq (ended : ∀ c ∈ rest.head?, c = '\n') {next : Regex}
    {result : Option α} (behind : ∀ before,
      next.firstThat? (report outcome) before (text.dropWhile (· = ' ') ++ rest) = result)
    (whole : text.head? = some ' ' → result.isSome = true ∨
      ∀ before back, next.firstThat? (report outcome) before (' ' :: back) = none) :
    (Regex.seq (.atLeastOne space) next).firstThat? (report outcome) before (text ++ rest) =
      (afterSpaces? text).bind fun _ => result := by
  have stops : ∀ c ∈ rest.head?, decide (c = ' ') = false := fun c first => by
    simp [ended c first]
  rw [afterSpaces?_eq]
  split
  · next first =>
      obtain ⟨text, rfl⟩ := List.head?_eq_some_iff.mp first
      rw [List.dropWhile_cons_of_pos (by simp)] at behind
      rw [firstThat?_seq, atLeastOne, firstThat?_seq, space, List.cons_append,
        firstThat?_one_of_pos (by simp), Option.bind_some]
      rcases whole first with found | refused
      · obtain ⟨a, rfl⟩ := Option.isSome_iff_exists.mp found
        refine firstThat?_many_one_of_some ?_
        rw [Text.dropWhile_append_of_stop stops]
        exact behind _
      · rw [firstThat?_many_one, Text.dropWhile_append_of_stop stops]
        · exact behind _
        · intro front c back accepted
          obtain rfl : c = ' ' := by simpa using accepted
          exact refused _ back
  · next no_space =>
      refine firstThat?_spaces_seq_of_ne (Text.forall_head?_append ?_ ?_)
      · exact fun c first space => no_space (space ▸ first)
      · exact fun c first => by simp [ended c first]

/-- The value, up to the end of the line. -/
theorem firstThat?_valuePattern (ended : ∀ c ∈ rest.head?, c = '\n') (one_line : '\n' ∉ text) :
    valuePattern.firstThat? (report outcome) before (text ++ rest) =
      if text = [] then none else some (outcome [text] rest) := by
  have stops : ∀ c ∈ rest.head?, decide (c ≠ '\n') = false := fun c first => by
    simp [ended c first]
  rw [valuePattern, firstThat?_seq, firstThat?_group, atLeastOne, firstThat?_seq]
  cases text with
  | nil => exact firstThat?_one_of_neg stops
  | cons c text =>
      obtain ⟨not_newline, one_line⟩ := not_or.mp (mt List.mem_cons.mpr one_line)
      have inside : ∀ d ∈ text, decide (d ≠ '\n') = true := fun d member => by
        simpa using fun same : d = '\n' => one_line (same ▸ member)
      rw [List.cons_append, lineChar, firstThat?_one_of_pos (by simpa using Ne.symm not_newline)]
      refine firstThat?_many_one_of_some ?_
      rw [Text.takeWhile_append_eq_left inside stops, Text.dropWhile_append_eq_right inside stops]
      exact firstThat?_lineEnd_of_pos ended

/-- What follows the name.  Spaces in front of a character that is not blank are never part of the
value. -/
theorem firstThat?_spacedValue (outcome : List Text → Text → α)
    (ended : ∀ c ∈ rest.head?, c = '\n') (tidy : Source.IsTidyEnd text) :
    (Regex.seq (.atLeastOne space) valuePattern).firstThat? (report outcome) before (text ++ rest) =
      (afterSpaces? text).bind fun value =>
        if value = [] then none else some (outcome [value] rest) := by
  have tidy_value := tidy.of_suffix (List.dropWhile_suffix (· = ' '))
  rw [firstThat?_spaces_seq ended (fun _ => firstThat?_valuePattern ended tidy_value.one_line)]
  · rw [afterSpaces?_eq]
    split <;> rfl
  · intro first
    have nonempty : text ≠ [] := fun empty => by simp [empty] at first
    exact .inl (by simp [tidy.dropWhile_space_ne_nil nonempty])

theorem firstThat?_namePattern_of_refused {goOn : Match → Option α}
    (refused : ∀ c ∈ text.head?, decide (c ≠ ' ' ∧ c ≠ '\n') = false) :
    namePattern.firstThat? goOn before text = none := by
  rw [namePattern, firstThat?_seq, firstThat?_group, atLeastOne, firstThat?_seq]
  exact firstThat?_one_of_neg refused

/-- The name ends at the first space or with the line. -/
theorem firstThat?_name_append (ended : ∀ c ∈ rest.head?, c = '\n') {c : Char} {name : Text}
    (word : ∀ d ∈ c :: name, d ≠ ' ' ∧ d ≠ '\n') (text_front : ∀ d ∈ text.head?, d = ' ')
    (tidy : Source.IsTidyEnd text) :
    namePattern.firstThat? (report outcome) before (c :: name ++ text ++ rest) =
      (afterSpaces? text).bind fun value =>
        if value = [] then none else some (outcome [c :: name, value] rest) := by
  have accepted : ∀ d ∈ c :: name, decide (d ≠ ' ' ∧ d ≠ '\n') = true := fun d member =>
    decide_eq_true (word d member)
  obtain ⟨first_accepted, accepted⟩ := List.forall_mem_cons.mp accepted
  have stops : ∀ d ∈ (text ++ rest).head?, decide (d ≠ ' ' ∧ d ≠ '\n') = false :=
    Text.forall_head?_append (fun d first => by simp [text_front d first])
      (fun d first => by simp [ended d first])
  rw [namePattern, firstThat?_seq, firstThat?_group, atLeastOne, firstThat?_seq, nameChar,
    List.append_assoc, List.cons_append, firstThat?_one_of_pos first_accepted, firstThat?_many_one,
    Text.takeWhile_append_eq_left accepted stops, Text.dropWhile_append_eq_right accepted stops]
  · exact firstThat?_spacedValue (fun groups => outcome ((c :: name) :: groups)) ended tidy
  · intro front d back inside
    exact firstThat?_spaces_seq_of_ne (by simp_all)

theorem firstThat?_namePattern (ended : ∀ c ∈ rest.head?, c = '\n')
    (tidy : Source.IsTidyEnd text) :
    namePattern.firstThat? (report outcome) before (text ++ rest) =
      (nameAndValue? text).map fun define => outcome [define.name, define.value] rest := by
  rw [nameAndValue?]
  split
  · next no_name =>
      refine firstThat?_namePattern_of_refused
        (Text.forall_head?_append (fun c first => ?_) fun c first => ?_)
      · obtain ⟨text, rfl⟩ := List.head?_eq_some_iff.mp first
        have no_word : c = ' ' := by
          by_contra other
          simp [other] at no_name
        simp [no_word]
      · simp [ended c first]
  · next name_nonempty =>
      obtain ⟨c, name, name_eq⟩ := List.exists_cons_of_ne_nil name_nonempty
      have whole : c :: name ++ text.dropWhile (· ≠ ' ') = text := by
        rw [← name_eq, List.takeWhile_append_dropWhile]
      have word : ∀ d ∈ c :: name, d ≠ ' ' ∧ d ≠ '\n' := by
        intro d member
        have inside : d ∈ text := whole ▸ List.mem_append_left _ member
        rw [← name_eq] at member
        refine ⟨?_, fun same => tidy.one_line (same ▸ inside)⟩
        simpa using List.mem_takeWhile_imp member
      have text_front : ∀ d ∈ (text.dropWhile (· ≠ ' ')).head?, d = ' ' := fun d first => by
        simpa using Text.of_mem_head?_dropWhile first
      have tidy_behind := tidy.of_suffix (List.dropWhile_suffix (· ≠ ' '))
      rw [← whole, firstThat?_name_append ended word text_front tidy_behind, whole, name_eq,
        Option.map_bind]
      refine Option.bind_congr fun value _ => ?_
      simp only [Function.comp_apply]
      split <;> rfl

theorem firstThat?_directive (ended : ∀ c ∈ rest.head?, c = '\n')
    (tidy : Source.IsTidyEnd text) :
    (Regex.seq (.text "#define".toList) (.seq (.atLeastOne space) namePattern)).firstThat?
        (report outcome) before (text ++ rest) =
      ((Text.dropFront? "#define".toList text).bind fun behind =>
        (afterSpaces? behind).bind nameAndValue?).map fun define =>
          outcome [define.name, define.value] rest := by
  cases found : Text.dropFront? "#define".toList text with
  | none =>
      have absent : Text.dropFront? "#define".toList (text ++ rest) = none := by
        cases rest with
        | nil => rwa [List.append_nil]
        | cons c rest =>
            rw [ended c rfl, Text.dropFront?_append_newline (by decide), found]
            rfl
      exact firstThat?_text_seq_of_none absent _
  | some behind =>
      obtain rfl := Text.eq_append_of_dropFront? found
      have tidy_behind := tidy.of_suffix (List.suffix_append _ behind)
      have tidy_name := tidy_behind.of_suffix (List.dropWhile_suffix (· = ' '))
      rw [List.append_assoc, firstThat?_text_seq]
      refine (firstThat?_spaces_seq ended (fun _ => firstThat?_namePattern ended tidy_name)
        fun _ => .inr fun before back => firstThat?_namePattern_of_refused (by simp)).trans ?_
      simp only [Option.bind_some, afterSpaces?_eq]
      split <;> rfl

/-- At the start of a line the pattern matches the macro that the line defines. -/
theorem firstThat?_pattern (ended : ∀ c ∈ rest.head?, c = '\n') (start : ∀ c ∈ before, c = '\n')
    (tidy : Source.IsTidyEnd text) :
    pattern.firstThat? (report outcome) before (text ++ rest) =
      (ofLine? text).map fun define => outcome [define.name, define.value] rest := by
  have stops : ∀ c ∈ rest.head?, decide (c = ' ') = false := fun c first => by
    simp [ended c first]
  have tidy_behind := tidy.of_suffix (List.dropWhile_suffix (· = ' '))
  rw [pattern, firstThat?_seq, firstThat?_lineStart_of_pos start, firstThat?_seq, space,
    firstThat?_many_one, Match.rest_empty, Text.dropWhile_append_of_stop stops, ofLine?_eq]
  · exact firstThat?_directive ended tidy_behind
  · intro front c back accepted
    obtain rfl : c = ' ' := by simpa using accepted
    exact firstThat?_text_seq_of_none rfl _

theorem first?_pattern (ended : ∀ c ∈ rest.head?, c = '\n') (start : ∀ c ∈ before, c = '\n')
    (tidy : Source.IsTidyEnd text) :
    (pattern.first? before (text ++ rest)).map (fun found => (found.groups, found.rest)) =
      (ofLine? text).map fun define => ([define.name, define.value], rest) := by
  have found : pattern.firstThat? (report Prod.mk) before (text ++ rest) = _ :=
    firstThat?_pattern ended start tidy
  rw [← found, ← firstThat?_some]
  rfl

theorem first?_pattern_of_inside {c : Char} (inside : c ≠ '\n') :
    pattern.first? (some c) text = none := by
  rw [first?_eq_firstThat?, pattern, firstThat?_seq, firstThat?_lineStart_of_neg inside]

theorem first?_pattern_newline : pattern.first? before ('\n' :: rest) = none := by
  by_cases start : ∀ c ∈ before, c = '\n'
  · have empty_line : Source.IsTidyEnd [] := ⟨by simp, by simp⟩
    have ended : ∀ c ∈ ('\n' :: rest).head?, c = '\n' := by simp
    exact Option.map_eq_none_iff.mp ((first?_pattern ended start empty_line).trans rfl)
  · push Not at start
    obtain ⟨c, here, inside⟩ := start
    rw [Option.mem_def.mp here]
    exact first?_pattern_of_inside inside

end Search

/-! ## Matches in a normal form -/

section Lines

variable {before : Option Char} {line rest : Text} {lines : List Text}

theorem head?_broken (lines : List Text) : ∀ c ∈ (Text.broken lines).head?, c = '\n' := by
  cases lines <;> simp

theorem findAll_newline :
    pattern.findAll before ('\n' :: rest) = pattern.findAll (some '\n') rest :=
  Regex.findAll_of_none first?_pattern_newline

/-- No match begins inside a line. -/
theorem findAll_inside {c : Char} (inside : c ≠ '\n') (one_line : '\n' ∉ line) (rest : Text) :
    ∃ before, pattern.findAll (some c) (line ++ rest) = pattern.findAll before rest := by
  induction line generalizing c with
  | nil => exact ⟨some c, rfl⟩
  | cons d line ih =>
      obtain ⟨not_newline, one_line⟩ := not_or.mp (mt List.mem_cons.mpr one_line)
      obtain ⟨before, same⟩ := ih (Ne.symm not_newline) one_line
      refine ⟨before, ?_⟩
      rw [List.cons_append, Regex.findAll_of_none (first?_pattern_of_inside inside), same]

/-- A line has at most one match, at its start. -/
theorem findAll_line (start : ∀ c ∈ before, c = '\n') (tidy : Source.IsTidyLine line)
    (ended : ∀ c ∈ rest.head?, c = '\n') :
    ∃ behind, (pattern.findAll before (line ++ rest)).map Match.groups =
      ((ofLine? line).map fun define => [define.name, define.value]).toList ++
        (pattern.findAll behind rest).map Match.groups := by
  have at_start := first?_pattern ended start tidy.isTidyEnd
  obtain ⟨c, line, rfl⟩ := List.exists_cons_of_ne_nil tidy.nonempty
  obtain ⟨not_newline, one_line⟩ := not_or.mp (mt List.mem_cons.mpr tidy.no_newline)
  cases read : ofLine? (c :: line) with
  | none =>
      rw [read, Option.map_none, Option.map_eq_none_iff] at at_start
      obtain ⟨behind, same⟩ := findAll_inside (Ne.symm not_newline) one_line rest
      refine ⟨behind, ?_⟩
      rw [List.cons_append] at at_start ⊢
      rw [Regex.findAll_of_none at_start, same]
      rfl
  | some define =>
      rw [read, Option.map_some] at at_start
      obtain ⟨found, matched, same⟩ := Option.map_eq_some_iff.mp at_start
      obtain ⟨groups, behind⟩ := Prod.mk.inj same
      refine ⟨found.last before, ?_⟩
      rw [List.cons_append] at matched ⊢
      rw [Regex.findAll_of_some matched, List.map_cons, groups, behind]
      · rfl
      · rw [behind, List.length_append]
        exact Nat.le_add_left rest.length line.length

theorem groups_findAll_broken (tidy : ∀ line ∈ lines, Source.IsTidyLine line)
    (before : Option Char) :
    (pattern.findAll before (Text.broken lines)).map Match.groups =
      (lines.filterMap ofLine?).map fun define => [define.name, define.value] := by
  induction lines generalizing before with
  | nil => simp
  | cons line lines ih =>
      obtain ⟨tidy_line, tidy⟩ := List.forall_mem_cons.mp tidy
      have start : ∀ c ∈ some '\n', c = '\n' := by simp
      obtain ⟨behind, found⟩ := findAll_line start tidy_line (head?_broken lines)
      rw [Text.broken_cons, findAll_newline, found, ih tidy behind, List.filterMap_cons]
      cases ofLine? line <;> rfl

/-- The matches in a normal form are the lines that define a macro. -/
theorem groups_findAll_normalize (text : Text) :
    (pattern.findAll none (Source.normalize text)).map Match.groups =
      (Define.lines text).map fun define => [define.name, define.value] := by
  have tidy : ∀ line ∈ Source.normalLines text, Source.IsTidyLine line := fun line =>
    Source.isTidyLine_of_mem_normalLines
  rw [Source.normalize, Define.lines]
  cases split : Source.normalLines text with
  | nil => simp [Text.ofLines]
  | cons line lines =>
      obtain ⟨tidy_line, tidy⟩ := List.forall_mem_cons.mp (split ▸ tidy)
      have start : ∀ c ∈ (none : Option Char), c = '\n' := by simp
      obtain ⟨behind, found⟩ := findAll_line start tidy_line (head?_broken lines)
      rw [Text.ofLines_cons, found, groups_findAll_broken tidy behind, List.filterMap_cons]
      cases ofLine? line <;> rfl

end Lines

/-- The macro that a match reports, unless its value is continued. -/
def ofGroups? : List Text → Option Define
  | [name, value] => if value.getLast? = some '\\' then none else some ⟨name, value⟩
  | _ => none

theorem filterMap_ofGroups? (defines : List Define) :
    (defines.map fun define => [define.name, define.value]).filterMap ofGroups? =
      defines.filter fun define => !define.isContinued := by
  rw [List.filterMap_map, ← List.filterMap_eq_filter]
  refine List.filterMap_congr fun define _ => ?_
  by_cases continued : define.value.getLast? = some '\\' <;>
    simp [ofGroups?, isContinued, continued, Option.guard]

theorem filterMap_splitOn_normalize (text : Text) :
    ((Source.normalize text).splitOn '\n').filterMap ofWholeLine? =
      (Source.normalLines text).filterMap ofWholeLine? := by
  cases split : Source.normalLines text with
  | nil =>
      rw [Source.normalize, split]
      rfl
  | cons line lines =>
      have one_line : ∀ other ∈ line :: lines, '\n' ∉ other := fun other listed =>
        (Source.isTidyLine_of_mem_normalLines (split ▸ listed)).no_newline
      rw [Source.normalize, split, Text.ofLines,
        List.splitOn_intercalate '\n' one_line (List.cons_ne_nil line lines)]

/-- The macros are the matches of the pattern in the normal form.  They are read off its lines one
by one, each in the only way in which the line can be divided. -/
theorem ofHeader_lineByLine :
    (∀ text, ofHeader text = (pattern.findAll none (Source.normalize text)).filterMap
      fun found => ofGroups? found.groups) ∧
    ∃ read : Text → Option Define,
      (∀ line define, read line = some define ↔
        define.IsDefinedBy line ∧ define.value.getLast? ≠ some '\\') ∧
      ∀ text, ofHeader text = ((Source.normalize text).splitOn '\n').filterMap read := by
  refine ⟨fun text => ?_, ofWholeLine?, fun line define => ofWholeLine?_eq_some_iff,
    fun text => ?_⟩
  · rw [ofHeader, ← filterMap_ofGroups?, ← groups_findAll_normalize, List.filterMap_map]
    rfl
  · rw [ofHeader_eq_filterMap, filterMap_splitOn_normalize]

end Define
end CHeader
