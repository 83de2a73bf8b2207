import CHeader.Enum.Resolve
import CHeader.Proofs.Lines

/-!
# Resolving an enum, part by part

What the resolver reads at the front of a declaration, between its braces, and in an entry, if these
parts are known; and what is known of an entry that was read.
-/

namespace CHeader

@[simp]
theorem Text.isWordChar_space : isWordChar ' ' = false := by decide

theorem Text.not_blank_of_isWordChar {c : Char} (word : isWordChar c = true) :
    isBlank c = false := by
  rw [← Bool.not_eq_true]
  intro blank
  have no_word : isWordChar c = false :=
    of_isBlank (p := fun c => isWordChar c = false) (by decide +kernel) blank
  simp [no_word] at word

namespace Enum

/-! ## The name and the body -/

/-- A nonempty text of word characters. -/
def IsWord (name : Text) : Prop :=
  name ≠ [] ∧ ∀ c ∈ name, Text.isWordChar c = true

theorem IsWord.head?_append {name : Text} (word : IsWord name) (rest : Text) :
    ∀ c ∈ (name ++ rest).head?, Text.isWordChar c = true := by
  obtain ⟨nonempty, inside⟩ := word
  obtain ⟨d, name, rfl⟩ := List.exists_cons_of_ne_nil nonempty
  simpa using inside d List.mem_cons_self

theorem nameAtFront?_append {gap name rest : Text} (spaces : ∀ c ∈ gap, c = ' ')
    (word : IsWord name) (ended : ∀ c ∈ rest.head?, Text.isWordChar c = false) :
    nameAtFront? (BlockKind.enum.keyword ++ ' ' :: (gap ++ (name ++ rest))) = some name := by
  have no_space : ∀ c ∈ (name ++ rest).head?, decide (c = ' ') = false := by
    intro c first
    rw [decide_eq_false_iff_not]
    rintro rfl
    simpa using word.head?_append rest ' ' first
  have no_gap : (gap ++ (name ++ rest)).dropWhile (· = ' ') = name ++ rest :=
    Text.dropWhile_append_eq_right (by simpa using spaces) no_space
  rw [nameAtFront?, Text.dropFront?_append]
  simp [no_gap, Text.takeWhile_append_eq_left word.2 ended, word.1]

theorem name?_of_front {gap name rest : Text} (spaces : ∀ c ∈ gap, c = ' ') (word : IsWord name)
    (ended : ∀ c ∈ rest.head?, Text.isWordChar c = false) :
    name? (BlockKind.enum.keyword ++ ' ' :: (gap ++ (name ++ rest))) = some name := by
  have at_front := nameAtFront?_append spaces word ended
  have written : BlockKind.enum.keyword ++ ' ' :: (gap ++ (name ++ rest)) =
      'e' :: ("num".toList ++ ' ' :: (gap ++ (name ++ rest))) := rfl
  rw [written] at at_front ⊢
  rw [name?, at_front]
  rfl

theorem body?_append {front body : Text} (no_opening : '{' ∉ front) (no_closing : '}' ∉ body)
    (rest : Text) : body? (front ++ '{' :: (body ++ '}' :: rest)) = some body := by
  have opening : Text.cut? '{' (front ++ '{' :: (body ++ '}' :: rest)) =
      some (front, body ++ '}' :: rest) := Text.cut?_eq_some_iff.mpr ⟨rfl, no_opening⟩
  have closing : Text.cut? '}' (body ++ '}' :: rest) = some (body, rest) :=
    Text.cut?_eq_some_iff.mpr ⟨rfl, no_closing⟩
  simp [body?, opening, closing]

/-! ## Line breaks -/

/-- A text with a space for every newline. -/
def onOneLine (text : Text) : Text :=
  text.map fun c => if c = '\n' then ' ' else c

theorem onOneLine_eq_self {text : Text} (one_line : '\n' ∉ text) : onOneLine text = text := by
  have unchanged : ∀ c ∈ text, (if c = '\n' then ' ' else c) = id c := fun c member =>
    if_neg fun newline : c = '\n' => one_line (newline ▸ member)
  exact (List.map_congr_left unchanged).trans (List.map_id text)

theorem notMem_onOneLine {text : Text} {mark : Char} (not_space : mark ≠ ' ')
    (fresh : mark ∉ text) : mark ∉ onOneLine text := by
  intro member
  obtain ⟨c, inside, same⟩ := List.mem_map.mp member
  split at same
  · exact not_space same.symm
  · exact fresh (same ▸ inside)

theorem newline_notMem_onOneLine (text : Text) : '\n' ∉ onOneLine text := by
  intro member
  obtain ⟨c, -, same⟩ := List.mem_map.mp member
  split at same
  · simp at same
  · next different => exact different same

theorem resolve_of_body? {text name body : Text} (named : name? text = some name)
    (found : body? (onOneLine text) = some body) :
    resolve text = (resolveEntries name (-1) (entries body)).map fun enumerators =>
      { name, enumerators } := by
  have found' : body? (text.map fun c => if c = '\n' then ' ' else c) = some body := found
  simp only [resolve, named, found']

theorem body?_onOneLine {text front body rest : Text}
    (split : text = front ++ '{' :: (body ++ '}' :: rest)) (no_opening : '{' ∉ front)
    (no_closing : '}' ∉ body) : body? (onOneLine text) = some (onOneLine body) := by
  have joined : onOneLine text =
      onOneLine front ++ '{' :: (onOneLine body ++ '}' :: onOneLine rest) := by
    rw [split]
    simp [onOneLine]
  rw [joined]
  exact body?_append (notMem_onOneLine (by decide) no_opening)
    (notMem_onOneLine (by decide) no_closing) (onOneLine rest)

/-- A declaration is resolved entry by entry of its first body. -/
theorem resolve_of_parts {text name front body rest : Text} (named : name? text = some name)
    (split : text = front ++ '{' :: (body ++ '}' :: rest)) (no_opening : '{' ∉ front)
    (no_closing : '}' ∉ body) :
    resolve text = (resolveEntries name (-1) (entries (onOneLine body))).map fun enumerators =>
      { name, enumerators } :=
  resolve_of_body? named (body?_onOneLine split no_opening no_closing)

/-! ## Entries -/

theorem Entry.ofText?_append {gap name rest : Text} (gap_blank : Text.isBlankText gap = true)
    (word : IsWord name) (ended : ∀ c ∈ rest.head?, Text.isWordChar c = false) :
    Entry.ofText? (gap ++ (name ++ rest)) =
      match Text.trimStart rest with
      | '=' :: value => some (.assigned name (Text.trim value))
      | _ => some (.bare name) := by
  have front : Text.trimStart (gap ++ (name ++ rest)) = name ++ rest :=
    Text.trimStart_append gap_blank fun c first =>
      Text.not_blank_of_isWordChar (word.head?_append rest c first)
  simp only [ofText?, front, Text.takeWhile_append_eq_left word.2 ended,
    Text.dropWhile_append_eq_right word.2 ended]
  exact if_neg (by simpa using word.1)

theorem Entry.ofText?_assigned {name : Text} (word : IsWord name) (raw : Text) :
    ofText? (' ' :: (name ++ " = ".toList ++ raw)) = some (.assigned name (Text.trim raw)) := by
  have ended : ∀ c ∈ (" = ".toList ++ raw).head?, Text.isWordChar c = false := by simp
  have equals : Text.trimStart (" = ".toList ++ raw) = '=' :: ' ' :: raw := by
    simp [Text.trimStart]
  have space_blank : Text.isBlankText [' '] = true := by simp
  have entry := ofText?_append space_blank word ended
  simp only [equals, Text.trim_cons_of_blank Text.isBlank_space] at entry
  rw [List.append_assoc]
  exact entry

theorem entries_append_comma {piece : Text} (no_comma : ',' ∉ piece)
    (solid : Text.isBlankText piece = false) (rest : Text) :
    entries (piece ++ ',' :: rest) = piece :: entries rest := by
  rw [entries, List.splitOn_append_cons_self_of_not_mem no_comma,
    List.filter_cons_of_pos (by simp [solid])]
  rfl

theorem entries_singleton {piece : Text} (no_comma : ',' ∉ piece)
    (solid : Text.isBlankText piece = false) : entries piece = [piece] := by
  rw [entries, List.splitOn_eq_singleton no_comma]
  simp [solid]

theorem IsWord.not_blank {name : Text} (word : IsWord name) (gap rest : Text) :
    Text.isBlankText (gap ++ (name ++ rest)) = false := by
  obtain ⟨nonempty, inside⟩ := word
  obtain ⟨c, name, rfl⟩ := List.exists_cons_of_ne_nil nonempty
  have solid := Text.not_blank_of_isWordChar (inside c List.mem_cons_self)
  simp [Text.isBlankText, solid]

theorem IsWord.notMem {name : Text} (word : IsWord name) {mark : Char}
    (no_word : Text.isWordChar mark = false) : mark ∉ name := by
  intro member
  simp [word.2 mark member] at no_word

theorem resolveEntries_cons {text : Text} {entry : Entry} (read : Entry.ofText? text = some entry)
    (name : Text) (previous : Int) (texts : List Text) :
    resolveEntries name previous (text :: texts) =
      (resolveEntries name ((entry.enumerator previous).value.int?.getD previous) texts).map
        (entry.enumerator previous :: ·) := by
  rw [resolveEntries, read]

/-! ## What was read -/

theorem isWord_takeWhile {text : Text}
    (nonempty : (text.takeWhile Text.isWordChar).isEmpty = false) :
    IsWord (text.takeWhile Text.isWordChar) :=
  ⟨by simpa using nonempty, fun _ member => List.mem_takeWhile_imp member⟩

theorem isWord_of_nameAtFront? {text name : Text} (named : nameAtFront? text = some name) :
    IsWord name := by
  simp only [nameAtFront?] at named
  split at named
  · split at named
    · simp at named
    · next nonempty =>
        obtain rfl := Option.some.inj named
        exact isWord_takeWhile (by simpa using nonempty)
  · simp at named

theorem isWord_of_name? {text name : Text} (named : name? text = some name) : IsWord name := by
  induction text with
  | nil => simp [name?] at named
  | cons c text ih =>
      rw [name?] at named
      cases front : nameAtFront? (c :: text) with
      | none =>
          rw [front] at named
          exact ih named
      | some other =>
          rw [front] at named
          obtain rfl := Option.some.inj named
          exact isWord_of_nameAtFront? front

theorem body?_source {text body : Text} (found : body? text = some body) :
    '}' ∉ body ∧ body ⊆ text := by
  obtain ⟨⟨front, inner⟩, opening, found⟩ := Option.bind_eq_some_iff.mp found
  obtain ⟨⟨body', rest⟩, closing, same⟩ := Option.bind_eq_some_iff.mp found
  obtain rfl := Option.some.inj same
  obtain ⟨split, -⟩ := Text.cut?_eq_some_iff.mp opening
  obtain ⟨split_inner, no_closing⟩ := Text.cut?_eq_some_iff.mp closing
  refine ⟨no_closing, fun c member => ?_⟩
  simp [split, split_inner, member]

theorem Entry.isWord_of_ofText? {text : Text} {entry : Entry} (read : ofText? text = some entry)
    (previous : Int) : IsWord (entry.enumerator previous).name := by
  simp only [ofText?] at read
  split at read
  · simp at read
  · next nonempty =>
      have word : IsWord ((Text.trimStart text).takeWhile Text.isWordChar) :=
        isWord_takeWhile (by simpa using nonempty)
      split at read
      · obtain rfl := Option.some.inj read
        exact word
      · obtain rfl := Option.some.inj read
        exact word

theorem Entry.value_of_ofText? {text name value : Text}
    (read : ofText? text = some (.assigned name value)) :
    ∃ raw, raw ⊆ text ∧ value = Text.trim raw := by
  simp only [ofText?] at read
  split at read
  · simp at read
  · split at read
    · next raw equals =>
        simp only [Option.some.injEq, assigned.injEq] at read
        refine ⟨raw, fun c member => ?_, read.2.symm⟩
        have behind : c ∈ Text.trimStart ((Text.trimStart text).dropWhile Text.isWordChar) := by
          rw [equals]
          exact List.mem_cons_of_mem '=' member
        exact (List.dropWhile_sublist _).subset
          ((List.dropWhile_sublist _).subset ((List.dropWhile_sublist _).subset behind))
    · simp at read

theorem valueOf_eq_expr {text kept : Text} (symbolic : valueOf text = .expr kept) :
    kept = text ∧ IntLiteral.parse? text = none := by
  unfold valueOf at symbolic
  split at symbolic
  · simp at symbolic
  · next no_literal => exact ⟨(EnumValue.expr.inj symbolic).symm, no_literal⟩

/-- Every enumerator comes from an entry. -/
theorem exists_entry_of_mem_resolveEntries {name : Text} {previous : Int} {texts : List Text}
    {enumerators : List Enumerator}
    (resolved : resolveEntries name previous texts = .ok enumerators) :
    ∀ enumerator ∈ enumerators, ∃ text ∈ texts, ∃ entry before,
      Entry.ofText? text = some entry ∧ enumerator = entry.enumerator before := by
  induction texts generalizing previous enumerators with
  | nil =>
      obtain rfl := Except.ok.inj resolved
      simp
  | cons text texts ih =>
      rw [resolveEntries] at resolved
      cases read : Entry.ofText? text with
      | none => simp [read] at resolved
      | some entry =>
          simp only [read] at resolved
          cases later : resolveEntries name
            ((entry.enumerator previous).value.int?.getD previous) texts with
          | error cause => simp [later, Except.map] at resolved
          | ok others =>
              rw [later] at resolved
              obtain rfl := Except.ok.inj resolved
              refine List.forall_mem_cons.mpr ⟨?_, fun other member => ?_⟩
              · exact ⟨text, List.mem_cons_self, entry, previous, read, rfl⟩
              · obtain ⟨source, listed, origin⟩ := ih later other member
                exact ⟨source, List.mem_cons_of_mem text listed, origin⟩

/-- A declaration that resolves has a name and a body whose entries resolve. -/
theorem exists_parts_of_resolve {text : Text} {enum : Enum} (resolved : resolve text = .ok enum) :
    name? text = some enum.name ∧ ∃ body, body? (onOneLine text) = some body ∧
      resolveEntries enum.name (-1) (entries body) = .ok enum.enumerators := by
  unfold resolve at resolved
  split at resolved
  · simp at resolved
  · next name named =>
      split at resolved
      · simp at resolved
      · next body found =>
          cases entries_resolved : resolveEntries name (-1) (entries body) with
          | error cause => simp [entries_resolved, Except.map] at resolved
          | ok enumerators =>
              rw [entries_resolved] at resolved
              obtain rfl := Except.ok.inj resolved
              exact ⟨named, body, found, entries_resolved⟩

end Enum

end CHeader
