import CHeader.Text

/-!
# Comments and quoted literals

A header is read as a list of tokens: comments, quoted literals, and single characters for all
else.  A token is taken at the front of the text wherever one begins; a quote or a `/*` whose end
is missing is a single character, and reading goes on right behind it.  No character is lost: the
sources of the tokens concatenate to the text.
-/

namespace CHeader

/-- The pieces of a header that comments and literals divide it into. -/
inductive Token where
  /-- A comment up to the end of its line, given by the text behind the two slashes. -/
  | lineComment (body : Text)
  /-- A comment up to the first `*/`, given by the text between the delimiters. -/
  | blockComment (body : Text)
  /-- A literal, given by its quote character and the text between the quotes. -/
  | literal (quote : Char) (body : Text)
  /-- Any other character. -/
  | plain (c : Char)
  deriving DecidableEq, Repr

namespace Token

/-- The characters that a token was read from. -/
def source : Token → Text
  | lineComment body => '/' :: '/' :: body
  | blockComment body => '/' :: '*' :: body ++ ['*', '/']
  | literal quote body => quote :: body ++ [quote]
  | plain c => [c]

/-- Whether a token is a comment. -/
def isComment : Token → Bool
  | lineComment _ => true
  | blockComment _ => true
  | _ => false

/-- Whether a character opens a literal. -/
def isQuote (c : Char) : Bool :=
  c == '\'' || c == '"'

/-- The text before the first `*/` and the text behind it. -/
def blockBody? : Text → Option (Text × Text)
  | [] => none
  | c :: text =>
      match c, text with
      | '*', '/' :: rest => some ([], rest)
      | _, _ => (blockBody? text).map fun (body, rest) => (c :: body, rest)

/-- The text before the first `quote` that no backslash escapes and the text behind it.  A
backslash forms a pair with any character that follows it. -/
def literalBody? (quote : Char) : Text → Option (Text × Text)
  | [] => none
  | '\\' :: text =>
      match text with
      | [] => none
      | c :: text => (literalBody? quote text).map fun (body, rest) => ('\\' :: c :: body, rest)
  | c :: text =>
      if c = quote then some ([], text)
      else (literalBody? quote text).map fun (body, rest) => (c :: body, rest)

/-- The token at the front of the nonempty text `c :: text`, and the text behind it. -/
def next (c : Char) (text : Text) : Token × Text :=
  match c, text with
  | '/', '/' :: rest => (lineComment (rest.takeWhile (· ≠ '\n')), rest.dropWhile (· ≠ '\n'))
  | '/', '*' :: rest =>
      match blockBody? rest with
      | some (body, rest) => (blockComment body, rest)
      | none => (plain '/', text)
  | _, _ =>
      if isQuote c then
        match literalBody? c text with
        | some (body, rest) => (literal c body, rest)
        | none => (plain c, text)
      else (plain c, text)

theorem blockBody?_source {text body rest : Text} (found : blockBody? text = some (body, rest)) :
    text = body ++ '*' :: '/' :: rest := by
  fun_induction blockBody? text generalizing body with
  | case1 => simp at found
  | case2 rest' => simp_all
  | case3 c text _ ih =>
      obtain ⟨⟨body', rest'⟩, found', eq⟩ := Option.map_eq_some_iff.mp found
      simp only [Prod.mk.injEq] at eq
      obtain ⟨rfl, rfl⟩ := eq
      simp [ih found']

theorem literalBody?_source {quote : Char} {text body rest : Text}
    (found : literalBody? quote text = some (body, rest)) : text = body ++ quote :: rest := by
  fun_induction literalBody? quote text generalizing body with
  | case1 => simp at found
  | case2 => simp at found
  | case3 c text ih =>
      obtain ⟨⟨body', rest'⟩, found', eq⟩ := Option.map_eq_some_iff.mp found
      simp only [Prod.mk.injEq] at eq
      obtain ⟨rfl, rfl⟩ := eq
      simp [ih found']
  | case4 text _ => simp_all
  | case5 c text _ _ ih =>
      obtain ⟨⟨body', rest'⟩, found', eq⟩ := Option.map_eq_some_iff.mp found
      simp only [Prod.mk.injEq] at eq
      obtain ⟨rfl, rfl⟩ := eq
      simp [ih found']

theorem next_source (c : Char) (text : Text) :
    (next c text).1.source ++ (next c text).2 = c :: text := by
  unfold next
  split
  · simp [source, List.takeWhile_append_dropWhile]
  · split
    · next found => simp [source, blockBody?_source found]
    · simp [source]
  · split
    · split
      · next found => simp [source, literalBody?_source found]
      · simp [source]
    · simp [source]

theorem source_ne_nil (token : Token) : token.source ≠ [] := by
  cases token <;> simp [source]

theorem next_length_le (c : Char) (text : Text) : (next c text).2.length ≤ text.length := by
  have total := congrArg List.length (next_source c text)
  have positive := List.length_pos_iff.mpr (source_ne_nil (next c text).1)
  simp only [List.length_append, List.length_cons] at total
  omega

/-- The tokens of a text, from front to back. -/
def scan : Text → List Token
  | [] => []
  | c :: text => (next c text).1 :: scan (next c text).2
termination_by text => text.length
decreasing_by exact Nat.lt_succ_of_le (next_length_le c text)

theorem scan_nil : scan [] = [] := by
  rw [scan]

theorem scan_cons (c : Char) (text : Text) :
    scan (c :: text) = (next c text).1 :: scan (next c text).2 := by
  rw [scan]

theorem flatMap_source_scan (text : Text) : (scan text).flatMap source = text := by
  fun_induction scan text with
  | case1 => rfl
  | case2 c text ih => simp [ih, next_source]

end Token
end CHeader
