import CHeader.Json

/-!
# Tokens of JSON text

White space between tokens is the space, the tab, the newline and the carriage return.  Numbers
follow the JSON grammar without a limit on their size.  Strings hold no character below the space.
-/

namespace CHeader
namespace Json

/-- Whether a character may stand between tokens. -/
def isSpace (c : Char) : Bool :=
  c == ' ' || c == '\n' || c == '\t' || c == '\r'

/-- Whether a character is an ASCII digit. -/
def isDigit (c : Char) : Bool :=
  '0' ≤ c && c ≤ '9'

/-- The value of a hexadecimal digit. -/
def hexValue? (c : Char) : Option Nat :=
  if '0' ≤ c ∧ c ≤ '9' then some (c.toNat - '0'.toNat)
  else if 'a' ≤ c ∧ c ≤ 'f' then some (c.toNat - 'a'.toNat + 10)
  else if 'A' ≤ c ∧ c ≤ 'F' then some (c.toNat - 'A'.toNat + 10)
  else none

/-- A part of a string: a character, or a 16-bit unit given by its number. -/
inductive StringPart where
  | char (c : Char)
  | unit (code : Nat)
  deriving DecidableEq, Repr

/-- The character that a letter behind a backslash stands for. -/
def unescape? (c : Char) : Option Char :=
  if c = '"' then some '"'
  else if c = '\\' then some '\\'
  else if c = '/' then some '/'
  else if c = 'b' then some '\x08'
  else if c = 'f' then some '\x0c'
  else if c = 'n' then some '\n'
  else if c = 'r' then some '\r'
  else if c = 't' then some '\t'
  else none

/-- The unit that four hexadecimal digits denote. -/
def unitOf? (a b c d : Char) : Option Nat := do
  return (((← hexValue? a) * 16 + (← hexValue? b)) * 16 + (← hexValue? c)) * 16 + (← hexValue? d)

/-- The parts of a string behind its opening quote, and the text behind the closing quote. -/
def stringParts? : Text → Option (List StringPart × Text)
  | [] => none
  | '"' :: rest => some ([], rest)
  | '\\' :: 'u' :: a :: b :: c :: d :: text => do
      let code ← unitOf? a b c d
      let (parts, rest) ← stringParts? text
      return (.unit code :: parts, rest)
  | '\\' :: c :: text => do
      let meant ← unescape? c
      let (parts, rest) ← stringParts? text
      return (.char meant :: parts, rest)
  | c :: text =>
      if c < ' ' ∨ c = '\\' then none
      else do
        let (parts, rest) ← stringParts? text
        return (.char c :: parts, rest)

/-- The text that parts denote.  A unit in the first half of the surrogates needs one of the second
half right behind it, and no other unit may be of the second half. -/
def joinParts? : List StringPart → Option Text
  | [] => some []
  | .char c :: parts => (joinParts? parts).map (c :: ·)
  | .unit code :: parts =>
      if 0xD800 ≤ code ∧ code < 0xDC00 then
        match parts with
        | .unit low :: parts =>
            if 0xDC00 ≤ low ∧ low < 0xE000 then
              (joinParts? parts).map
                (Char.ofNat (0x10000 + (code - 0xD800) * 0x400 + (low - 0xDC00)) :: ·)
            else none
        | _ => none
      else if 0xDC00 ≤ code ∧ code < 0xE000 then none
      else (joinParts? parts).map (Char.ofNat code :: ·)

/-- One or more digits at the front of a text, and the text behind them. -/
def digits? (text : Text) : Option (Text × Text) :=
  match text.takeWhile isDigit with
  | [] => none
  | digit :: digits => some (digit :: digits, text.dropWhile isDigit)

/-- The integer part of a number: a zero, or digits that begin with another one. -/
def integerPart? : Text → Option (Text × Text)
  | '0' :: text => some (['0'], text)
  | text => digits? text

/-- The fraction of a number, which may be missing. -/
def fractionPart? : Text → Option (Text × Text)
  | '.' :: text => (digits? text).map fun (digits, rest) => ('.' :: digits, rest)
  | text => some ([], text)

/-- The sign of an exponent, which may be missing. -/
def exponentSign : Text → Text × Text
  | '+' :: text => (['+'], text)
  | '-' :: text => (['-'], text)
  | text => ([], text)

/-- The exponent of a number, which may be missing. -/
def exponentPart? : Text → Option (Text × Text)
  | [] => some ([], [])
  | c :: text =>
      if c = 'e' ∨ c = 'E' then
        (digits? (exponentSign text).2).map fun (digits, rest) =>
          (c :: (exponentSign text).1 ++ digits, rest)
      else some ([], c :: text)

/-- A number without sign at the front of a text. -/
def unsignedNumber? (text : Text) : Option (Text × Text) := do
  let (whole, text) ← integerPart? text
  let (fraction, text) ← fractionPart? text
  let (exponent, text) ← exponentPart? text
  return (whole ++ fraction ++ exponent, text)

/-- A number at the front of a text. -/
def number? : Text → Option (Text × Text)
  | '-' :: text => (unsignedNumber? text).map fun (literal, rest) => ('-' :: literal, rest)
  | text => unsignedNumber? text

/-- The token at the front of the text `c :: text`, where `c` is no white space. -/
def token? (c : Char) (text : Text) : Option (Token × Text) :=
  if c = '[' then some (.openBracket, text)
  else if c = ']' then some (.closeBracket, text)
  else if c = '{' then some (.openBrace, text)
  else if c = '}' then some (.closeBrace, text)
  else if c = ',' then some (.comma, text)
  else if c = ':' then some (.colon, text)
  else if c = '"' then
    (stringParts? text).map fun (parts, rest) => (.string (joinParts? parts), rest)
  else if c = 'n' then (Text.dropFront? "ull".toList text).map (.null, ·)
  else if c = 't' then (Text.dropFront? "rue".toList text).map (.bool true, ·)
  else if c = 'f' then (Text.dropFront? "alse".toList text).map (.bool false, ·)
  else (number? (c :: text)).map fun (literal, rest) => (.number literal, rest)

theorem length_lt_of_stringParts? {text rest : Text} {parts : List StringPart}
    (found : stringParts? text = some (parts, rest)) : rest.length < text.length := by
  fun_induction stringParts? text generalizing parts rest with
  | case1 => simp at found
  | case2 rest' =>
      simp only [Option.some.injEq, Prod.mk.injEq] at found
      simp [found.2]
  | case3 a b c d text ih =>
      simp only [Option.bind_eq_bind, Option.bind_eq_some_iff, Option.pure_def,
        Option.some.injEq] at found
      obtain ⟨_, _, ⟨parts', rest'⟩, inner, eq⟩ := found
      simp only [Prod.mk.injEq] at eq
      have := ih inner
      simp only [List.length_cons, ← eq.2]
      omega
  | case4 c text _ ih =>
      simp only [Option.bind_eq_bind, Option.bind_eq_some_iff, Option.pure_def,
        Option.some.injEq] at found
      obtain ⟨_, _, ⟨parts', rest'⟩, inner, eq⟩ := found
      simp only [Prod.mk.injEq] at eq
      have := ih inner
      simp only [List.length_cons, ← eq.2]
      omega
  | case5 => simp at found
  | case6 c text _ _ _ _ ih =>
      simp only [Option.bind_eq_bind, Option.bind_eq_some_iff, Option.pure_def,
        Option.some.injEq] at found
      obtain ⟨⟨parts', rest'⟩, inner, eq⟩ := found
      simp only [Prod.mk.injEq] at eq
      have := ih inner
      simp only [List.length_cons, ← eq.2]
      omega

theorem digits?_source {text digits rest : Text} (found : digits? text = some (digits, rest)) :
    text = digits ++ rest ∧ digits ≠ [] := by
  unfold digits? at found
  split at found
  · simp at found
  · next digit digits' taken =>
      simp only [Option.some.injEq, Prod.mk.injEq] at found
      obtain ⟨rfl, rfl⟩ := found
      exact ⟨taken ▸ List.takeWhile_append_dropWhile.symm, List.cons_ne_nil digit digits'⟩

theorem integerPart?_source {text whole rest : Text}
    (found : integerPart? text = some (whole, rest)) : text = whole ++ rest ∧ whole ≠ [] := by
  unfold integerPart? at found
  split at found
  · simp only [Option.some.injEq, Prod.mk.injEq] at found
    obtain ⟨rfl, rfl⟩ := found
    simp
  · exact digits?_source found

theorem fractionPart?_source {text fraction rest : Text}
    (found : fractionPart? text = some (fraction, rest)) : text = fraction ++ rest := by
  unfold fractionPart? at found
  split at found
  · obtain ⟨⟨digits, rest'⟩, inner, eq⟩ := Option.map_eq_some_iff.mp found
    simp only [Prod.mk.injEq] at eq
    obtain ⟨rfl, rfl⟩ := eq
    simp [(digits?_source inner).1]
  · simp only [Option.some.injEq, Prod.mk.injEq] at found
    simp [← found.1, found.2]

theorem exponentSign_source (text : Text) :
    text = (exponentSign text).1 ++ (exponentSign text).2 := by
  unfold exponentSign
  split <;> rfl

theorem exponentPart?_source {text exponent rest : Text}
    (found : exponentPart? text = some (exponent, rest)) : text = exponent ++ rest := by
  unfold exponentPart? at found
  split at found
  · simp only [Option.some.injEq, Prod.mk.injEq] at found
    simp [← found.1, ← found.2]
  · next c text =>
      split at found
      · obtain ⟨⟨digits, rest'⟩, inner, eq⟩ := Option.map_eq_some_iff.mp found
        simp only [Prod.mk.injEq] at eq
        obtain ⟨rfl, rfl⟩ := eq
        rw [List.cons_append, List.cons_append, List.append_assoc, ← (digits?_source inner).1,
          ← exponentSign_source]
      · simp only [Option.some.injEq, Prod.mk.injEq] at found
        simp [← found.1, found.2]

theorem unsignedNumber?_source {text literal rest : Text}
    (found : unsignedNumber? text = some (literal, rest)) :
    text = literal ++ rest ∧ literal ≠ [] := by
  simp only [unsignedNumber?, Option.bind_eq_bind, Option.bind_eq_some_iff, Option.pure_def,
    Option.some.injEq, Prod.mk.injEq] at found
  obtain ⟨⟨whole, text'⟩, integer, ⟨fraction, text''⟩, middle, ⟨exponent, rest'⟩, last, eq, eq'⟩ :=
    found
  obtain ⟨split, nonempty⟩ := integerPart?_source integer
  have split' := fractionPart?_source middle
  have split'' := exponentPart?_source last
  subst eq eq'
  refine ⟨?_, by simp [nonempty]⟩
  simp only at split split' split''
  rw [split, split', split'']
  simp

theorem number?_source {text literal rest : Text} (found : number? text = some (literal, rest)) :
    text = literal ++ rest ∧ literal ≠ [] := by
  unfold number? at found
  split at found
  · obtain ⟨⟨digits, rest'⟩, inner, eq⟩ := Option.map_eq_some_iff.mp found
    simp only [Prod.mk.injEq] at eq
    obtain ⟨rfl, rfl⟩ := eq
    simp [(unsignedNumber?_source inner).1]
  · exact unsignedNumber?_source found

theorem length_le_of_token? {c : Char} {text rest : Text} {token : Token}
    (found : token? c text = some (token, rest)) : rest.length ≤ text.length := by
  have afterWord {word : Text} {token' : Token}
      (found : (Text.dropFront? word text).map (token', ·) = some (token, rest)) :
      rest.length ≤ text.length := by
    obtain ⟨rest', dropped, eq⟩ := Option.map_eq_some_iff.mp found
    simp only [Prod.mk.injEq] at eq
    obtain ⟨rfl, rfl⟩ := eq
    simp [Text.eq_append_of_dropFront? dropped]
  unfold token? at found
  iterate 6
    split at found
    · simp only [Option.some.injEq, Prod.mk.injEq] at found
      simp [found.2]
  split at found
  · obtain ⟨⟨parts, rest'⟩, inner, eq⟩ := Option.map_eq_some_iff.mp found
    simp only [Prod.mk.injEq] at eq
    obtain ⟨_, rfl⟩ := eq
    exact Nat.le_of_lt (length_lt_of_stringParts? inner)
  iterate 3
    split at found
    · exact afterWord found
  obtain ⟨⟨literal, rest'⟩, inner, eq⟩ := Option.map_eq_some_iff.mp found
  simp only [Prod.mk.injEq] at eq
  obtain ⟨_, rfl⟩ := eq
  obtain ⟨split, nonempty⟩ := number?_source inner
  have total := congrArg List.length split
  have positive := List.length_pos_iff.mpr nonempty
  simp only [List.length_cons, List.length_append] at total
  omega

/-- The tokens of a text. -/
def lex? (text : Text) : Option (List Token) :=
  match text with
  | [] => some []
  | c :: later =>
      if isSpace c then lex? later
      else
        match _found : token? c later with
        | none => none
        | some (token, rest) => (lex? rest).map (token :: ·)
termination_by text.length
decreasing_by
  · exact Nat.lt_succ_self later.length
  · exact Nat.lt_succ_of_le (length_le_of_token? _found)

end Json
end CHeader
