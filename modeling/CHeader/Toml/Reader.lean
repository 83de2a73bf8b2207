import CHeader.Toml.Scalar

/-!
# Reading TOML

A document is read line by line into statements.  Every reader takes a text and returns what it
read together with the text behind it.
-/

namespace CHeader
namespace Toml

/-- Spaces and tabs at the front of a text are dropped. -/
def skipSpace (text : Text) : Text :=
  text.dropWhile fun c => c == ' ' || c == '\t'

/-- Whether a character may stand in a comment or in a literal string. -/
def isTextChar (c : Char) : Bool :=
  c == '\t' || (' ' ≤ c && c != '\x7f')

/-- The text behind a newline. -/
def newline? : Text → Option Text
  | '\n' :: text => some text
  | '\r' :: '\n' :: text => some text
  | _ => none

/-- The text behind a comment, if one stands at the front. -/
def skipComment : Text → Text
  | '#' :: text => text.dropWhile isTextChar
  | text => text

/-- Drops spaces, comments and newlines; `limit` bounds the number of lines. -/
def skipLines : Nat → Text → Text
  | 0, text => text
  | limit + 1, text =>
      let behind := skipComment (skipSpace text)
      match newline? behind with
      | some rest => skipLines limit rest
      | none => behind

/-- The character that an escape with the given number of hexadecimal digits denotes. -/
def unicodeEscape? (digits : Nat) (text : Text) : Option (Char × Text) :=
  let code := IntLiteral.ofDigits 16 (text.take digits)
  if (text.take digits).length == digits && (text.take digits).all (IntLiteral.isDigit 16) &&
      code.isValidChar then
    some (Char.ofNat code, text.drop digits)
  else none

/-- The character that an escape denotes, given the text behind the backslash. -/
def escape? : Text → Option (Char × Text)
  | [] => none
  | c :: text =>
      if c = 'b' then some ('\x08', text)
      else if c = 't' then some ('\t', text)
      else if c = 'n' then some ('\n', text)
      else if c = 'f' then some ('\x0c', text)
      else if c = 'r' then some ('\r', text)
      else if c = '"' then some ('"', text)
      else if c = '\\' then some ('\\', text)
      else if c = 'u' then unicodeEscape? 4 text
      else if c = 'U' then unicodeEscape? 8 text
      else none

/-- The content of a string behind its opening quote; `limit` bounds the number of characters. -/
def basicString? : Nat → Text → Option (Text × Text)
  | 0, _ => none
  | _, [] => none
  | _, '"' :: rest => some ([], rest)
  | limit + 1, '\\' :: text => do
      let (c, text) ← escape? text
      let (content, rest) ← basicString? limit text
      return (c :: content, rest)
  | limit + 1, c :: text =>
      if isTextChar c then do
        let (content, rest) ← basicString? limit text
        return (c :: content, rest)
      else none

/-- The content of a string without escapes behind its opening quote. -/
def literalString? (text : Text) : Option (Text × Text) := do
  let (content, rest) ← Text.cut? '\'' text
  if content.all isTextChar then return (content, rest) else none

/-- Drops spaces, tabs and newlines at the front of a text. -/
def skipBreaks : Text → Text
  | '\r' :: '\n' :: text => skipBreaks text
  | c :: text => if c == ' ' || c == '\t' || c == '\n' then skipBreaks text else c :: text
  | [] => []

/-- The content of a string of several lines behind its opening quotes; `escapes` says whether
backslashes are special, and `limit` bounds the number of characters.  The quotes that end it may
follow up to two quotes of its content. -/
def multilineString? (quote : Char) (escapes : Bool) : Nat → Text → Option (Text × Text)
  | 0, _ => none
  | _, [] => none
  | limit + 1, c :: text =>
      let quotes := (c :: text).takeWhile (· = quote)
      if 3 ≤ quotes.length then
        if quotes.length ≤ 5 then some (quotes.drop 3, (c :: text).drop quotes.length) else none
      else if escapes && c == '\\' then
        match newline? (skipSpace text) with
        | some later => multilineString? quote escapes limit (skipBreaks later)
        | none => do
            let (d, text) ← escape? text
            let (content, rest) ← multilineString? quote escapes limit text
            return (d :: content, rest)
      else
        match newline? (c :: text) with
        | some later => do
            let (content, rest) ← multilineString? quote escapes limit later
            return ('\n' :: content, rest)
        | none =>
            if isTextChar c then do
              let (content, rest) ← multilineString? quote escapes limit text
              return (c :: content, rest)
            else none

/-- A text without the newline at its front. -/
def dropNewline (text : Text) : Text :=
  (newline? text).getD text

/-- A string of any of the four kinds. -/
def string? : Text → Option (Text × Text)
  | '"' :: '"' :: '"' :: text => multilineString? '"' true (text.length + 1) (dropNewline text)
  | '\'' :: '\'' :: '\'' :: text =>
      multilineString? '\'' false (text.length + 1) (dropNewline text)
  | '"' :: text => basicString? (text.length + 1) text
  | '\'' :: text => literalString? text
  | _ => none

/-- Whether a character may stand in a key without quotes. -/
def isBareKeyChar (c : Char) : Bool :=
  c.isAlphanum || c == '_' || c == '-'

/-- A key without dots. -/
def simpleKey? : Text → Option (Text × Text)
  | '"' :: text => basicString? (text.length + 1) text
  | '\'' :: text => literalString? text
  | text =>
      match text.takeWhile isBareKeyChar with
      | [] => none
      | c :: key => some (c :: key, text.dropWhile isBareKeyChar)

/-- Neither the parts of a key nor the arrays and tables around a value may be this many. -/
def maxDepth : Nat := 80

/-- The parts of a key, and the text behind it and the space after it; `limit` bounds the number of
parts. -/
def keyParts? : Nat → Text → Option (List Text × Text)
  | 0, _ => none
  | limit + 1, text => do
      let (part, rest) ← simpleKey? (skipSpace text)
      match skipSpace rest with
      | '.' :: later =>
          let (parts, rest) ← keyParts? limit later
          return (part :: parts, rest)
      | rest => return ([part], rest)

/-- A key with or without dots, and the text behind it and the space after it. -/
def key? (text : Text) : Option (List Text × Text) :=
  (keyParts? (text.length + 1) text).filter fun (path, _) => path.length < maxDepth

/-- A word that is no string.  One space may separate a date from a time. -/
def word? (text : Text) : Option (Value × Text) :=
  let word := text.takeWhile isScalarChar
  let rest := text.drop word.length
  match rest with
  | ' ' :: later =>
      let clock := later.takeWhile isScalarChar
      if isDay word && isDate (word ++ ' ' :: clock) then
        some (.date, later.drop clock.length)
      else (scalar? word).map (·, rest)
  | _ => (scalar? word).map (·, rest)

mutual

/-- A value inside at most `depth` further arrays and tables; `limit` bounds the reading. -/
def value? : Nat → Nat → Text → Option (Value × Text)
  | 0, _, _ => none
  | limit + 1, depth, text =>
      match text, depth with
      | '[' :: inner, depth + 1 =>
          match skipLines inner.length inner with
          | ']' :: rest => some (.array [], rest)
          | inner => (items? limit depth inner).map fun (items, rest) => (.array items, rest)
      | '{' :: inner, depth + 1 =>
          match skipSpace inner with
          | '}' :: rest => some (.table [], rest)
          | inner => (pairs? limit depth [] inner).map fun (entries, rest) =>
              (.table (finishEntries entries), rest)
      | '"' :: _, _ => (string? text).map fun (content, rest) => (.text content, rest)
      | '\'' :: _, _ => (string? text).map fun (content, rest) => (.text content, rest)
      | _, _ => word? text

/-- The items of an array up to its closing bracket, at least one. -/
def items? : Nat → Nat → Text → Option (List Value × Text)
  | 0, _, _ => none
  | limit + 1, depth, text => do
      let (item, rest) ← value? limit depth text
      match skipLines rest.length rest with
      | ']' :: rest => return ([item], rest)
      | ',' :: rest =>
          match skipLines rest.length rest with
          | ']' :: rest => return ([item], rest)
          | later =>
              let (items, rest) ← items? limit depth later
              return (item :: items, rest)
      | _ => none

/-- The pairs of an inline table up to its closing brace, at least one, added to `entries`. -/
def pairs? : Nat → Nat → Entries → Text → Option (Entries × Text)
  | 0, _, _, _ => none
  | limit + 1, depth, entries, text => do
      let (path, rest) ← key? text
      match rest with
      | '=' :: behind =>
          let (value, rest) ← value? limit depth (skipSpace behind)
          let entries ← Entries.assign value true path entries
          match skipSpace rest with
          | '}' :: rest => return (entries, rest)
          | ',' :: later => pairs? limit depth entries later
          | _ => none
      | _ => none

end

/-- A statement at the front of a line. -/
def statement? : Text → Option (Statement × Text)
  | '[' :: '[' :: text => do
      let (path, rest) ← key? text
      match rest with
      | ']' :: ']' :: rest => return (.openElement path, rest)
      | _ => none
  | '[' :: text => do
      let (path, rest) ← key? text
      match rest with
      | ']' :: rest => return (.openTable path, rest)
      | _ => none
  | text => do
      let (path, rest) ← key? text
      match rest with
      | '=' :: behind =>
          let (value, rest) ← value? (2 * behind.length + 2) (maxDepth - 1) (skipSpace behind)
          return (.assign path value, rest)
      | _ => none

/-- The statements of a document; `limit` bounds the number of lines. -/
def statements? : Nat → Text → Option (List Statement)
  | 0, _ => none
  | limit + 1, text =>
      match skipLines text.length text with
      | [] => some []
      | c :: later => do
          let (statement, rest) ← statement? (c :: later)
          let behind := skipComment (skipSpace rest)
          match behind with
          | [] => return [statement]
          | _ =>
              let text ← newline? behind
              let statements ← statements? limit text
              return statement :: statements

/-- A document without the byte order mark at its front. -/
def dropMark : Text → Text
  | '\ufeff' :: text => text
  | text => text

/-- The table that a document defines. -/
def read? (text : Text) : Option Value :=
  (statements? (text.length + 1) (dropMark text)).bind ofStatements?

end Toml
end CHeader
