import CHeader.IntLiteral
import CHeader.Toml

/-!
# Scalars of TOML

Numbers, booleans and dates are words without quotes.  Integers are decimal without leading zeros,
or hexadecimal, octal or binary behind a prefix; digits may be grouped by single low lines.  They
have to fit into 64 bits with a sign.
-/

namespace CHeader
namespace Toml

/-- Whether a character may be part of a word. -/
def isScalarChar (c : Char) : Bool :=
  c.isAlphanum || c == '+' || c == '-' || c == '_' || c == '.' || c == ':'

/-- Digits of a base without the low lines between them.  A low line needs a digit on both
sides. -/
def ungroup? (base : Nat) : Text → Option Text
  | [] => none
  | [c] => if IntLiteral.isDigit base c then some [c] else none
  | c :: '_' :: d :: text =>
      if IntLiteral.isDigit base c then (ungroup? base (d :: text)).map (c :: ·) else none
  | c :: text => if IntLiteral.isDigit base c then (ungroup? base text).map (c :: ·) else none

/-- The value of digits of a base. -/
def digitsValue? (base : Nat) (text : Text) : Option Int :=
  (ungroup? base text).map fun digits => (IntLiteral.ofDigits base digits : Int)

/-- Decimal digits without leading zeros. -/
def decimal? (text : Text) : Option Text :=
  match ungroup? 10 text with
  | some ('0' :: _ :: _) => none
  | digits => digits

/-- The value of an unlimited integer. -/
def anyInteger? : Text → Option Int
  | '0' :: 'x' :: digits => digitsValue? 16 digits
  | '0' :: 'o' :: digits => digitsValue? 8 digits
  | '0' :: 'b' :: digits => digitsValue? 2 digits
  | '-' :: digits => (decimal? digits).map fun digits => -(IntLiteral.ofDigits 10 digits : Int)
  | '+' :: digits => (decimal? digits).map fun digits => IntLiteral.ofDigits 10 digits
  | digits => (decimal? digits).map fun digits => IntLiteral.ofDigits 10 digits

/-- The value of an integer that fits. -/
def integer? (text : Text) : Option Int :=
  (anyInteger? text).filter fun n => -0x8000000000000000 ≤ n && n < 0x8000000000000000

/-- A word without its sign. -/
def unsigned : Text → Text
  | '-' :: text => text
  | '+' :: text => text
  | text => text

/-- The value of an exponent behind its letter. -/
def exponent? : Text → Option Int
  | '-' :: digits => (digitsValue? 10 digits).map (- ·)
  | '+' :: digits => digitsValue? 10 digits
  | digits => digitsValue? 10 digits

/-- The decimal digits of a floating-point number without its sign, and the power of ten that they
count.  A number has a fraction or an exponent or both. -/
def scientific? (text : Text) : Option (Text × Int) := do
  let mantissa := text.takeWhile fun c => c != 'e' && c != 'E'
  let power := text.drop mantissa.length
  let exponent ← if power.isEmpty then some 0 else exponent? (power.drop 1)
  match Text.cut? '.' mantissa with
  | some (whole, fraction) =>
      let whole ← decimal? whole
      let fraction ← ungroup? 10 fraction
      return (whole ++ fraction, exponent - fraction.length)
  | none => if power.isEmpty then none else (decimal? mantissa).map (·, exponent)

/-- The least number that is rounded to infinity in 64 bits: it lies halfway between the largest
finite number and the next power of two. -/
def overflow : Nat := Nat.pow 2 1024 - Nat.pow 2 970

/-- Whether a number counted in a power of ten is too large for 64 bits.  With its leading zeros
dropped, such a number has at least 309 digits before its point, and with more it is too large. -/
def overflows (digits : Text) (exponent : Int) : Bool :=
  let digits := digits.dropWhile (· == '0')
  let size := digits.length + exponent
  if digits.isEmpty || size < 309 then false
  else if 309 < size then true
  else overflow * Nat.pow 10 (-exponent).toNat ≤
    IntLiteral.ofDigits 10 digits * Nat.pow 10 exponent.toNat

/-- Whether a word is a floating-point number.  A positive one has to fit; a negative one that does
not fit is infinite. -/
def isFloat (text : Text) : Bool :=
  let body := unsigned text
  if body == "inf".toList || body == "nan".toList then true
  else
    match scientific? body with
    | some (digits, exponent) => text.head? == some '-' || !overflows digits exponent
    | none => false

/-- The number that exactly `count` decimal digits denote. -/
def fixed? (count : Nat) (text : Text) : Option Nat :=
  if text.length == count && text.all (IntLiteral.isDigit 10) then
    some (IntLiteral.ofDigits 10 text)
  else none

/-- The number of days of a month. -/
def daysOfMonth (year month : Nat) : Nat :=
  if month = 2 then
    if year % 4 = 0 && (year % 100 ≠ 0 || year % 400 = 0) then 29 else 28
  else if month = 4 || month = 6 || month = 9 || month = 11 then 30
  else 31

/-- Whether a text is a calendar date. -/
def isDay (text : Text) : Bool :=
  match text.splitOn '-' with
  | [year, month, day] =>
      match fixed? 4 year, fixed? 2 month, fixed? 2 day with
      | some year, some month, some day =>
          1 ≤ month && month ≤ 12 && 1 ≤ day && day ≤ daysOfMonth year month
      | _, _, _ => false
  | _ => false

/-- Whether a text is a number of seconds, possibly with a fraction. -/
def isSeconds (text : Text) : Bool :=
  let whole := text.takeWhile (· != '.')
  let fraction := text.drop whole.length
  ((fixed? 2 whole).any fun seconds => seconds ≤ 60) &&
    (fraction.isEmpty ||
      (1 < fraction.length && (fraction.drop 1).all (IntLiteral.isDigit 10)))

/-- Whether a text is a time of day. -/
def isTime (text : Text) : Bool :=
  match text.splitOn ':' with
  | [hour, minute, seconds] =>
      match fixed? 2 hour, fixed? 2 minute with
      | some hour, some minute => hour ≤ 23 && minute ≤ 59 && isSeconds seconds
      | _, _ => false
  | _ => false

/-- Whether a text is an offset from universal time. -/
def isOffset : Text → Bool
  | [] => true
  | ['Z'] => true
  | ['z'] => true
  | sign :: text =>
      (sign == '+' || sign == '-') &&
        match text.splitOn ':' with
        | [hour, minute] =>
            match fixed? 2 hour, fixed? 2 minute with
            | some hour, some minute => hour ≤ 23 && minute ≤ 59
            | _, _ => false
        | _ => false

/-- Whether a text is a date, a time, or both with or without an offset. -/
def isDate (text : Text) : Bool :=
  let day := text.take 10
  match text.drop 10 with
  | [] => isDay text || isTime text
  | mark :: clock =>
      let time := clock.takeWhile fun c => IntLiteral.isDigit 10 c || c == ':' || c == '.'
      (isDay day && (mark == 'T' || mark == 't' || mark == ' ') && isTime time &&
        isOffset (clock.drop time.length)) || isTime text

/-- The value of a word. -/
def scalar? (text : Text) : Option Value :=
  if text == "true".toList then some (.boolean true)
  else if text == "false".toList then some (.boolean false)
  else
    match integer? text with
    | some n => some (.integer n)
    | none => if isFloat text then some .float else if isDate text then some .date else none

end Toml
end CHeader
