import CHeader.Text.Blank

/-!
# Integer literals

A literal is an optional sign and a numeral, with blanks around them.  The numeral is hexadecimal
behind `0x`, octal behind `0o` or a leading zero, binary behind `0b`, and decimal otherwise; the
letters may be of either case.  The digits are added up in a signed 128-bit integer, and a literal
has a value if that lies in the range of the signed or of the unsigned 64-bit integers.
-/

namespace CHeader
namespace IntLiteral

/-- The value of an ASCII digit or of a letter that serves as one; other characters count as 36. -/
def digitValue (c : Char) : Nat :=
  if '0' ≤ c ∧ c ≤ '9' then c.toNat - '0'.toNat
  else if 'a' ≤ c ∧ c ≤ 'z' then c.toNat - 'a'.toNat + 10
  else if 'A' ≤ c ∧ c ≤ 'Z' then c.toNat - 'A'.toNat + 10
  else 36

/-- Whether a character is a digit of the base. -/
def isDigit (base : Nat) (c : Char) : Bool :=
  digitValue c < base

/-- The number that digits denote, the most significant first. -/
def ofDigits (base : Nat) (digits : Text) : Nat :=
  digits.foldl (fun value digit => value * base + digitValue digit) 0

/-- The first natural number that is not a signed 128-bit integer. -/
def limit : Nat :=
  0x80000000000000000000000000000000

/-- A natural number as a signed 128-bit integer, if it is one. -/
def checked (n : Nat) : Option Nat :=
  if n < limit then some n else none

/-- The number that one more digit makes, with a check for overflow after either operation. -/
def addDigit? (base value : Nat) (digit : Char) : Option Nat := do
  let product ← checked (value * base)
  checked (product + digitValue digit)

/-- The number that digits denote, unless it overflows on the way. -/
def accumulate? (base : Nat) (digits : Text) : Option Nat :=
  digits.foldlM (addDigit? base) 0

/-- Whether a number is negative as its sign says, and the numeral. -/
def splitSign : Text → Bool × Text
  | '-' :: numeral => (true, numeral)
  | '+' :: numeral => (false, numeral)
  | numeral => (false, numeral)

/-- The base that the front of a numeral announces, and the digits. -/
def splitBase : Text → Nat × Text
  | '0' :: c :: digits =>
      if c = 'x' ∨ c = 'X' then (16, digits)
      else if c = 'o' ∨ c = 'O' then (8, digits)
      else if c = 'b' ∨ c = 'B' then (2, digits)
      else (8, c :: digits)
  | digits => (10, digits)

/-- The value of a numeral without sign. -/
def numeral? (numeral : Text) : Option Nat :=
  let (base, digits) := splitBase numeral
  if !digits.isEmpty && digits.all (isDigit base) then accumulate? base digits else none

/-- Whether a value is a signed or an unsigned 64-bit integer. -/
def InRange (value : Int) : Prop :=
  -0x8000000000000000 ≤ value ∧ value < 0x10000000000000000

instance (value : Int) : Decidable (InRange value) :=
  inferInstanceAs (Decidable (_ ∧ _))

/-- The value of a literal. -/
def parse? (text : Text) : Option Int :=
  let (negative, numeral) := splitSign (Text.trim text)
  match numeral? numeral with
  | none => none
  | some magnitude =>
      let value : Int := if negative then -(magnitude : Int) else magnitude
      if InRange value then some value else none

end IntLiteral
end CHeader
