import Semijoin.Text.Reading

/-! # TOML numbers

Whole numbers in four bases, and numbers with a fraction or an exponent.
Underscores group the digits of a number.  The reading is loose in two places:
the digits behind the mark of a base may be missing, and the last group of a
decimal number may go on with anything.  A number that has no value because of
that is still a number (`isNumber`), but no whole one (`integer?`). -/
set_option autoImplicit false
namespace Semijoin.Toml

def isDigitOf (base : Nat) (c : Char) : Bool :=
  c.isDigit && c.toNat - '0'.toNat < base ||
    base == 16 && ('a' ≤ c && c ≤ 'f' || 'A' ≤ c && c ≤ 'F')

def digitValue (c : Char) : Nat :=
  if c.isDigit then c.toNat - '0'.toNat
  else if c ≤ 'F' then c.toNat - 'A'.toNat + 10
  else c.toNat - 'a'.toNat + 10

def valueOf (base : Nat) (digits : List Char) : Nat :=
  digits.foldl (fun n c => n * base + digitValue c) 0

/-- Cuts off a sign; it is true for a minus. -/
def signed : List Char → Bool × List Char
  | '-' :: cs => (true, cs)
  | '+' :: cs => (false, cs)
  | cs => (false, cs)

/-! ## Groups -/

def isDigits (base : Nat) (cs : List Char) : Bool := cs.all fun c => isDigitOf base c || c == '_'

def ungrouped (cs : List Char) : List Char := cs.filter (· != '_')

/-- Whether each underscore stands between two digits. -/
def isGrouped (isDigit : Char → Bool) : List Char → Bool
  | [] => true
  | '_' :: _ => false
  | c :: '_' :: cs => isDigit c && cs.head?.any isDigit && isGrouped isDigit cs
  | _ :: cs => isGrouped isDigit cs

def hasLeadingZero : List Char → Bool
  | '0' :: c :: _ => c.isDigit || c == '_'
  | _ => false

/-! ## Whole numbers -/

def based? (base : Nat) (cs : List Char) : Option Nat :=
  if !cs.isEmpty && isDigits base cs && isGrouped (isDigitOf base) cs then
    some (valueOf base (ungrouped cs))
  else none

def decimal? (cs : List Char) : Option Int :=
  let (negative, digits) := signed cs
  if !digits.isEmpty && isDigits 10 digits && !hasLeadingZero digits &&
      isGrouped Char.isDigit cs then
    let n := valueOf 10 (ungrouped digits)
    some (if negative then -n else n)
  else none

def integer? : List Char → Option Int
  | '0' :: 'x' :: cs => Int.ofNat <$> based? 16 cs
  | '0' :: 'o' :: cs => Int.ofNat <$> based? 8 cs
  | '0' :: 'b' :: cs => Int.ofNat <$> based? 2 cs
  | cs => decimal? cs

/-! ## Other numbers -/

def isReal (cs : List Char) : Bool :=
  let size := (signed cs).2
  if size = "inf".toList || size = "nan".toList then true
  else
    let (mantissa, exponents) := Text.splitAll 'e' (size.map fun c => if c = 'E' then 'e' else c)
    let (whole, fractions) := Text.splitAll '.' mantissa
    let isPart cs := cs.any Char.isDigit && isDigits 10 cs
    isPart whole && 0 < fractions.length + exponents.length &&
      fractions.length ≤ 1 && exponents.length ≤ 1 &&
      fractions.all isPart && exponents.all (fun e => isPart (signed e).2) &&
      !hasLeadingZero size && isGrouped Char.isDigit cs

/-- A decimal number in groups of which the last may go on with anything but what
makes another kind of value; a group may also start and end with a hexadecimal
digit. -/
def isLoose (cs : List Char) : Bool :=
  let size := (signed cs).2
  (size.dropWhile Char.isDigit).head? == some '_' && !hasLeadingZero size &&
    !size.any [' ', '.', 'e', 'E'].contains && isGrouped (isDigitOf 16) cs

def baseMarks : List (List Char) := ["0x".toList, "0o".toList, "0b".toList]

def isNumber (cs : List Char) : Bool := isReal cs || isLoose cs || baseMarks.contains cs

end Semijoin.Toml
