import Semijoin.Document.Datum
import Semijoin.Toml.Number

/-! # Bare TOML values

The values that are written without quotes or brackets: truth values, numbers,
dates and times. -/
set_option autoImplicit false
namespace Semijoin.Toml

def fixed? (width : Nat) (cs : List Char) : Option (Nat × List Char) :=
  let digits := cs.take width
  if digits.length = width && digits.all Char.isDigit then
    some (valueOf 10 digits, cs.drop width)
  else none

def daysIn (year month : Nat) : Nat :=
  if month = 2 then if year % 4 = 0 && (year % 100 != 0 || year % 400 = 0) then 29 else 28
  else if month = 4 || month = 6 || month = 9 || month = 11 then 30
  else 31

def afterDate? (cs : List Char) : Option (List Char) := do
  let (year, cs) ← fixed? 4 cs
  let '-' :: cs := cs | none
  let (month, cs) ← fixed? 2 cs
  let '-' :: cs := cs | none
  let (day, cs) ← fixed? 2 cs
  if 1 ≤ month && month ≤ 12 && 1 ≤ day && day ≤ daysIn year month then some cs else none

/-- Gives what follows the time of day; its seconds may be left out. -/
def afterTime? (cs : List Char) : Option (List Char) := do
  let (hour, cs) ← fixed? 2 cs
  let ':' :: cs := cs | none
  let (minute, cs) ← fixed? 2 cs
  if 24 ≤ hour || 60 ≤ minute then none
  let ':' :: cs := cs | some cs
  let (second, cs) ← fixed? 2 cs
  if 60 < second then none
  let '.' :: cs := cs | some cs
  if cs.head?.any Char.isDigit then some (cs.dropWhile Char.isDigit) else none

def isOffset : List Char → Bool
  | [] => true
  | [c] => c = 'Z' || c = 'z'
  | sign :: cs => (sign = '+' || sign = '-') &&
    match fixed? 2 cs with
    | some (hour, ':' :: cs) =>
      hour < 24 && (match fixed? 2 cs with
        | some (minute, []) => minute < 60
        | _ => false)
    | _ => false

def isMoment (cs : List Char) : Bool :=
  match afterDate? cs with
  | some [] => true
  | some (c :: cs) => (c = 'T' || c = 't' || c = ' ') && (afterTime? cs).any isOffset
  | none => afterTime? cs == some []

def bareValue? (cs : List Char) : Option Datum :=
  if cs = "true".toList then some (.bool true)
  else if cs = "false".toList then some (.bool false)
  else
    match integer? cs with
    | some n => some (.int n)
    | none =>
      if isNumber cs then some (.number (String.ofList cs))
      else if isMoment cs then some (.moment (String.ofList cs))
      else none

end Semijoin.Toml
