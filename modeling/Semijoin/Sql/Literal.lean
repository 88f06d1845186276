import Semijoin.Text.Quoted
import Semijoin.Text.Reading

/-! # Literals, comparisons and thresholds

A literal integer is a signed or an unsigned 64-bit word; both print as decimal
numbers, and they are different literals even when they print alike.  A
threshold bounds a number of rows. -/
set_option autoImplicit false
namespace Semijoin

inductive Literal where
  | null
  | bool (value : Bool)
  | int (value : Int64)
  | uint (value : UInt64)
  | text (value : String)
deriving DecidableEq, Repr

namespace Literal

def render : Literal → String
  | null => "NULL"
  | bool true => "true"
  | bool false => "false"
  | int value => toString value.toInt
  | uint value => toString value.toNat
  | text value => Text.quote value

/-- The literal for a whole number: signed where it fits, else unsigned. -/
def ofInt? (n : Int) : Option Literal :=
  if Int64.minValue.toInt ≤ n ∧ n ≤ Int64.maxValue.toInt then some (int (.ofInt n))
  else if 0 ≤ n ∧ n < UInt64.size then some (uint (.ofNat n.toNat))
  else none

end Literal

inductive Comparison where
  | eq | ne | lt | le | gt | ge
deriving DecidableEq, Repr

instance : Spelled Comparison where
  values := [.eq, .ne, .lt, .le, .gt, .ge]
  spelling
    | .eq => "="
    | .ne => "<>"
    | .lt => "<"
    | .le => "<="
    | .gt => ">"
    | .ge => ">="

/-- How a number of rows is held against a count. -/
inductive Bound where
  | atLeast | moreThan | exactly | fewerThan | atMost
deriving DecidableEq, Repr

instance : Spelled Bound where
  values := [.atLeast, .moreThan, .exactly, .fewerThan, .atMost]
  spelling
    | .atLeast => ">="
    | .moreThan => ">"
    | .exactly => "="
    | .fewerThan => "<"
    | .atMost => "<="

structure Threshold where
  bound : Bound
  count : UInt64
deriving DecidableEq, Repr

namespace Threshold

/-- At least one row. -/
def any : Threshold := ⟨.atLeast, 1⟩

/-- No row. -/
def none : Threshold := ⟨.fewerThan, 1⟩

def render (t : Threshold) : String := spelling t.bound ++ " " ++ toString t.count.toNat

def Holds (t : Threshold) (rows : Nat) : Prop :=
  match t.bound with
  | .atLeast => t.count.toNat ≤ rows
  | .moreThan => t.count.toNat < rows
  | .exactly => rows = t.count.toNat
  | .fewerThan => rows < t.count.toNat
  | .atMost => rows ≤ t.count.toNat

instance (t : Threshold) (rows : Nat) : Decidable (t.Holds rows) := by
  unfold Holds; split <;> infer_instance

end Threshold
end Semijoin
