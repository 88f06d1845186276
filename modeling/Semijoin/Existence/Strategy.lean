import Semijoin.Sql.Literal

/-! # Strategies

Whether related rows exist can be asked in two modes, by existence of a
correlated subquery or by membership in a decorrelated one; any other threshold
has to count.  A call's mode is the first that is set of the call's own, the
selection's and the model's, and existence if none is. -/
set_option autoImplicit false
namespace Semijoin

inductive Mode where
  | existence | membership
deriving DecidableEq, Repr

instance : Spelled Mode where
  values := [.existence, .membership]
  spelling
    | .existence => "exists"
    | .membership => "in"

def Mode.inForce (call selection model : Option Mode) : Mode :=
  (call.or (selection.or model)).getD .existence

inductive Strategy where
  | count | existence | membership
deriving DecidableEq, Repr

def Strategy.name : Strategy → String
  | .count => "count"
  | .existence => "exists"
  | .membership => "in"

def Mode.strategy : Mode → Strategy
  | .existence => .existence
  | .membership => .membership

structure Choice where
  strategy : Strategy
  negated : Bool
deriving DecidableEq, Repr

/-- At least one row and no row take the mode's form, the latter negated. -/
def Threshold.choice (t : Threshold) (mode : Mode) : Choice :=
  if t = .any then ⟨mode.strategy, false⟩
  else if t = .none then ⟨mode.strategy, true⟩
  else ⟨.count, false⟩

end Semijoin
