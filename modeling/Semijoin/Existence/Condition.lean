import Semijoin.Existence.Path
import Semijoin.Existence.Strategy
import Semijoin.Text.Quoted

/-! # Existence conditions

"Has so many related rows along a path": the threshold and the constraint
concern the rows at the path's end.  A constraint is what the caller does to a
fresh query over those rows.  A condition is built from its path by saying what
differs from the common case. -/
set_option autoImplicit false
namespace Semijoin

abbrev Constraint := Query → Query

@[ext] structure Condition where
  path : Path
  threshold : Threshold := .any
  constraint : Option Constraint := none
  connective : Connective := .and
  /-- Goes before the modes of the selection and the model. -/
  mode : Option Mode := none

namespace Condition

/-! ## Building a condition -/

def along (path : Path) : Condition := { path }

def withThreshold (c : Condition) (threshold : Threshold) : Condition := { c with threshold }

def constrain (c : Condition) (constraint : Constraint) : Condition :=
  { c with constraint := some constraint }

def joinedBy (c : Condition) (connective : Connective) : Condition := { c with connective }

def orElse (c : Condition) : Condition := c.joinedBy .or

def inMode (c : Condition) (mode : Mode) : Condition := { c with mode := some mode }

/-! ## Conditions in diagnostics -/

def boundName : Bound → String
  | .atLeast => "Gte"
  | .moreThan => "Gt"
  | .exactly => "Eq"
  | .fewerThan => "Lt"
  | .atMost => "Lte"

def connectiveName : Connective → String
  | .and => "And"
  | .or => "Or"

end Condition

/-- An optional mode as diagnostics write it. -/
def Mode.display : Option Mode → String
  | none => "None"
  | some .existence => "Some(Exists)"
  | some .membership => "Some(In)"

/-- The condition as diagnostics write it; of the constraint only whether there
is one. -/
def Condition.display (c : Condition) : String :=
  "ExistenceCondition \x7b path: RelationPath([" ++
    ", ".intercalate (c.path.segments.map Text.display) ++
    "]), op: " ++ boundName c.threshold.bound ++
    ", count: " ++ toString c.threshold.count.toNat ++
    ", constraint: " ++ (if c.constraint.isSome then "true" else "false") ++
    ", conjunction: " ++ connectiveName c.connective ++
    ", mode: " ++ Mode.display c.mode ++ " \x7d"

end Semijoin
