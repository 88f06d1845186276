import Semijoin.Schema.Basic

/-! # Selections

A selection is a query on the rows of one model, filtered call by call.  Calls
ask for related rows, by a path or by a whole condition, add plain predicates,
or set the mode of the calls that follow.  A call that fails leaves the
selection as it was. -/
set_option autoImplicit false
namespace Semijoin

structure Selection where
  model : String
  query : Query
  mode : Option Mode := none

/-- The short ways to ask for related rows.  Those that lack ask for no row; the
last two are asked by membership, whatever the mode. -/
inductive Request where
  | has (threshold : Threshold)
  | orHas (threshold : Threshold)
  | lacks
  | orLacks
  | hasWhere (constraint : Constraint)
  | orHasWhere (constraint : Constraint)
  | lacksWhere (constraint : Constraint)
  | hasIn (constraint : Option Constraint) (threshold : Threshold)
  | lacksIn (constraint : Option Constraint)

namespace Request

/-- What `hasIn` asks, and `lacksIn` for no row: by membership, whatever the mode. -/
def conditionIn (path : Path) (constraint : Option Constraint) (threshold : Threshold) :
    Condition :=
  { ((Condition.along path).withThreshold threshold).inMode .membership with constraint }

def condition (path : Path) : Request → Condition
  | has threshold => (Condition.along path).withThreshold threshold
  | orHas threshold => ((Condition.along path).withThreshold threshold).orElse
  | lacks => (Condition.along path).withThreshold .none
  | orLacks => ((Condition.along path).withThreshold .none).orElse
  | hasWhere constraint => (Condition.along path).constrain constraint
  | orHasWhere constraint => ((Condition.along path).constrain constraint).orElse
  | lacksWhere constraint => ((Condition.along path).withThreshold .none).constrain constraint
  | hasIn constraint threshold => conditionIn path constraint threshold
  | lacksIn constraint => conditionIn path constraint .none

end Request

inductive Call where
  | request (path : String) (request : Request)
  /-- A condition as it was made: one that could not be made is reported, and
  noted nowhere. -/
  | existence (condition : Except FilterError Condition)
  | filter (predicate : Predicate)
  | orFilter (predicate : Predicate)
  | setMode (mode : Mode)
  | clearMode

namespace Selection

def ofModel (s : Schema) (model : String) : Except FilterError Selection := do
  let m ← s.model model
  return { model := m.name, query := .ofTable m.table }

/-- The mode of a call that brings none of its own. -/
def currentMode (sel : Selection) (s : Schema) : Mode :=
  .inForce none sel.mode (s.modeOf sel.model)

def filterBy (sel : Selection) (s : Schema) (c : Condition) : Outcome Selection :=
  let mode := .inForce c.mode sel.mode (s.modeOf sel.model)
  (s.attach sel.query sel.model sel.query.source c mode).map fun query => { sel with query }

/-- A malformed path is refused before anything is compiled, and noted like a
failed compilation. -/
def refuse (sel : Selection) (path : String) (e : FilterError) : Outcome Selection where
  target := sel
  error? := some e
  journal := [.rejected path sel.model e, .event (.started sel.model),
    .event (.failed sel.model e.toClass)]

def call (sel : Selection) (s : Schema) : Call → Outcome Selection
  | .request path request =>
    match Path.parse path with
    | .ok parsed => sel.filterBy s (request.condition parsed)
    | .error e => sel.refuse path e
  | .existence (.ok condition) => sel.filterBy s condition
  | .existence (.error e) => { target := sel, error? := some e }
  | .filter p => { target := { sel with query := sel.query.conjoin p } }
  | .orFilter p => { target := { sel with query := sel.query.disjoin p } }
  | .setMode mode => { target := { sel with mode := some mode } }
  | .clearMode => { target := { sel with mode := none } }

end Selection
end Semijoin
