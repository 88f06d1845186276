import Semijoin.Sql.Column
import Semijoin.Sql.Literal

/-! # Queries

A query selects from one source the rows that meet an ordered list of clauses.
Each clause carries the connective that joins it to the clause before it, so
the connective of the first clause joins nothing.  A predicate may hold queries
of its own; a correlation ties a nested query to the row around it. -/
set_option autoImplicit false
namespace Semijoin

inductive Connective where
  | and | or
deriving DecidableEq, Repr

instance : Spelled Connective where
  values := [.and, .or]
  spelling
    | .and => "and"
    | .or => "or"

inductive Projection where
  | all
  | columns (cols : List Column)
  | rowCount
deriving DecidableEq, Repr

mutual

inductive Predicate where
  | compare (column : Column) (op : Comparison) (value : Literal)
  | isNull (column : Column)
  | isNotNull (column : Column)
  /-- The join of a nested query to the row around it. -/
  | correlate (outer inner : Column)
  | existence (query : Query) (negated : Bool)
  | membership (column : Column) (query : Query) (negated : Bool)
  | count (query : Query) (threshold : Threshold)
  | group (clauses : List Clause)

structure Clause where
  connective : Connective
  predicate : Predicate

structure Query where
  source : Source
  projection : Projection
  clauses : List Clause

end

namespace Predicate

def isCorrelation : Predicate → Bool
  | correlate .. => true
  | _ => false

/-- The query a predicate tests; a group tests none itself. -/
def subquery? : Predicate → Option Query
  | existence query _ | membership _ query _ | count query _ => some query
  | _ => none

end Predicate

namespace Query

def ofSource (source : Source) : Query := ⟨source, .all, []⟩

def ofTable (table : String) : Query := ofSource (.ofTable table)

def push (q : Query) (c : Clause) : Query := { q with clauses := q.clauses ++ [c] }

def conjoin (q : Query) (p : Predicate) : Query := q.push ⟨.and, p⟩

def disjoin (q : Query) (p : Predicate) : Query := q.push ⟨.or, p⟩

def select (q : Query) (columns : List Column) : Query := { q with projection := .columns columns }

def countRows (q : Query) : Query := { q with projection := .rowCount }

def isCorrelated (q : Query) : Bool := q.clauses.any (·.predicate.isCorrelation)

end Query

/-- The first clause follows nothing, so its connective is `and`. -/
def Clause.leadWithAnd : List Clause → List Clause
  | [] => []
  | c :: rest => { c with connective := .and } :: rest

/-- Cuts the query loose from the row around it: its own correlations go, those
inside groups and nested queries stay.  Also says how many went. -/
def Query.decorrelate (q : Query) : Nat × Query :=
  let kept := q.clauses.filter (!·.predicate.isCorrelation)
  (q.clauses.length - kept.length, { q with clauses := Clause.leadWithAnd kept })

mutual

/-- How many queries nest along the first chain: at each level the first clause
that tests a query leads on. -/
def Query.depth : Query → Nat
  | ⟨_, _, clauses⟩ => Clause.chainDepth clauses

def Clause.chainDepth : List Clause → Nat
  | [] => 0
  | ⟨_, .existence q _⟩ :: _ => q.depth + 1
  | ⟨_, .membership _ q _⟩ :: _ => q.depth + 1
  | ⟨_, .count q _⟩ :: _ => q.depth + 1
  | _ :: rest => Clause.chainDepth rest

end

end Semijoin
