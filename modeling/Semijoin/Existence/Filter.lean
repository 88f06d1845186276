import Semijoin.Existence.Strategy
import Semijoin.Sql.Filterable

/-! # Filters

One compiled hop, ready to be attached to the query around it.  The hop's query
arrives correlated: existence and count keep that, membership cuts it loose and
selects the inner key instead. -/
set_option autoImplicit false
namespace Semijoin

universe u

/-- The columns a hop joins by: one of the row around it, one of its own row. -/
structure Join where
  outer : Column
  inner : Column
deriving DecidableEq, Repr

inductive Filter where
  | existence (query : Query) (negated : Bool)
  | membership (outer : Column) (query : Query) (negated : Bool)
  | count (query : Query) (threshold : Threshold)

namespace Filter

/-- The filter of a chosen form over a hop's query. -/
def ofChoice (choice : Choice) (query : Query) (join : Join) (threshold : Threshold) : Filter :=
  match choice.strategy with
  | .existence => existence query choice.negated
  | .membership => membership join.outer (query.decorrelate.2.select [join.inner]) choice.negated
  | .count => count query.countRows threshold

def predicate : Filter → Predicate
  | existence query negated => .existence query negated
  | membership outer query negated => .membership outer query negated
  | count query threshold => .count query threshold

def query : Filter → Query
  | existence query _ | membership _ query _ | count query _ => query

def attach {τ : Type u} [Filterable τ] (f : Filter) (target : τ) (connective : Connective) : τ :=
  match f with
  | existence query negated => Filterable.addExistence target query connective negated
  | membership outer query negated =>
    Filterable.addMembership target outer query connective negated
  | count query threshold => Filterable.addCount target query threshold connective

/-- Attached to a query, a filter is one clause at the end. -/
theorem attach_query (f : Filter) (q : Query) (k : Connective) :
    f.attach q k = q.push ⟨k, f.predicate⟩ := by
  cases f with
  | existence query negated => rfl
  | membership outer query negated => rfl
  | count query threshold => rfl

end Filter
end Semijoin
