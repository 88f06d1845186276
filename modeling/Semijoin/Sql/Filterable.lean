import Semijoin.Sql.Query

/-! # Filter targets

What a compiled filter needs of the thing it is attached to.  A query takes
every filter as one clause at its end.  Clauses merged into a query are always
and-ed with what is there: a list with an `or` in it is merged as one group, so
that the `or` cannot reach past the clauses before it. -/
set_option autoImplicit false
namespace Semijoin

universe u

class Filterable (τ : Type u) where
  addExistence (target : τ) (query : Query) (connective : Connective) (negated : Bool) : τ
  addMembership (target : τ) (outer : Column) (query : Query) (connective : Connective)
    (negated : Bool) : τ
  addCount (target : τ) (query : Query) (threshold : Threshold) (connective : Connective) : τ
  merge (target : τ) (clauses : List Clause) : τ

namespace Query

def merge (q : Query) : List Clause → Query
  | [] => q
  | [c] => q.conjoin c.predicate
  | clauses =>
    if clauses.all (·.connective = .and) then { q with clauses := q.clauses ++ clauses }
    else q.conjoin (.group clauses)

instance : Filterable Query where
  addExistence q query connective negated := q.push ⟨connective, .existence query negated⟩
  addMembership q outer query connective negated :=
    q.push ⟨connective, .membership outer query negated⟩
  addCount q query threshold connective := q.push ⟨connective, .count query threshold⟩
  merge := merge

end Query
end Semijoin
