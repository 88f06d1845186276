import Semijoin.Existence.Condition
import Semijoin.Existence.Filter
import Semijoin.Schema.Graph

/-! # Compiling a condition

A path `a.b.c` becomes three nested queries: `a` and `b` ask for at least one
row, `c` carries the caller's threshold and constraint.  The nest is built from
the inside out, before anything is attached, so a failing hop leaves no trace.
The first failing hop decides the failure: each one looks up its model and
relation, then the relation's kind, then the related model. -/
set_option autoImplicit false
namespace Semijoin

structure HopReport where
  index : Nat
  relation : Relation
  threshold : Threshold
  choice : Choice

/-- A compiled hop, with the reports of the hops nested in it and its own, the
innermost first. -/
structure Compiled where
  filter : Filter
  hops : List HopReport

def Relation.keys (r : Relation) : Except FilterError (String × String) :=
  if r.kind.hasKeyPair then .ok (r.parentKey, r.relatedKey)
  else .error (.unsupportedKind r.name r.kind)

/-- The source of a hop; a hop back to the table it is nested in is labelled by
its index. -/
def Source.nested (outer : Source) (table : String) (index : Nat) : Source :=
  if table = outer.table then .labelled table (table ++ "_hop" ++ toString index)
  else .ofTable table

/-- The constraint is given a fresh query, so that no `or` of its own reaches past
the join. -/
def Query.constrain (q : Query) (constraint : Constraint) : Query :=
  q.merge (constraint (.ofSource q.source)).clauses

structure Hop where
  index : Nat
  relation : Relation
  related : Model
  source : Source
  join : Join

namespace Hop

def joined (h : Hop) : Query :=
  (Query.ofSource h.source).conjoin (.correlate h.join.outer h.join.inner)

def close (h : Hop) (mode : Mode) (threshold : Threshold) (query : Query) (inner : List HopReport) :
    Compiled :=
  let choice := threshold.choice mode
  { filter := .ofChoice choice (query.merge h.relation.constraints) h.join threshold
    hops := inner ++ [⟨h.index, h.relation, threshold, choice⟩] }

def last (h : Hop) (mode : Mode) (c : Condition) : Compiled :=
  h.close mode c.threshold (c.constraint.elim h.joined h.joined.constrain) []

/-- A hop before the last asks for one row that the next hop accepts. -/
def around (h : Hop) (mode : Mode) (inner : Compiled) : Compiled :=
  h.close mode .any (inner.filter.attach h.joined .and) inner.hops

end Hop

namespace Graph

def hop (g : Graph) (index : Nat) (model : String) (outer : Source) (segment : String) :
    Except FilterError Hop := do
  let relation ← g.relation model segment
  let (parentKey, relatedKey) ← relation.keys
  let related ← g.model relation.related
  let source := outer.nested related.table index
  return { index, relation, related, source,
           join := ⟨outer.column parentKey, source.column relatedKey⟩ }

def compileFrom (g : Graph) (c : Condition) (mode : Mode) (index : Nat) (model : String)
    (outer : Source) (segment : String) : List String → Except FilterError Compiled
  | [] => do
    let h ← g.hop index model outer segment
    return h.last mode c
  | next :: rest => do
    let h ← g.hop index model outer segment
    let inner ← g.compileFrom c mode (index + 1) h.related.name h.source next rest
    return h.around mode inner

def compile (g : Graph) (model : String) (outer : Source) (c : Condition) (mode : Mode) :
    Except FilterError Compiled :=
  g.compileFrom c mode 0 model outer c.path.first c.path.rest

end Graph
end Semijoin
