import Semijoin.Journal.Entry

/-! # Attaching a condition

A call leaves an outcome: a failure is reported, and the target it was called on
is handed back either way.  A condition that compiles is attached to its target
in one step; one that does not leaves the target as it was.  Either way the
journal opens with the start and tells how it went. -/
set_option autoImplicit false
namespace Semijoin

universe u

structure Outcome (τ : Type u) where
  target : τ
  error? : Option FilterError := none
  journal : List Entry := []

namespace Outcome

variable {τ : Type u}

def map {σ : Type u} (o : Outcome τ) (f : τ → σ) : Outcome σ := ⟨f o.target, o.error?, o.journal⟩

def events (o : Outcome τ) : List Event := o.journal.filterMap Entry.event?

end Outcome

def Graph.attach {τ : Type u} [Filterable τ] (g : Graph) (target : τ) (model : String)
    (outer : Source) (c : Condition) (mode : Mode) : Outcome τ :=
  match g.compile model outer c mode with
  | .ok compiled =>
    { target := compiled.filter.attach target c.connective
      error? := none
      journal := .event (.started model) :: compiled.hops.flatMap Entry.ofHop }
  | .error e =>
    { target
      error? := some e
      journal := [.event (.started model), .rejected c.path.render model e,
        .event (.failed model e.toClass)] }

end Semijoin
