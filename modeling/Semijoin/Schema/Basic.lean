import Semijoin.Existence.Attach

/-! # Schemas

A schema is a catalog of models, so that each is found by its own name; a later
model replaces an earlier one.  Whatever is looked up or compiled is so in the
schema's graph.  A model's mode is written once: a second writing fails, even of
the same mode, and is noted as a failure of the model; a name without a model is
refused without a note. -/
set_option autoImplicit false
namespace Semijoin

universe u

structure Schema where
  models : Catalog Model Model.name

namespace Schema

def empty : Schema := ⟨∅⟩

def insert (s : Schema) (m : Model) : Schema := ⟨s.models.insert m⟩

/-- Inserts a model, and says which one it replaced. -/
def replace (s : Schema) (m : Model) : Option Model × Schema :=
  (s.models.find? m.name, s.insert m)

def model? (s : Schema) (name : String) : Option Model := s.models.find? name

def graph (s : Schema) : Graph := ⟨s.model?⟩

@[simp] theorem graph_model? (s : Schema) (name : String) : s.graph.model? name = s.model? name :=
  rfl

theorem keepsNames (s : Schema) : s.graph.KeepsNames := fun _ _ h => Catalog.key_of_find? h

abbrev model (s : Schema) (name : String) : Except FilterError Model := s.graph.model name

abbrev relation (s : Schema) (model name : String) : Except FilterError Relation :=
  s.graph.relation model name

abbrev attach {τ : Type u} [Filterable τ] (s : Schema) (target : τ) (model : String)
    (outer : Source) (c : Condition) (mode : Mode) : Outcome τ :=
  s.graph.attach target model outer c mode

def modeOf (s : Schema) (model : String) : Option Mode := (s.model? model).bind Model.mode

def setMode (s : Schema) (name : String) (mode : Mode) : Outcome Schema :=
  match s.model name with
  | .error e => { target := s, error? := some e }
  | .ok m =>
    match m.fixMode mode with
    | .ok fixed => { target := s.insert fixed }
    | .error e => { target := s, error? := some e, journal := [.event (.failed m.name e.toClass)] }

end Schema
end Semijoin
