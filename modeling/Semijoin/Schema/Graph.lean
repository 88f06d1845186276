import Semijoin.Catalog
import Semijoin.Existence.Strategy
import Semijoin.FilterError

/-! # Models and graphs

A model is a catalog of relations; a later relation replaces an earlier one of
its name.  A graph finds models by name, and all else that is looked up in it
comes down to that.  A look-up that fails says which name was missing. -/
set_option autoImplicit false
namespace Semijoin

structure Model where
  name : String
  table : String
  relations : Catalog Relation Relation.name
  mode : Option Mode

namespace Model

def ofTable (name table : String) : Model := ⟨name, table, ∅, none⟩

def declare (m : Model) (r : Relation) : Model := { m with relations := m.relations.insert r }

def inMode (m : Model) (mode : Mode) : Model := { m with mode := some mode }

def relation? (m : Model) (name : String) : Option Relation := m.relations.find? name

/-- Sets the mode of a model that has none. -/
def fixMode (m : Model) (mode : Mode) : Except FilterError Model :=
  match m.mode with
  | none => .ok (m.inMode mode)
  | some _ => .error (.modeLocked m.name)

end Model

structure Graph where
  model? : String → Option Model

namespace Graph

/-- What is found has the name it is found by. -/
def KeepsNames (g : Graph) : Prop := ∀ name m, g.model? name = some m → m.name = name

def model (g : Graph) (name : String) : Except FilterError Model :=
  match g.model? name with
  | some m => .ok m
  | none => .error (.unknownModel name)

def relation (g : Graph) (model name : String) : Except FilterError Relation :=
  match g.model? model with
  | none => .error (.unknownModel model)
  | some m =>
    match m.relation? name with
    | some r => .ok r
    | none => .error (.unknownRelation model name)

variable {g : Graph} {name : String}

theorem model_eq_ok_iff {m : Model} : g.model name = .ok m ↔ g.model? name = some m := by
  rw [model]
  cases g.model? name with
  | none => simp only [reduceCtorEq]
  | some found => simp only [Except.ok.injEq, Option.some.injEq]

theorem model_eq_error_iff {e : FilterError} :
    g.model name = .error e ↔ e = .unknownModel name ∧ g.model? name = none := by
  rw [model]
  cases g.model? name with
  | none => simp only [Except.error.injEq, and_true, eq_comm]
  | some found => simp only [reduceCtorEq, and_false]

theorem relation_eq_ok_iff {model : String} {r : Relation} : g.relation model name = .ok r ↔
    ∃ m, g.model? model = some m ∧ m.relation? name = some r := by
  rw [relation]
  cases g.model? model with
  | none => simp only [reduceCtorEq, false_and, exists_false]
  | some m =>
      simp only [Option.some.injEq, exists_eq_left']
      cases m.relation? name with
      | none => simp only [reduceCtorEq]
      | some found => simp only [Except.ok.injEq, Option.some.injEq]

theorem relation_eq_error_iff {model : String} {e : FilterError} :
    g.relation model name = .error e ↔
      (e = .unknownModel model ∧ g.model? model = none) ∨
        (e = .unknownRelation model name ∧
          ∃ m, g.model? model = some m ∧ m.relation? name = none) := by
  rw [relation]
  cases g.model? model with
  | none =>
      simp only [Except.error.injEq, and_true, reduceCtorEq, false_and, exists_false, and_false,
        or_false, eq_comm]
  | some m =>
      simp only [reduceCtorEq, and_false, false_or, Option.some.injEq, exists_eq_left']
      cases m.relation? name with
      | none => simp only [Except.error.injEq, and_true, eq_comm]
      | some found => simp only [reduceCtorEq, and_false]

end Graph
end Semijoin
