import Std.Data.TreeMap
import Semijoin.Existence.Strategy
import Semijoin.Schema.Relation

/-! # Schema declarations

A schema as it is declared: models by name, each with its relations in the order
in which they are given.  The models stand in the order of their names. -/
set_option autoImplicit false
namespace Semijoin

/-- A constraint that every related row has to meet. -/
structure ConstraintDecl where
  column : String
  op : Comparison
  value : Literal
  connective : Connective := .and
deriving DecidableEq

structure RelationDecl where
  name : String
  kind : Relation.Kind
  related : String
  parentKey : String
  relatedKey : String
  constraints : List ConstraintDecl := []
deriving DecidableEq

structure ModelDecl where
  table : String
  mode : Option Mode := none
  relations : List RelationDecl := []
deriving DecidableEq

structure SchemaDecl where
  /-- The mode of the models that declare none. -/
  defaultMode : Option Mode := none
  models : Std.TreeMap String ModelDecl := ∅

end Semijoin
