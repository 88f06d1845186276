import Semijoin.Declaration.Basic
import Semijoin.Schema.Basic

/-! # From declarations to a schema

A declaration is sound if no model declares a relation twice and every relation
leads to a declared model.  Otherwise the first fault counts, by the models'
names and within a model by the order of its relations. -/
set_option autoImplicit false
namespace Semijoin

inductive DeclError where
  | duplicateRelation (model relation : String)
  | unknownRelated (model relation related : String)
deriving DecidableEq, Repr

def DeclError.message : DeclError → String
  | duplicateRelation model relation =>
    "model '" ++ model ++ "' declares relation '" ++ relation ++ "' more than once"
  | unknownRelated model relation related =>
    "relation '" ++ model ++ "." ++ relation ++ "' targets unknown model '" ++ related ++ "'"

def ConstraintDecl.clause (c : ConstraintDecl) : Clause :=
  ⟨c.connective, .compare (.ofString c.column) c.op c.value⟩

def RelationDecl.relation (r : RelationDecl) : Relation where
  name := r.name
  kind := r.kind
  related := r.related
  parentKey := r.parentKey
  relatedKey := r.relatedKey
  constraints := r.constraints.map ConstraintDecl.clause

def ModelDecl.model (m : ModelDecl) (name : String) (defaultMode : Option Mode) : Model where
  name
  table := m.table
  relations := .ofList (m.relations.map RelationDecl.relation)
  mode := m.mode.or defaultMode

/-- The first fault among the relations of `model`, after those called `seen`. -/
def RelationDecl.fault? (known : String → Bool) (model : String) (seen : List String) :
    List RelationDecl → Option DeclError
  | [] => none
  | r :: rest =>
    if r.name ∈ seen then some (.duplicateRelation model r.name)
    else if known r.related then fault? known model (r.name :: seen) rest
    else some (.unknownRelated model r.name r.related)

/-- A schema, and what is noted when it is built. -/
structure Declared where
  schema : Schema
  journal : List Entry

namespace SchemaDecl

def fault? (s : SchemaDecl) : Option DeclError :=
  s.models.toList.findSome? fun (name, m) =>
    RelationDecl.fault? s.models.contains name [] m.relations

def modelList (s : SchemaDecl) : List Model :=
  s.models.toList.map fun (name, m) => m.model name s.defaultMode

def build (s : SchemaDecl) : Except DeclError Declared :=
  match s.fault? with
  | some e => .error e
  | none => .ok {
      schema := ⟨.ofList s.modelList⟩
      journal := s.modelList.map fun m => .declared m.name m.table m.mode }

end SchemaDecl
end Semijoin
