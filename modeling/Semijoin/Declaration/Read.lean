import Semijoin.Declaration.Basic
import Semijoin.Document.Sql
import Semijoin.Toml.Document

/-! # Reading a declaration

How declarations are written in documents.  Records have no fields but those
named here; what has a default may be left out, and a list may stand for a
record. -/
set_option autoImplicit false
namespace Semijoin

instance : Documented ConstraintDecl where
  toDatum c := .record [("column", toDatum c.column), ("op", toDatum c.op),
    ("value", toDatum c.value), ("conjunction", toDatum c.connective)]
  ofDatum? f d := do
    let fields ← Fields.read? f ["column", "op", "value", "conjunction"] true d
    return { column := ← fields.required f "column"
             op := ← fields.required f "op"
             value := ← fields.required f "value"
             connective := ← fields.defaulted f "conjunction" .and }

instance : Documented RelationDecl where
  toDatum r := .record [("name", toDatum r.name), ("kind", toDatum r.kind),
    ("related", toDatum r.related), ("parent_key", toDatum r.parentKey),
    ("related_key", toDatum r.relatedKey), ("constraints", toDatum r.constraints)]
  ofDatum? f d := do
    let fields ← Fields.read? f
      ["name", "kind", "related", "parent_key", "related_key", "constraints"] true d
    return { name := ← fields.required f "name"
             kind := ← fields.required f "kind"
             related := ← fields.required f "related"
             parentKey := ← fields.required f "parent_key"
             relatedKey := ← fields.required f "related_key"
             constraints := ← fields.defaulted f "constraints" [] }

instance : Documented ModelDecl where
  toDatum m := .record [("table", toDatum m.table), ("strategy", toDatum m.mode),
    ("relations", toDatum m.relations)]
  ofDatum? f d := do
    let fields ← Fields.read? f ["table", "strategy", "relations"] true d
    return { table := ← fields.required f "table"
             mode := ← fields.defaulted f "strategy" none
             relations := ← fields.defaulted f "relations" [] }

instance : Documented (Std.TreeMap String ModelDecl) where
  toDatum models := .record (models.toList.map fun (name, m) => (name, toDatum m))
  ofDatum? f d := do
    let models ← d.record?
    return .ofList (← models.mapM fun (name, d) => return (name, ← ofDatum? f d))

instance : Documented SchemaDecl where
  toDatum s := .record [("default_mode", toDatum s.defaultMode), ("models", toDatum s.models)]
  ofDatum? f d := do
    let fields ← Fields.read? f ["default_mode", "models"] true d
    return { defaultMode := ← fields.defaulted f "default_mode" none
             models := ← fields.defaulted f "models" ∅ }

def SchemaDecl.ofToml? (text : String) : Option SchemaDecl := Toml.read? text >>= ofDatum? .toml

end Semijoin
