import Semijoin.Document.Datum
import Semijoin.Schema.Relation
import Semijoin.Existence.Strategy

/-! # Queries' parts in documents

Columns, sources, literals and the enumerations as schema documents write them.
A whole number is a signed literal where it fits and an unsigned one above. -/
set_option autoImplicit false
namespace Semijoin

instance : Documented Comparison := .ofSpelled _
instance : Documented Bound := .ofSpelled _
instance : Documented Connective := .ofSpelled _
instance : Documented Mode := .ofSpelled _
instance : Documented Relation.Kind := .ofSpelled _

instance : Documented Literal where
  toDatum
    | .null => .null
    | .bool value => .bool value
    | .int value => .int value.toInt
    | .uint value => .int value.toNat
    | .text value => .text value
  ofDatum? _
    | .null => some .null
    | .bool value => some (.bool value)
    | .int value => Literal.ofInt? value
    | .text value => some (.text value)
    | _ => none

instance : Documented Column where
  toDatum c := .record [("table", toDatum c.table), ("name", toDatum c.name)]
  ofDatum? f d := do
    let fields ← Fields.read? f ["table", "name"] false d
    return { table := ← fields.optional f "table", name := ← fields.required f "name" }

instance : Documented Source where
  toDatum s := .record [("name", toDatum s.table), ("alias", toDatum s.label)]
  ofDatum? f d := do
    let fields ← Fields.read? f ["name", "alias"] false d
    return { table := ← fields.required f "name", label := ← fields.optional f "alias" }

end Semijoin
