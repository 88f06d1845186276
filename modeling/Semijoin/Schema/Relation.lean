import Semijoin.Sql.Query

/-! # Relations

A relation leads from the rows of one model to rows of another, by a pair of
key columns.  Only the kinds with a single key pair can be filtered by; the
others can be described, so that they can be refused by name. -/
set_option autoImplicit false
namespace Semijoin

inductive Relation.Kind where
  | belongsTo | hasOneOrMany | belongsToMany | hasManyThrough | morphTo | morphOneOrMany
deriving DecidableEq, Repr

instance : Spelled Relation.Kind where
  values := [.belongsTo, .hasOneOrMany, .belongsToMany, .hasManyThrough, .morphTo, .morphOneOrMany]
  spelling
    | .belongsTo => "belongs_to"
    | .hasOneOrMany => "has_one_or_many"
    | .belongsToMany => "belongs_to_many"
    | .hasManyThrough => "has_many_through"
    | .morphTo => "morph_to"
    | .morphOneOrMany => "morph_one_or_many"

def Relation.Kind.hasKeyPair : Relation.Kind → Bool
  | .belongsTo | .hasOneOrMany => true
  | _ => false

/-- `parentKey` is a column of the model that declares the relation,
`relatedKey` one of the model it leads to; the constraints hold for every
related row that counts. -/
structure Relation where
  name : String
  kind : Relation.Kind
  related : String
  parentKey : String
  relatedKey : String
  constraints : List Clause

namespace Relation

/-- The foreign key is the parent's. -/
def belongsTo (name related foreignKey ownerKey : String) : Relation :=
  ⟨name, .belongsTo, related, foreignKey, ownerKey, []⟩

/-- The foreign key is the related row's. -/
def hasMany (name related foreignKey localKey : String) : Relation :=
  ⟨name, .hasOneOrMany, related, localKey, foreignKey, []⟩

def constrainedBy (r : Relation) (c : Clause) : Relation :=
  { r with constraints := r.constraints ++ [c] }

end Relation
end Semijoin
