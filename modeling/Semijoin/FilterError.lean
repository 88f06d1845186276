import Semijoin.Schema.Relation

/-! # Failures of a filter

Why a filter was refused, the class of each reason, and its message. -/
set_option autoImplicit false
namespace Semijoin

inductive FilterError where
  /-- The path or one of its segments is empty. -/
  | invalidPath (path : String)
  | unknownModel (model : String)
  | unknownRelation (model relation : String)
  | unsupportedKind (relation : String) (kind : Relation.Kind)
  /-- The model's mode is set once and stays. -/
  | modeLocked (model : String)
deriving DecidableEq, Repr

namespace FilterError

inductive Class where
  | invalidInput | notFound | unsupported | conflict
deriving DecidableEq, Repr

def Class.name : Class → String
  | invalidInput => "invalid_input"
  | notFound => "not_found"
  | unsupported => "unsupported"
  | conflict => "conflict"

def toClass : FilterError → Class
  | invalidPath _ => .invalidInput
  | unknownModel _ | unknownRelation _ _ => .notFound
  | unsupportedKind _ _ => .unsupported
  | modeLocked _ => .conflict

def message : FilterError → String
  | invalidPath path =>
    "invalid relation path '" ++ path ++ "': path and every segment must be non-empty"
  | unknownModel model => "unknown model '" ++ model ++ "'"
  | unknownRelation model relation =>
    "unknown relation '" ++ relation ++ "' on model '" ++ model ++ "'"
  | unsupportedKind relation kind =>
    "relation '" ++ relation ++ "' has unsupported kind '" ++ spelling kind ++
      "' for existence filtering"
  | modeLocked model => "strategy mode for model '" ++ model ++ "' is already set"

def report (e : FilterError) : String := e.toClass.name ++ ": " ++ e.message

end FilterError
end Semijoin
