import Semijoin.Sql.Query

/-! # SQL text

The text of a query.  Clauses are joined by their connectives, the first
clause's connective is not written, and neither is an empty clause list's
`WHERE`. -/
set_option autoImplicit false
namespace Semijoin

def Connective.render : Connective → String
  | .and => "AND"
  | .or => "OR"

def Projection.render : Projection → String
  | .all => "*"
  | .columns cols => ", ".intercalate (cols.map Column.render)
  | .rowCount => "COUNT(*)"

mutual

def Predicate.render : Predicate → String
  | .compare column op value => column.render ++ " " ++ spelling op ++ " " ++ value.render
  | .isNull column => column.render ++ " IS NULL"
  | .isNotNull column => column.render ++ " IS NOT NULL"
  | .correlate outer inner => outer.render ++ " = " ++ inner.render
  | .existence query negated =>
    (if negated then "NOT EXISTS (" else "EXISTS (") ++ query.render ++ ")"
  | .membership column query negated =>
    column.render ++ (if negated then " NOT IN (" else " IN (") ++ query.render ++ ")"
  | .count query threshold => "(" ++ query.render ++ ") " ++ threshold.render
  | .group clauses => "(" ++ Clause.renderList clauses ++ ")"

def Clause.renderList : List Clause → String
  | [] => ""
  | ⟨_, p⟩ :: rest => p.render ++ Clause.renderRest rest

/-- Clauses that follow others. -/
def Clause.renderRest : List Clause → String
  | [] => ""
  | ⟨k, p⟩ :: rest => " " ++ k.render ++ " " ++ p.render ++ Clause.renderRest rest

def Query.render : Query → String
  | ⟨source, projection, clauses⟩ =>
    "SELECT " ++ projection.render ++ " FROM " ++ source.render ++
      match clauses with
      | [] => ""
      | _ => " WHERE " ++ Clause.renderList clauses

end

end Semijoin
