import Semijoin.Text.Reading

/-! # Columns and sources

A column is a name, possibly qualified by the reference of a source.  Reading
one from text splits at the last dot, when there is text on both sides.  A
source is a table, possibly under a label; its reference is the label if it has
one, else the table's name. -/
set_option autoImplicit false
namespace Semijoin

structure Column where
  table : Option String
  name : String
deriving DecidableEq, Repr

namespace Column

def bare (name : String) : Column := ⟨none, name⟩

def qualified (table name : String) : Column := ⟨some table, name⟩

def isQualified (c : Column) : Bool := c.table.isSome

/-- `a.b.c` is column `c` of `a.b`; a text whose last dot is missing, first or
last is a bare name, dots included. -/
def ofString (text : String) : Column :=
  match Text.splitLast '.' text.toList with
  | some (c :: before, d :: after) =>
    qualified (String.ofList (c :: before)) (String.ofList (d :: after))
  | _ => bare text

def render (c : Column) : String :=
  match c.table with
  | some table => table ++ "." ++ c.name
  | none => c.name

end Column

structure Source where
  table : String
  label : Option String
deriving DecidableEq, Repr

namespace Source

def ofTable (table : String) : Source := ⟨table, none⟩

def labelled (table label : String) : Source := ⟨table, some label⟩

/-- What columns of the source are qualified with. -/
def reference (s : Source) : String := s.label.getD s.table

/-- The name is taken whole: a dot in it does not split. -/
def column (s : Source) (name : String) : Column := .qualified s.reference name

def render (s : Source) : String :=
  match s.label with
  | some label => s.table ++ " AS " ++ label
  | none => s.table

end Source
end Semijoin
