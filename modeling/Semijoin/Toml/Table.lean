import Semijoin.Document.Datum

/-! # Assembling TOML tables

A table is put together from assignments and headers, and no key is given
twice.  What a later line may still add to a table depends on where the table
came from: a header's table is complete with its section, one that was only
passed through by a header may get a section of its own or be taken over by
dotted keys, one made by dotted keys may grow by dotted keys, and an inline table
or list is closed. -/
set_option autoImplicit false
namespace Semijoin.Toml

inductive Origin where
  /-- Opened by a header of its own. -/
  | header
  /-- Passed through on the way to a header's table. -/
  | passed
  /-- Made by a dotted key. -/
  | dotted
deriving DecidableEq, Repr

/-- What a table comes from once keys led through it, if they may; `made` is what
the tables come from that these keys make. -/
def Origin.crossedBy (made : Origin) : Origin → Option Origin
  | header => if made = dotted then none else some header
  | passed => some made
  | dotted => some dotted

inductive Node where
  | value (value : Datum)
  | table (origin : Origin) (entries : List (String × Node))
  /-- The tables of a repeated header, in order; the last one is open. -/
  | tables (elements : List (List (String × Node)))

abbrev Entries := List (String × Node)

namespace Entries

/-- Gives a key that is there already another node. -/
def set (key : String) (node : Node) (entries : Entries) : Entries :=
  entries.map fun (k, old) => (k, if k = key then node else old)

/-- Changes the table that the keys lead to, making the tables that are missing
on the way; `made` is what those come from. -/
def change (made : Origin) (f : Origin → Entries → Option Entries) (here : Origin) :
    List String → Entries → Option Entries
  | [], entries => f here entries
  | key :: keys, entries =>
    match entries.lookup key with
    | none => do
      let inner ← change made f made keys []
      return entries ++ [(key, .table made inner)]
    | some (.table origin inner) => do
      let origin ← Origin.crossedBy made origin
      let inner ← change made f origin keys inner
      return entries.set key (.table origin inner)
    | some (.tables elements) => do
      let last ← change made f .header keys (← elements.getLast?)
      return entries.set key (.tables (elements.dropLast ++ [last]))
    | some (.value _) => none

end Entries

/-- A line that gives a value to a key; `parents` are the keys before its dots. -/
structure Assignment where
  parents : List String
  key : String
  value : Datum

/-- A dotted key adds only to a table that dotted keys made. -/
def Assignment.apply (a : Assignment) (entries : Entries) : Option Entries :=
  entries.change .dotted (fun origin table =>
    if a.parents ≠ [] ∧ origin ≠ .dotted ∨ (table.lookup a.key).isSome then none
    else some (table ++ [(a.key, .value a.value)])) .header a.parents

def Entries.assign (entries : Entries) (lines : List Assignment) : Option Entries :=
  lines.foldlM (fun entries a => a.apply entries) entries

/-- A header and the lines below it; a repeated header adds a table to a list. -/
structure Section where
  parents : List String
  key : String
  repeated : Bool
  lines : List Assignment

def Section.apply (s : Section) (entries : Entries) : Option Entries :=
  entries.change .passed (fun _ table =>
    match s.repeated, table.lookup s.key with
    | false, none => do return table ++ [(s.key, .table .header (← Entries.assign [] s.lines))]
    | false, some (.table .passed inner) => do
      return Entries.set s.key (.table .header (← Entries.assign inner s.lines)) table
    | true, none => do return table ++ [(s.key, .tables [← Entries.assign [] s.lines])]
    | true, some (.tables elements) => do
      return Entries.set s.key (.tables (elements ++ [← Entries.assign [] s.lines])) table
    | _, _ => none) .header s.parents

mutual

def Node.datum : Node → Datum
  | .value d => d
  | .table _ entries => .record (datumEntries entries)
  | .tables elements => .list (datumTables elements)

def datumEntries : List (String × Node) → List (String × Datum)
  | [] => []
  | (key, node) :: rest => (key, node.datum) :: datumEntries rest

def datumTables : List (List (String × Node)) → List Datum
  | [] => []
  | entries :: rest => .record (datumEntries entries) :: datumTables rest

end

end Semijoin.Toml
