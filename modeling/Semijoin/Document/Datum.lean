import Semijoin.Text.Reading

/-! # Document values

What a schema document is made of once its notation is read.  Whole numbers are
exact; other numbers, dates and times have no use in a schema, and are kept as
they were written. -/
set_option autoImplicit false
namespace Semijoin

inductive Datum where
  | null
  | bool (value : Bool)
  | int (value : Int)
  | number (written : String)
  | moment (written : String)
  | text (value : String)
  | list (items : List Datum)
  | record (fields : List (String × Datum))
deriving Repr

/-- The liberties that a document format takes. -/
structure Format where
  /-- A record written as a list may have more items than the record has fields. -/
  allowsSurplus : Bool
  /-- What may be written beside a word that stands as the only key of a record. -/
  isBlank : Datum → Bool

namespace Format

def json : Format where
  allowsSurplus := false
  isBlank
    | .null => true
    | _ => false

def toml : Format where
  allowsSurplus := true
  isBlank
    | .list [] | .record [] => true
    | _ => false

end Format

class Documented (α : Type) where
  toDatum : α → Datum
  ofDatum? : Format → Datum → Option α

export Documented (toDatum ofDatum?)

namespace Datum

def text? : Datum → Option String
  | text value => some value
  | _ => none

def list? : Datum → Option (List Datum)
  | list items => some items
  | _ => none

def record? : Datum → Option (List (String × Datum))
  | record fields => some fields
  | _ => none

/-- The word of an enumeration: alone, or as the only key of a record. -/
def word? (f : Format) : Datum → Option String
  | text value => some value
  | record [(word, beside)] => if f.isBlank beside then some word else none
  | _ => none

end Datum

instance : Documented String where
  toDatum := .text
  ofDatum? _ := Datum.text?

instance {α : Type} [Documented α] : Documented (List α) where
  toDatum items := .list (items.map toDatum)
  ofDatum? f d := d.list? >>= List.mapM (ofDatum? f)

instance {α : Type} [Documented α] : Documented (Option α) where
  toDatum
    | some a => toDatum a
    | none => .null
  ofDatum? f
    | .null => some none
    | d => some <$> ofDatum? f d

abbrev Documented.ofSpelled (α : Type) [Spelled α] : Documented α where
  toDatum a := .text (spelling a)
  ofDatum? f d := d.word? f >>= ofSpelling?

/-! ## Records

A record is written as its fields by name, or as a list of its fields in order. -/

structure Fields where
  entries : List (String × Datum)
  byName : Bool

namespace Fields

/-- What is written for the named fields; a `closed` record has no others. -/
def read? (f : Format) (names : List String) (closed : Bool) : Datum → Option Fields
  | .record entries =>
    if closed && entries.any (!names.contains ·.1) then none else some ⟨entries, true⟩
  | .list items =>
    if items.length ≤ names.length || f.allowsSurplus then some ⟨names.zip items, false⟩ else none
  | _ => none

def get? (fs : Fields) (name : String) : Option Datum := fs.entries.lookup name

variable {α : Type} [Documented α]

def required (fs : Fields) (f : Format) (name : String) : Option α := fs.get? name >>= ofDatum? f

/-- A field with a value of its own when it is not there. -/
def defaulted (fs : Fields) (f : Format) (name : String) (default : α) : Option α :=
  match fs.get? name with
  | none => some default
  | some d => ofDatum? f d

/-- A field that may be left out by name, but has a place of its own in a list. -/
def optional (fs : Fields) (f : Format) (name : String) : Option (Option α) :=
  if fs.byName then fs.defaulted f name none else fs.required f name

end Fields
end Semijoin
