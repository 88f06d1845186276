import Semijoin.Toml.Table
import Semijoin.Toml.Token

/-! # Reading TOML documents

A document is a list of lines, each an assignment or a header.  Lists and inline
tables may go over several lines, between any two of their tokens but those of a
dotted key, and may end with a comma.  How deep they nest and how many keys dots
join is limited.  `Toml.read?` gives the document as a record, and nothing if it
breaks a rule anywhere. -/
set_option autoImplicit false
namespace Semijoin.Toml

open Text (Reading)

def next? : (ts : List Token) → Option (Reading Token ts)
  | [] => none
  | .gap _ :: ts => (next? ts).map (·.behind _)
  | t :: ts => some (.one t t ts)

def nextAcross? : (ts : List Token) → Option (Reading Token ts)
  | [] => none
  | .gap _ :: ts => (nextAcross? ts).map (·.behind _)
  | .newline :: ts => (nextAcross? ts).map (·.behind _)
  | t :: ts => some (.one t t ts)

def nextIn? (brackets : Bool) (ts : List Token) : Option (Reading Token ts) :=
  if brackets then nextAcross? ts else next? ts

def expect? (t : Token) (brackets : Bool) (ts : List Token) : Option (Reading Unit ts) := do
  let r ← nextIn? brackets ts
  if r.value = t then return r.map fun _ => () else none

def touching? (t : Token) : (ts : List Token) → Option (Reading Unit ts)
  | [] => none
  | x :: ts => if x = t then some (.one () x ts) else none

/-- How many lists and inline tables may stand in one another, and how many keys
dots may join. -/
def depthLimit : Nat := 80

/-! ## Keys -/

def isBareChar (c : Char) : Bool := c.isAlphanum || c == '_' || c == '-'

def key? : Token → Option String
  | .word chars => if chars.all isBareChar then some (String.ofList chars) else none
  | .quoted text false => some text
  | _ => none

structure KeyPath where
  parents : List String
  key : String

def dottedKey? (ts : List Token) : Option (Reading KeyPath ts) := do
  let first ← next? ts
  let key ← key? first.value
  match expect? .dot false first.rest with
  | some dot => do
    let r ← dottedKey? dot.rest
    return first.andThen (dot.andThen (r.map fun p => { p with parents := key :: p.parents }))
  | none => return first.map fun _ => ⟨[], key⟩
termination_by ts.length
decreasing_by exact (first.andThen dot).shorter

def keyPath? (ts : List Token) : Option (Reading KeyPath ts) := do
  let r ← dottedKey? ts
  if r.value.parents.length < depthLimit then return r else none

/-! ## Values -/

def bareChars? : Token → Option (List Char)
  | .word chars => some chars
  | .dot => some ['.']
  | _ => none

/-- Reads the characters of a value without quotes: words and dots, and the gaps
that a word follows. -/
def bareRun? : (ts : List Token) → Option (Reading (List Char) ts)
  | [] => none
  | .gap blanks :: .word chars :: ts =>
    (bareRun? (.word chars :: ts)).map fun r => (r.map (blanks ++ ·)).behind _
  | t :: ts => do
    let chars ← bareChars? t
    match bareRun? ts with
    | some r => return (r.map (chars ++ ·)).behind t
    | none => return .one chars t ts

def bare? (ts : List Token) : Option (Reading Datum ts) := do
  let run ← bareRun? ts
  let d ← bareValue? run.value
  return run.map fun _ => d

-- Fields hand all their tokens on to an assignment, and items and assignments all of
-- theirs to a value; so the measure counts these steps below the tokens.
mutual

def value? (depth : Nat) (ts : List Token) : Option (Reading Datum ts) :=
  match depth, ts with
  | _, .quoted text _ :: rest => some (.one (.text text) _ rest)
  | 0, .openBracket :: _ | 0, .openBrace :: _ => none
  | depth + 1, .openBracket :: rest => do
    let r ← items? depth rest
    return (r.map Datum.list).behind _
  | depth + 1, .openBrace :: rest => do
    let r ← fields? depth rest
    let entries ← Entries.assign [] r.value
    return (r.map fun _ => .record (datumEntries entries)).behind _
  | _, ts => bare? ts
termination_by 3 * ts.length
decreasing_by all_goals (simp only [List.length_cons]; omega)

def items? (depth : Nat) (ts : List Token) : Option (Reading (List Datum) ts) := do
  let start ← nextAcross? ts
  if start.value = .closeBracket then return start.map fun _ => []
  else
    let item ← value? depth (start.value :: start.rest)
    let stop ← nextAcross? item.rest
    match stop.value with
    | .closeBracket => return ((item.andThen stop).map fun _ => [item.value]).extend start.shorter
    | .comma => do
      let r ← items? depth stop.rest
      return ((item.andThen stop).andThen (r.map (item.value :: ·))).extend start.shorter
    | _ => none
termination_by 3 * ts.length + 1
decreasing_by
  · have := start.shorter
    simp only [List.length_cons]
    omega
  · have := ((item.andThen stop).extend start.shorter).shorter
    simp only [Reading.extend, Reading.andThen] at this
    omega

def fields? (depth : Nat) (ts : List Token) : Option (Reading (List Assignment) ts) := do
  let start ← nextAcross? ts
  if start.value = .closeBrace then return start.map fun _ => []
  else
    let field ← assignment? depth true (start.value :: start.rest)
    let stop ← nextAcross? field.rest
    match stop.value with
    | .closeBrace => return ((field.andThen stop).map fun _ => [field.value]).extend start.shorter
    | .comma => do
      let r ← fields? depth stop.rest
      return ((field.andThen stop).andThen (r.map (field.value :: ·))).extend start.shorter
    | _ => none
termination_by 3 * ts.length + 2
decreasing_by
  · have := start.shorter
    simp only [List.length_cons]
    omega
  · have := ((field.andThen stop).extend start.shorter).shorter
    simp only [Reading.extend, Reading.andThen] at this
    omega

def assignment? (depth : Nat) (brackets : Bool) (ts : List Token) :
    Option (Reading Assignment ts) := do
  let path ← keyPath? ts
  let equals ← expect? .equals brackets path.rest
  let start ← nextIn? brackets equals.rest
  let r ← value? depth (start.value :: start.rest)
  let a := (r.map fun v => (⟨path.value.parents, path.value.key, v⟩ : Assignment)).extend
    start.shorter
  return path.andThen (equals.andThen a)
termination_by 3 * ts.length + 1
decreasing_by
  have := (path.andThen (equals.andThen start)).shorter
  simp only [Reading.extend, Reading.andThen] at this
  simp only [List.length_cons]
  omega

end

/-! ## Lines -/

inductive Line where
  | assignment (a : Assignment)
  | header (path : KeyPath) (repeated : Bool)

/-- Reads a header after its first bracket.  The brackets of a repeated header
touch. -/
def header? : (ts : List Token) → Option (Reading Line ts)
  | .openBracket :: ts => do
    let path ← keyPath? ts
    let inner ← expect? .closeBracket false path.rest
    let outer ← touching? .closeBracket inner.rest
    return (path.andThen (inner.andThen (outer.map fun _ => .header path.value true))).behind _
  | ts => do
    let path ← keyPath? ts
    let close ← expect? .closeBracket false path.rest
    return path.andThen (close.map fun _ => .header path.value false)

def line? : (ts : List Token) → Option (Reading Line ts)
  | .openBracket :: ts => do return (← header? ts).behind _
  | ts => do return (← assignment? depthLimit false ts).map .assignment

/-- Behind an assignment or a header nothing but a gap stands on its line. -/
def lineEnd? (ts : List Token) : Option { rest : List Token // rest.length ≤ ts.length } :=
  match next? ts with
  | none => some ⟨[], Nat.zero_le _⟩
  | some r => if r.value = .newline then some ⟨r.rest, Nat.le_of_lt r.shorter⟩ else none

def lines? (ts : List Token) : Option (List Line) :=
  match nextAcross? ts with
  | none => some []
  | some start => do
    let line ← line? (start.value :: start.rest)
    let later ← lineEnd? line.rest
    return line.value :: (← lines? later.val)
termination_by ts.length
decreasing_by exact Nat.lt_of_le_of_lt later.property (line.extend start.shorter).shorter

def sections : List Line → List Assignment × List Section
  | [] => ([], [])
  | .assignment a :: rest =>
    let (lines, later) := sections rest
    (a :: lines, later)
  | .header path repeated :: rest =>
    let (lines, later) := sections rest
    ([], ⟨path.parents, path.key, repeated, lines⟩ :: later)

/-- Reads a document; a byte-order mark at its start is skipped. -/
def read? (text : String) : Option Datum := do
  let chars := match text.toList with
    | '\ufeff' :: rest => rest
    | chars => chars
  let (top, later) := sections (← lines? (← tokens? chars))
  let entries ← later.foldlM (fun entries s => s.apply entries) (← Entries.assign [] top)
  return .record (datumEntries entries)

end Semijoin.Toml
