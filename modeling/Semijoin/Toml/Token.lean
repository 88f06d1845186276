import Semijoin.Text.Quoted
import Semijoin.Text.Reading
import Semijoin.Toml.Scalar

/-! # TOML tokens

A document is cut into punctuation, line ends, gaps, bare words and quoted
texts.  Comments are dropped.  Outside of quotes a line ends with a line feed,
after a carriage return or not; a carriage return alone is refused everywhere.
In quotes and comments so are the other control characters except the tab.  A
word goes on to the next gap, punctuation, comment or line end, and may hold
quotes that it does not start with. -/
set_option autoImplicit false
namespace Semijoin.Toml

open Text (Reading)

inductive Token where
  | dot | equals | comma | openBracket | closeBracket | openBrace | closeBrace
  | newline
  /-- Spaces and tabs. -/
  | gap (chars : List Char)
  /-- Characters with no meaning of their own, as many as stand together. -/
  | word (chars : List Char)
  /-- A text in quotes; one in triple quotes is a `block`. -/
  | quoted (text : String) (block : Bool)
deriving DecidableEq, Repr

def isBlank (c : Char) : Bool := c == ' ' || c == '\t'

def isControl (c : Char) : Bool := c.toNat < 0x20 && c != '\t' || c.toNat == 0x7f

def quotes : List Char := ['\x22', Text.apostrophe]

def punctuation : List (Char × Token) :=
  [('.', .dot), ('=', .equals), (',', .comma), ('[', .openBracket), (']', .closeBracket),
    ('\x7b', .openBrace), ('\x7d', .closeBrace)]

def isWordChar (c : Char) : Bool :=
  !isBlank c && c != '\r' && c != '\n' && c != '#' && (punctuation.lookup c).isNone

/-! ## Quoted texts -/

def letterEscapes : List (Char × Char) :=
  [('b', '\x08'), ('t', '\t'), ('n', '\n'), ('f', '\x0c'), ('r', '\r'), ('e', '\x1b'),
    ('\x22', '\x22'), ('\\', '\\')]

/-- How many hexadecimal digits follow a backslash and a letter. -/
def codeEscapes : List (Char × Nat) := [('x', 2), ('u', 4), ('U', 8)]

def codePoint? (width : Nat) (digits : List Char) : Option Char :=
  let code := valueOf 16 digits
  if digits.length = width ∧ digits.all (isDigitOf 16) ∧ code.isValidChar then some (.ofNat code)
  else none

def escape? : (cs : List Char) → Option (Reading Char cs)
  | [] => none
  | c :: rest =>
    match letterEscapes.lookup c with
    | some e => some (.one e c rest)
    | none => do
      let width ← codeEscapes.lookup c
      let e ← codePoint? width (rest.take width)
      return ⟨e, rest.drop width, Nat.lt_succ_of_le (List.drop_suffix _ _).length_le⟩

def lineText? (quote : Char) (escapes : Bool) : (cs : List Char) → Option (Reading (List Char) cs)
  | [] => none
  | c :: rest =>
    if c = quote then some (.one [] c rest)
    else if escapes ∧ c = '\\' then do
      let e ← escape? rest
      let r ← lineText? quote escapes e.rest
      return (e.andThen (r.map (e.value :: ·))).behind c
    else if isControl c then none
    else do
      let r ← lineText? quote escapes rest
      return (r.map (c :: ·)).behind c
termination_by cs => cs.length
decreasing_by
  · exact (e.behind c).shorter
  · exact Nat.lt_succ_self _

def newline? : (cs : List Char) → Option (Reading (List Char) cs)
  | '\n' :: rest => some (.one ['\n'] _ rest)
  | '\r' :: '\n' :: rest => some ((Reading.one ['\r', '\n'] _ rest).behind _)
  | _ => none

def skipSpace : List Char → List Char
  | [] => []
  | '\r' :: '\n' :: rest => skipSpace rest
  | c :: rest => if isBlank c || c == '\n' then skipSpace rest else c :: rest

theorem length_skipSpace_le (cs : List Char) : (skipSpace cs).length ≤ cs.length := by
  fun_induction skipSpace cs with
  | case1 => exact Nat.le_refl _
  | case2 rest ih => exact Nat.le_succ_of_le (Nat.le_succ_of_le ih)
  | case3 c rest _ _ ih => exact Nat.le_succ_of_le ih
  | case4 c rest => exact Nat.le_refl _

def lineJoin? (cs : List Char) : Option (Reading Unit cs) := do
  let n ← newline? (cs.dropWhile isBlank)
  let joined : Reading Unit (cs.dropWhile isBlank) :=
    ⟨(), skipSpace n.rest, Nat.lt_of_le_of_lt (length_skipSpace_le _) n.shorter⟩
  return joined.extend (List.dropWhile_suffix _).length_le

/-- Reads a text over several lines, up to three closing quotes; one or two
quotes more belong to the text.  A backslash at the end of a line joins what
follows the space after it. -/
def blockText? (quote : Char) (escapes : Bool) : (cs : List Char) → Option (Reading (List Char) cs)
  | [] => none
  | c :: rest =>
    if c = quote then
      let run := Reading.run (· == quote) c rest
      if run.value.length < 3 then do
        let r ← blockText? quote escapes rest
        return (r.map (c :: ·)).behind c
      else if run.value.length ≤ 5 then some (run.map (·.drop 3))
      else none
    else if escapes ∧ c = '\\' then
      match lineJoin? rest with
      | some join => do
        let r ← blockText? quote escapes join.rest
        return (join.andThen r).behind c
      | none => do
        let e ← escape? rest
        let r ← blockText? quote escapes e.rest
        return (e.andThen (r.map (e.value :: ·))).behind c
    else
      match newline? (c :: rest) with
      | some n => do
        let r ← blockText? quote escapes n.rest
        return n.andThen (r.map (n.value ++ ·))
      | none =>
        if isControl c then none
        else do
          let r ← blockText? quote escapes rest
          return (r.map (c :: ·)).behind c
termination_by cs => cs.length
decreasing_by
  · exact Nat.lt_succ_self _
  · exact (join.behind c).shorter
  · exact (e.behind c).shorter
  · exact n.shorter
  · exact Nat.lt_succ_self _

/-- Reads a block after its three quotes; a line end right there is no part of
the text. -/
def block? (quote : Char) (escapes : Bool) (cs : List Char) : Option (Reading (List Char) cs) :=
  match newline? cs with
  | some n => do
    let r ← blockText? quote escapes n.rest
    return n.andThen r
  | none => blockText? quote escapes cs

def quoted? (quote : Char) : (cs : List Char) → Option (Reading Token cs)
  | a :: b :: rest =>
    if a = quote ∧ b = quote then do
      let r ← block? quote (quote != Text.apostrophe) rest
      return ((r.map fun text => .quoted (String.ofList text) true).behind b).behind a
    else do
      let r ← lineText? quote (quote != Text.apostrophe) (a :: b :: rest)
      return r.map fun text => .quoted (String.ofList text) false
  | cs => do
    let r ← lineText? quote (quote != Text.apostrophe) cs
    return r.map fun text => .quoted (String.ofList text) false

/-! ## The tokens of a document -/

/-- Reads the first token; a comment up to the end of its line is none. -/
def token? : (cs : List Char) → Option (Reading (Option Token) cs)
  | [] => none
  | c :: rest =>
    match punctuation.lookup c with
    | some t => some (.one (some t) c rest)
    | none =>
      if isBlank c then some ((Reading.run isBlank c rest).map fun run => some (.gap run))
      else if c = '#' then
        let comment := (Reading.run (!isControl ·) c rest).map fun _ => none
        if comment.rest.isEmpty || (newline? comment.rest).isSome then some comment else none
      else if quotes.contains c then do
        let r ← quoted? c rest
        return (r.map some).behind c
      else if isWordChar c then
        some ((Reading.run isWordChar c rest).map fun run => some (.word run))
      else (newline? (c :: rest)).map (·.map fun _ => some .newline)

def tokens? : List Char → Option (List Token)
  | [] => some []
  | c :: cs =>
    match token? (c :: cs) with
    | none => none
    | some r => (tokens? r.rest).map (r.value.toList ++ ·)
termination_by cs => cs.length
decreasing_by exact r.shorter

end Semijoin.Toml
