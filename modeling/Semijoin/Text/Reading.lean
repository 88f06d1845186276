/-! # Reading texts

A word of a finite list is read back by `ofSpelling?`, which finds exactly the
values spelled that way.  `splitAll` cuts at every occurrence of a separator,
`splitLast` at the last one.  A `Reading` is what was read off the front of an
input, and the rest, which is shorter: that is what makes repeated reading end,
and readings are put together so that the proof comes along. -/
set_option autoImplicit false
namespace Semijoin

universe u

/-! ## Spelled enumerations -/

class Spelled (α : Type u) where
  values : List α
  spelling : α → String

export Spelled (spelling)

def ofSpelling? {α : Type u} [Spelled α] (word : String) : Option α :=
  (Spelled.values (α := α)).find? fun a => spelling a == word

namespace Text

/-! ## Splitting at a character -/

/-- The pieces between the occurrences of `sep`; there is always a first one. -/
def splitAll (sep : Char) : List Char → List Char × List (List Char)
  | [] => ([], [])
  | c :: rest =>
    let (first, others) := splitAll sep rest
    if c = sep then ([], first :: others) else (c :: first, others)

def splitLast (sep : Char) : List Char → Option (List Char × List Char)
  | [] => none
  | c :: rest =>
    match splitLast sep rest with
    | some (before, after) => some (c :: before, after)
    | none => if c = sep then some ([], rest) else none

/-! ## Reading off the front -/

structure Reading {τ : Type} (α : Type) (input : List τ) where
  value : α
  rest : List τ
  shorter : rest.length < input.length

namespace Reading

variable {τ α β : Type} {input input' : List τ}

def map (f : α → β) (r : Reading α input) : Reading β input := ⟨f r.value, r.rest, r.shorter⟩

def one (value : α) (x : τ) (rest : List τ) : Reading α (x :: rest) :=
  ⟨value, rest, Nat.lt_succ_self _⟩

/-- Reads the first item and those right behind it that meet `p`. -/
def run (p : τ → Bool) (x : τ) (rest : List τ) : Reading (List τ) (x :: rest) :=
  ⟨x :: rest.takeWhile p, rest.dropWhile p, Nat.lt_succ_of_le (List.dropWhile_suffix p).length_le⟩

/-- The same reading off a longer input. -/
def extend (r : Reading α input') (h : input'.length ≤ input.length) : Reading α input :=
  ⟨r.value, r.rest, Nat.lt_of_lt_of_le r.shorter h⟩

def behind (x : τ) (r : Reading α input) : Reading α (x :: input) := r.extend (Nat.le_succ _)

/-- Goes on to read where `r` ended. -/
def andThen (r : Reading α input) (next : Reading β r.rest) : Reading β input :=
  next.extend (Nat.le_of_lt r.shorter)

end Reading
end Text
end Semijoin
