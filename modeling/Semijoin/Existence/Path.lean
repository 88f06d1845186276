import Semijoin.FilterError
import Semijoin.Text.Reading

/-! # Relation paths

A path names the relations to follow, one segment each.  It has at least one
segment and none of them is empty; a text splits into segments at its dots, and
a path prints as its segments joined by dots.  Only segments given one by one
can hold a dot themselves. -/
set_option autoImplicit false
namespace Semijoin

structure Path where
  first : String
  rest : List String
  nonempty : ∀ s ∈ first :: rest, s ≠ ""
deriving DecidableEq, Repr

namespace Path

def segments (p : Path) : List String := p.first :: p.rest

def render (p : Path) : String := ".".intercalate p.segments

def lastHop (p : Path) : Nat := p.rest.length

/-- Whether a hop is the last one, which carries the caller's threshold. -/
def endsAt (p : Path) (index : Nat) : Bool := index == p.lastHop

/-- A refused list is reported as its segments joined by dots. -/
def ofSegments : List String → Except FilterError Path
  | [] => .error (.invalidPath "")
  | first :: rest =>
    if h : ∀ s ∈ first :: rest, s ≠ "" then .ok ⟨first, rest, h⟩
    else .error (.invalidPath (".".intercalate (first :: rest)))

/-- A refused text is reported as it was given. -/
def parse (text : String) : Except FilterError Path :=
  let (first, others) := Text.splitAll '.' text.toList
  let segments := (first :: others).map String.ofList
  if h : ∀ s ∈ segments, s ≠ "" then .ok ⟨String.ofList first, others.map String.ofList, h⟩
  else .error (.invalidPath text)

theorem eq_invalidPath_of_parse {text : String} {e : FilterError} (h : parse text = .error e) :
    e = .invalidPath text := by
  rw [parse] at h
  obtain ⟨first, others⟩ := Text.splitAll '.' text.toList
  dsimp only at h
  split at h
  · cases h
  · cases h
    rfl

end Path
end Semijoin
