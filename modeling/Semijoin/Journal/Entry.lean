import Semijoin.Existence.Compile

/-! # Journal entries

What is noted while filters are compiled and schemas declared, in the order in
which it happens.  Some entries are events, which are also delivered to whoever
counts or watches them.  `line` is the text of an entry, after its level. -/
set_option autoImplicit false
namespace Semijoin

inductive Event where
  | started (model : String)
  /-- A hop got its filter; the depth is the hop's index. -/
  | formed (choice : Choice) (depth : Nat)
  | failed (model : String) (reason : FilterError.Class)
deriving DecidableEq, Repr

namespace Event

def strategyName : Strategy → String
  | .count => "Count"
  | .existence => "Exists"
  | .membership => "In"

def reasonName : FilterError.Class → String
  | .invalidInput => "InvalidInput"
  | .notFound => "NotFound"
  | .unsupported => "Unsupported"
  | .conflict => "Conflict"

end Event

/-- A truth value as journal lines write it. -/
def truthName (b : Bool) : String := if b then "true" else "false"

def Event.display : Event → String
  | started model => "CompileStart \x7b model: " ++ Text.display model ++ " \x7d"
  | formed choice depth =>
    "Fragment \x7b strategy: " ++ strategyName choice.strategy ++ ", negate: " ++
      truthName choice.negated ++ ", depth: " ++ toString depth ++ " \x7d"
  | failed model reason =>
    "CompileFailed \x7b model: " ++ Text.display model ++ ", class: " ++ reasonName reason ++
      " \x7d"

inductive Entry where
  | event (event : Event)
  | hop (report : HopReport)
  | rejected (path model : String) (error : FilterError)
  | declared (model table : String) (mode : Option Mode)

namespace Entry

def event? : Entry → Option Event
  | event e => some e
  | _ => none

def line : Entry → String
  | event e => "TRACE compile event: " ++ e.display
  | hop h =>
    "TRACE hop " ++ toString h.index ++ " '" ++ h.relation.name ++ "' (" ++
      spelling h.relation.kind ++ "): " ++ h.threshold.render ++ " -> " ++
      h.choice.strategy.name ++ " negate=" ++ truthName h.choice.negated
  | rejected path model error =>
    "DEBUG existence filter '" ++ path ++ "' on model '" ++ model ++ "' failed: " ++ error.report
  | declared model table mode =>
    "DEBUG schema config: model '" ++ model ++ "' table '" ++ table ++ "' mode " ++
      Mode.display mode

/-- A compiled hop is noted by its report, then by its event. -/
def ofHop (h : HopReport) : List Entry := [hop h, event (.formed h.choice h.index)]

end Entry
end Semijoin
