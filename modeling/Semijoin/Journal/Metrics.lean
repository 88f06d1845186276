import Semijoin.Journal.Entry

/-! # Metrics

Counters of what was compiled, overall and by model.  A counter is a 64-bit word
that stays at its largest value once it is there.  The models stand in the order
of their names, so the order of events on different models leaves no trace. -/
set_option autoImplicit false
namespace Semijoin

/-- One more, up to the largest word. -/
def tick (n : UInt64) : UInt64 := if n + 1 = 0 then n else n + 1

structure ModelTotals where
  calls : UInt64 := 0
  failures : UInt64 := 0
deriving DecidableEq, Repr

structure Totals where
  calls : UInt64 := 0
  failures : UInt64 := 0
  existence : UInt64 := 0
  notExistence : UInt64 := 0
  membership : UInt64 := 0
  notMembership : UInt64 := 0
  count : UInt64 := 0
  invalidInput : UInt64 := 0
  notFound : UInt64 := 0
  unsupported : UInt64 := 0
  conflict : UInt64 := 0
deriving DecidableEq, Repr

namespace Totals

def countFilter (t : Totals) : Choice → Totals
  | ⟨.existence, false⟩ => { t with existence := tick t.existence }
  | ⟨.existence, true⟩ => { t with notExistence := tick t.notExistence }
  | ⟨.membership, false⟩ => { t with membership := tick t.membership }
  | ⟨.membership, true⟩ => { t with notMembership := tick t.notMembership }
  | ⟨.count, _⟩ => { t with count := tick t.count }

def countReason (t : Totals) : FilterError.Class → Totals
  | .invalidInput => { t with invalidInput := tick t.invalidInput }
  | .notFound => { t with notFound := tick t.notFound }
  | .unsupported => { t with unsupported := tick t.unsupported }
  | .conflict => { t with conflict := tick t.conflict }

end Totals

structure Metrics where
  totals : Totals := {}
  models : List (String × ModelTotals) := []
deriving DecidableEq, Repr

namespace Metrics

/-- Changes the totals of one model, which start at zero. -/
def modifyModel (name : String) (f : ModelTotals → ModelTotals) :
    List (String × ModelTotals) → List (String × ModelTotals)
  | [] => [(name, f {})]
  | (other, totals) :: rest =>
    if name = other then (other, f totals) :: rest
    else if name < other then (name, f {}) :: (other, totals) :: rest
    else (other, totals) :: modifyModel name f rest

def record (m : Metrics) : Event → Metrics
  | .started model =>
    { totals := { m.totals with calls := tick m.totals.calls }
      models := modifyModel model (fun t => { t with calls := tick t.calls }) m.models }
  | .formed choice _ => { m with totals := m.totals.countFilter choice }
  | .failed model reason =>
    { totals := { m.totals.countReason reason with failures := tick m.totals.failures }
      models := modifyModel model (fun t => { t with failures := tick t.failures }) m.models }

end Metrics
end Semijoin
