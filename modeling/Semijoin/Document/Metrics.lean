import Semijoin.Document.Datum
import Semijoin.Journal.Metrics

/-! # Metrics in documents

A counter is a whole number that fits an unsigned 64-bit word. -/
set_option autoImplicit false
namespace Semijoin

instance : Documented UInt64 where
  toDatum n := .int n.toNat
  ofDatum? _
    | .int n => if 0 ≤ n ∧ n < UInt64.size then some (.ofNat n.toNat) else none
    | _ => none

instance : Documented ModelTotals where
  toDatum t := .record [("compile_calls", toDatum t.calls), ("failures", toDatum t.failures)]
  ofDatum? f d := do
    let fields ← Fields.read? f ["compile_calls", "failures"] false d
    return { calls := ← fields.required f "compile_calls",
             failures := ← fields.required f "failures" }

def Totals.fieldNames : List String :=
  ["compile_calls", "failures", "exists_fragments", "not_exists_fragments", "in_fragments",
    "not_in_fragments", "count_fragments", "invalid_input", "not_found", "unsupported", "conflict"]

instance : Documented Totals where
  toDatum t := .record (Totals.fieldNames.zip
    ([t.calls, t.failures, t.existence, t.notExistence, t.membership, t.notMembership, t.count,
      t.invalidInput, t.notFound, t.unsupported, t.conflict].map toDatum))
  ofDatum? f d := do
    let fields ← Fields.read? f Totals.fieldNames false d
    return { calls := ← fields.required f "compile_calls"
             failures := ← fields.required f "failures"
             existence := ← fields.required f "exists_fragments"
             notExistence := ← fields.required f "not_exists_fragments"
             membership := ← fields.required f "in_fragments"
             notMembership := ← fields.required f "not_in_fragments"
             count := ← fields.required f "count_fragments"
             invalidInput := ← fields.required f "invalid_input"
             notFound := ← fields.required f "not_found"
             unsupported := ← fields.required f "unsupported"
             conflict := ← fields.required f "conflict" }

instance : Documented Metrics where
  toDatum m := .record [("ops", toDatum m.totals),
    ("models", .record (m.models.map fun (name, totals) => (name, toDatum totals)))]
  ofDatum? f d := do
    let fields ← Fields.read? f ["ops", "models"] false d
    let models ← (← fields.get? "models").record?
    return { totals := ← fields.required f "ops"
             models := (← models.mapM fun (name, d) => return (name, ← ofDatum? f d)).foldl
               (fun models (name, totals) => Metrics.modifyModel name (fun _ => totals) models) [] }

end Semijoin
