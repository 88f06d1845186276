import Semijoin.Journal.Metrics

/-! # Monitors

A monitor keeps the log of all entries and delivers the events among them: to
the innermost open scope, which collects them in order, or to the metrics if no
scope is open. -/
set_option autoImplicit false
namespace Semijoin

structure Monitor where
  metrics : Metrics := {}
  /-- What the open scopes have collected, the innermost scope first. -/
  scopes : List (List Event) := []
  log : List Entry := []

namespace Monitor

def deliver (m : Monitor) (e : Event) : Monitor :=
  match m.scopes with
  | [] => { m with metrics := m.metrics.record e }
  | inner :: outer => { m with scopes := (inner ++ [e]) :: outer }

def note (m : Monitor) (entry : Entry) : Monitor :=
  let logged := { m with log := m.log ++ [entry] }
  match entry.event? with
  | some e => logged.deliver e
  | none => logged

def noteAll (m : Monitor) (entries : List Entry) : Monitor := entries.foldl note m

def openScope (m : Monitor) : Monitor := { m with scopes := [] :: m.scopes }

/-- Closes the innermost scope and hands over what it collected. -/
def closeScope (m : Monitor) : List Event × Monitor :=
  match m.scopes with
  | [] => ([], m)
  | inner :: outer => (inner, { m with scopes := outer })

def resetMetrics (m : Monitor) : Monitor := { m with metrics := {} }

end Monitor
end Semijoin
