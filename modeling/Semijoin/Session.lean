import Semijoin.Journal.Monitor
import Semijoin.Selection

/-! # Sessions

A session runs commands over one schema: it holds selections by name, and a
monitor that notes what their calls leave behind.  A scope runs commands of its
own and answers with the events among them. -/
set_option autoImplicit false
namespace Semijoin

structure Session where
  schema : Schema
  selections : Catalog (String × Selection) Prod.fst := ∅
  monitor : Monitor := {}

inductive Command where
  /-- Selects all rows of a model under a name, in place of what had the name. -/
  | select (name model : String)
  /-- Hands over the query of a selection and forgets the selection. -/
  | finish (name : String)
  | call (name : String) (call : Call)
  | look (name : String)
  | setModelMode (model : String) (mode : Mode)
  | readMetrics
  | resetMetrics
  | scope (body : List Command)

inductive Answer where
  | selected (result : Except FilterError (Selection × Mode))
  | finished (query : Query)
  /-- A selection, the mode of its next call, and how the last call failed. -/
  | state (selection : Selection) (mode : Mode) (error? : Option FilterError)
  | noSelection (name : String)
  | modelMode (mode : Option Mode) (error? : Option FilterError)
  | metrics (metrics : Metrics)
  | scope (answers : List Answer) (events : List Event)

namespace Session

def selection? (s : Session) (name : String) : Option Selection :=
  (s.selections.find? name).map Prod.snd

def hold (s : Session) (name : String) (sel : Selection) : Session :=
  { s with selections := s.selections.insert (name, sel) }

theorem selection?_hold (s : Session) (name : String) (sel : Selection) (other : String) :
    (s.hold name sel).selection? other = if other = name then some sel else s.selection? other := by
  rw [selection?, hold, Catalog.find?_insert, apply_ite (Option.map Prod.snd)]
  rfl

def select (s : Session) (name model : String) : Answer × Session :=
  match Selection.ofModel s.schema model with
  | .ok sel => (.selected (.ok (sel, sel.currentMode s.schema)), s.hold name sel)
  | .error e => (.selected (.error e), s)

def finish (s : Session) (name : String) : Answer × Session :=
  match s.selection? name with
  | some sel => (.finished sel.query, { s with selections := s.selections.erase name })
  | none => (.noSelection name, s)

def look (s : Session) (name : String) : Answer :=
  match s.selection? name with
  | some sel => .state sel (sel.currentMode s.schema) none
  | none => .noSelection name

def call (s : Session) (name : String) (call : Call) : Answer × Session :=
  match s.selection? name with
  | some sel =>
    let o := sel.call s.schema call
    (.state o.target (o.target.currentMode s.schema) o.error?,
      { s.hold name o.target with monitor := s.monitor.noteAll o.journal })
  | none => (.noSelection name, s)

def setModelMode (s : Session) (model : String) (mode : Mode) : Answer × Session :=
  let o := s.schema.setMode model mode
  (.modelMode (o.target.modeOf model) o.error?,
    { s with schema := o.target, monitor := s.monitor.noteAll o.journal })

variable (s : Session) (name : String)

@[simp] theorem select_schema (model : String) : (s.select name model).2.schema = s.schema := by
  rw [select]
  cases Selection.ofModel s.schema model <;> rfl

@[simp] theorem select_monitor (model : String) : (s.select name model).2.monitor = s.monitor := by
  rw [select]
  cases Selection.ofModel s.schema model <;> rfl

@[simp] theorem finish_schema : (s.finish name).2.schema = s.schema := by
  rw [finish]
  cases s.selection? name <;> rfl

@[simp] theorem finish_monitor : (s.finish name).2.monitor = s.monitor := by
  rw [finish]
  cases s.selection? name <;> rfl

@[simp] theorem call_schema (c : Call) : (s.call name c).2.schema = s.schema := by
  rw [call]
  cases s.selection? name <;> rfl

end Session

mutual

def Command.run (s : Session) : Command → Answer × Session
  | .select name model => s.select name model
  | .finish name => s.finish name
  | .call name c => s.call name c
  | .look name => (s.look name, s)
  | .setModelMode model mode => s.setModelMode model mode
  | .readMetrics => (.metrics s.monitor.metrics, s)
  | .resetMetrics =>
    let monitor := s.monitor.resetMetrics
    (.metrics monitor.metrics, { s with monitor })
  | .scope body =>
    let (answers, inner) := Command.runAll { s with monitor := s.monitor.openScope } body
    let (events, monitor) := inner.monitor.closeScope
    (.scope answers events, { inner with monitor })

def Command.runAll (s : Session) : List Command → List Answer × Session
  | [] => ([], s)
  | c :: rest =>
    let (answer, s) := c.run s
    let (answers, s) := Command.runAll s rest
    (answer :: answers, s)

end

end Semijoin
