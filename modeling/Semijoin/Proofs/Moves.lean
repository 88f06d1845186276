import Semijoin.Session

/-! # Programs as moves

A program nests: a scope runs commands of its own.  What it leaves behind does
not, for opening a scope, the commands in it and closing it come one after the
other (`Command.moves`).  `Command.runAll_moves` says that running a program is
making its moves, so that what one move keeps a whole program keeps, and so does
every part of it, cut anywhere, in a scope or not. -/
set_option autoImplicit false
namespace Semijoin

inductive Move where
  | select (name model : String)
  | finish (name : String)
  | call (name : String) (call : Call)
  | setModelMode (model : String) (mode : Mode)
  | resetMetrics
  | openScope
  | closeScope

def Session.move (s : Session) : Move → Session
  | .select name model => (s.select name model).2
  | .finish name => (s.finish name).2
  | .call name c => (s.call name c).2
  | .setModelMode model mode => (s.setModelMode model mode).2
  | .resetMetrics => { s with monitor := s.monitor.resetMetrics }
  | .openScope => { s with monitor := s.monitor.openScope }
  | .closeScope => { s with monitor := s.monitor.closeScope.2 }

/-- The state after some moves. -/
def Session.after (s : Session) (moves : List Move) : Session := moves.foldl Session.move s

mutual

/-- What a command does, in order; one that only looks does nothing. -/
def Command.moves : Command → List Move
  | .select name model => [.select name model]
  | .finish name => [.finish name]
  | .call name c => [.call name c]
  | .look _ => []
  | .setModelMode model mode => [.setModelMode model mode]
  | .readMetrics => []
  | .resetMetrics => [.resetMetrics]
  | .scope body => .openScope :: (Command.movesAll body ++ [.closeScope])

def Command.movesAll : List Command → List Move
  | [] => []
  | c :: rest => c.moves ++ Command.movesAll rest

end

theorem Session.after_append (s : Session) (first second : List Move) :
    s.after (first ++ second) = (s.after first).after second := List.foldl_append

mutual

theorem Command.run_moves (s : Session) : ∀ c : Command, (c.run s).2 = s.after c.moves
  | .select .. => rfl
  | .finish _ => rfl
  | .call .. => rfl
  | .look _ => rfl
  | .setModelMode .. => rfl
  | .readMetrics => rfl
  | .resetMetrics => rfl
  | .scope body => by
    have hbody := Command.runAll_moves { s with monitor := s.monitor.openScope } body
    rw [Command.run, Command.moves, Session.after, List.foldl_cons]
    change _ = Session.after (s.move .openScope) (Command.movesAll body ++ [.closeScope])
    rw [Session.after_append]
    simp only [hbody]
    rfl

theorem Command.runAll_moves (s : Session) : ∀ program : List Command,
    (Command.runAll s program).2 = s.after (Command.movesAll program)
  | [] => rfl
  | c :: rest => by
    have hfirst := Command.run_moves s c
    have hrest := Command.runAll_moves (c.run s).2 rest
    rw [Command.runAll, Command.movesAll, Session.after_append, ← hfirst, ← hrest]

end

/-! ## Noting a journal -/

namespace Monitor

/-- All events noted so far, to whomever they were delivered. -/
def events (m : Monitor) : List Event := m.log.filterMap Entry.event?

def deliverAll (m : Monitor) (es : List Event) : Monitor :=
  match m.scopes with
  | [] => { m with metrics := es.foldl Metrics.record m.metrics }
  | inner :: outer => { m with scopes := (inner ++ es) :: outer }

/-- A journal is logged as it is, and its events go in order to the innermost
open scope, or to the metrics if there is none. -/
theorem noteAll_eq (entries : List Entry) : ∀ m : Monitor, m.noteAll entries =
    { m.deliverAll (entries.filterMap Entry.event?) with log := m.log ++ entries } := by
  induction entries with
  | nil =>
      rintro ⟨metrics, scopes, log⟩
      cases scopes with
      | nil => simp only [noteAll, deliverAll, List.foldl_nil, List.filterMap_nil, List.append_nil]
      | cons inner outer =>
          simp only [noteAll, deliverAll, List.foldl_nil, List.filterMap_nil, List.append_nil]
  | cons entry rest ih =>
      rintro ⟨metrics, scopes, log⟩
      rw [noteAll, List.foldl_cons, ← noteAll, ih, List.filterMap_cons]
      cases scopes with
      | nil =>
          cases hentry : entry.event? with
          | none => simp only [note, hentry, deliverAll, List.append_assoc, List.singleton_append]
          | some e =>
              simp only [note, hentry, deliver, deliverAll, List.append_assoc,
                List.singleton_append, List.foldl_cons]
      | cons inner outer =>
          cases hentry : entry.event? with
          | none => simp only [note, hentry, deliverAll, List.append_assoc, List.singleton_append]
          | some e =>
              simp only [note, hentry, deliver, deliverAll, List.append_assoc,
                List.singleton_append]

theorem metrics_noteAll (m : Monitor) (entries : List Entry) : (m.noteAll entries).metrics =
    if m.scopes.isEmpty then (entries.filterMap Entry.event?).foldl Metrics.record m.metrics
    else m.metrics := by
  rw [noteAll_eq, deliverAll]
  cases m.scopes with
  | nil => rfl
  | cons inner outer => rfl

theorem scopes_noteAll (m : Monitor) (entries : List Entry) : (m.noteAll entries).scopes =
    match m.scopes with
    | [] => []
    | inner :: outer => (inner ++ entries.filterMap Entry.event?) :: outer := by
  rw [noteAll_eq, deliverAll]
  cases m.scopes with
  | nil => rfl
  | cons inner outer => rfl

end Monitor
end Semijoin
