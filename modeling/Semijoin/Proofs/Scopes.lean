import Semijoin.Proofs.Interleaving

/-! # Scopes

What a program has occur can be told without looking at its monitor: events, each
in the innermost scope that is open, and resets (`Command.occursAll`).  A scope is
known by its address, the indices of the commands that lead to it.

`Session.scopes_bracketed` says that the scope at an address collects the events
of that address and no others, that the metrics count those outside all scopes,
and that apart from these a program does what it would without its scopes. -/
set_option autoImplicit false
namespace Semijoin

/-- The index of a scope among the commands around it, after the address of the
scope they are in.  Outside all scopes it is empty. -/
abbrev Address := List Nat

inductive Occurrence where
  /-- An event, with the address of the innermost scope open. -/
  | event (address : Address) (event : Event)
  | reset

namespace Occurrence

/-- The occurrence seen from around the scope that has this index. -/
def within (i : Nat) : Occurrence → Occurrence
  | event address e => event (i :: address) e
  | reset => reset

def event? : Occurrence → Option Event
  | event _ e => some e
  | reset => none

def eventAt? (address : Address) : Occurrence → Option Event
  | event a e => if a = address then some e else none
  | reset => none

def eventsAt (address : Address) (os : List Occurrence) : List Event :=
  os.filterMap (eventAt? address)

end Occurrence

mutual

/-- What occurs in a command that has this index. -/
def Command.occurs (s : Session) (i : Nat) : Command → List Occurrence
  | .call name c => (s.reply name c).events.map (.event [])
  | .setModelMode model mode => (s.schema.setMode model mode).events.map (.event [])
  | .resetMetrics => [.reset]
  | .scope body =>
    (Command.occursAll { s with monitor := s.monitor.openScope } 0 body).map (.within i)
  | _ => []

/-- What occurs in commands that have the indices from this one on. -/
def Command.occursAll (s : Session) (i : Nat) : List Command → List Occurrence
  | [] => []
  | c :: rest => c.occurs s i ++ Command.occursAll (c.run s).2 (i + 1) rest

end

/-- The commands of the scope at an address, and at the empty one the program. -/
def Command.bodyAt? : Address → List Command → Option (List Command)
  | [], program => some program
  | i :: address, program =>
    match program[i]? with
    | some (.scope body) => Command.bodyAt? address body
    | _ => none

/-- The events that the scope at an address answers with. -/
def Answer.collected? : Address → List Answer → Option (List Event)
  | [], _ => none
  | [i], answers =>
    match answers[i]? with
    | some (.scope _ events) => some events
    | _ => none
  | i :: next :: address, answers =>
    match answers[i]? with
    | some (.scope inner _) => Answer.collected? (next :: address) inner
    | _ => none

/-- An event is counted if it is outside all scopes; a reset starts afresh. -/
def Metrics.heed (outside : Bool) (m : Metrics) : Occurrence → Metrics
  | .event address e => if outside && address.isEmpty then m.record e else m
  | .reset => {}

/-! ## Events by address -/

namespace Occurrence

theorem eventsAt_append (address : Address) (os later : List Occurrence) :
    eventsAt address (os ++ later) = eventsAt address os ++ eventsAt address later :=
  List.filterMap_append

theorem eventsAt_eq_nil {address : Address} {os : List Occurrence}
    (h : ∀ e, event address e ∉ os) : eventsAt address os = [] := by
  refine List.filterMap_eq_nil_iff.mpr fun o ho => ?_
  cases o with
  | reset => rfl
  | event a e =>
      have ha : a ≠ address := fun ha => h e (ha ▸ ho)
      exact if_neg ha

theorem eventsAt_outside (es : List Event) : eventsAt [] (es.map (event [])) = es := by
  rw [eventsAt, List.filterMap_map]
  exact List.filterMap_some

theorem eventsAt_within (i : Nat) (address : Address) (os : List Occurrence) :
    eventsAt (i :: address) (os.map (within i)) = eventsAt address os := by
  rw [eventsAt, List.filterMap_map]
  refine List.filterMap_congr fun o _ => ?_
  cases o with
  | event a e => simp only [Function.comp_apply, within, eventAt?, List.cons.injEq, true_and]
  | reset => rfl

theorem eventsAt_nil_within (i : Nat) (os : List Occurrence) :
    eventsAt [] (os.map (within i)) = [] := by
  apply eventsAt_eq_nil
  intro e hmem
  obtain ⟨o, -, ho⟩ := List.mem_map.mp hmem
  cases o <;> cases ho

theorem event?_outside (es : List Event) : (es.map (event [])).filterMap event? = es := by
  rw [List.filterMap_map]
  exact List.filterMap_some

theorem event?_within (i : Nat) (os : List Occurrence) :
    (os.map (within i)).filterMap event? = os.filterMap event? := by
  rw [List.filterMap_map]
  refine List.filterMap_congr fun o _ => ?_
  cases o <;> rfl

end Occurrence

namespace Command

open Occurrence

mutual

/-- An event of a command occurs outside its scope, if it is one, or in a scope
that is there. -/
theorem address_of_occurs (s : Session) (i : Nat) {address : Address} {e : Event} :
    ∀ c : Command, .event address e ∈ c.occurs s i →
      address = [] ∨ ∃ inner, address = i :: inner ∧ (bodyAt? (0 :: inner) [c]).isSome
  | .call name c, h => by
    obtain ⟨_, -, ho⟩ := List.mem_map.mp h
    cases ho
    exact .inl rfl
  | .setModelMode model mode, h => by
    obtain ⟨_, -, ho⟩ := List.mem_map.mp h
    cases ho
    exact .inl rfl
  | .scope body, h => by
    obtain ⟨o, hmem, ho⟩ := List.mem_map.mp h
    cases o with
    | reset => cases ho
    | event inner e' =>
        cases ho
        refine .inr ⟨inner, rfl, ?_⟩
        rcases address_of_occursAll _ 0 body hmem with rfl | ⟨k, rest, rfl, hbody⟩
        · rfl
        · rw [Nat.zero_add]
          exact hbody
  | .resetMetrics, h => by
    cases h with
    | tail _ h => cases h
  | .select .., h => by cases h
  | .finish _, h => by cases h
  | .look _, h => by cases h
  | .readMetrics, h => by cases h

theorem address_of_occursAll (s : Session) (i : Nat) {address : Address} {e : Event} :
    ∀ program : List Command, .event address e ∈ occursAll s i program →
      address = [] ∨ ∃ k inner, address = (i + k) :: inner ∧ (bodyAt? (k :: inner) program).isSome
  | [], h => by cases h
  | c :: rest, h => by
    rcases List.mem_append.mp h with h | h
    · rcases address_of_occurs s i c h with hnil | ⟨inner, haddress, hbody⟩
      · exact .inl hnil
      · exact .inr ⟨0, inner, haddress, hbody⟩
    · rcases address_of_occursAll (c.run s).2 (i + 1) rest h with hnil | ⟨k, inner, haddress, hbody⟩
      · exact .inl hnil
      · refine .inr ⟨k + 1, inner, ?_, hbody⟩
        rw [haddress, Nat.add_assoc, Nat.add_comm 1 k]

end

theorem eventsAt_occurs_of_ne (s : Session) {i j : Nat} (h : j ≠ i) (address : Address)
    (c : Command) : eventsAt (j :: address) (c.occurs s i) = [] := by
  apply eventsAt_eq_nil
  intro e hmem
  rcases address_of_occurs s i c hmem with hnil | ⟨inner, haddress, -⟩
  · cases hnil
  · exact h (List.cons.inj haddress).1

theorem eventsAt_occursAll_of_lt (s : Session) {i j : Nat} (h : j < i) (address : Address)
    (program : List Command) : eventsAt (j :: address) (occursAll s i program) = [] := by
  apply eventsAt_eq_nil
  intro e hmem
  rcases address_of_occursAll s i program hmem with hnil | ⟨k, inner, haddress, -⟩
  · cases hnil
  · have hj : j = i + k := (List.cons.inj haddress).1
    omega

end Command

/-! ## Where events go -/

namespace Metrics

open Occurrence

theorem heed_outside (outside : Bool) (es : List Event) : ∀ m : Metrics,
    (es.map (event [])).foldl (heed outside) m = if outside then es.foldl record m else m := by
  induction es with
  | nil => intro m; exact (ite_self m).symm
  | cons e rest ih =>
      intro m
      rw [List.map_cons, List.foldl_cons, ih]
      cases outside <;> rfl

/-- Of what occurs within a scope only the resets touch the metrics. -/
theorem heed_within (i : Nat) (outside : Bool) (os : List Occurrence) : ∀ m : Metrics,
    (os.map (within i)).foldl (heed outside) m = os.foldl (heed false) m := by
  induction os with
  | nil => intro m; rfl
  | cons o rest ih =>
      intro m
      have ho : heed outside m (o.within i) = heed false m o := by
        cases o with
        | reset => rfl
        | event address e => cases outside <;> rfl
      rw [List.map_cons, List.foldl_cons, List.foldl_cons, ho, ih]

end Metrics

namespace Monitor

open Occurrence

/-- What occurred has been noted, the scope innermost before has what is outside
all scopes since, and so have the metrics if none was open. -/
structure Routes (m : Monitor) (os : List Occurrence) (m' : Monitor) : Prop where
  events : m'.events = m.events ++ os.filterMap Occurrence.event?
  scopes : m'.scopes = m.scopes.modifyHead (· ++ eventsAt [] os)
  metrics : m'.metrics = os.foldl (Metrics.heed m.scopes.isEmpty) m.metrics

variable {m m' m'' : Monitor} {os later : List Occurrence}

theorem Routes.refl (m : Monitor) : m.Routes [] m := by
  refine ⟨(List.append_nil _).symm, ?_, rfl⟩
  cases m.scopes with
  | nil => rfl
  | cons inner outer => exact congrArg (· :: outer) (List.append_nil inner).symm

theorem Routes.append (h : m.Routes os m') (h' : m'.Routes later m'') :
    m.Routes (os ++ later) m'' := by
  have hempty : m'.scopes.isEmpty = m.scopes.isEmpty := by
    rw [h.scopes]
    cases m.scopes <;> rfl
  refine ⟨?_, ?_, ?_⟩
  · rw [h'.events, h.events, List.filterMap_append, List.append_assoc]
  · rw [h'.scopes, h.scopes, eventsAt_append]
    cases m.scopes with
    | nil => rfl
    | cons inner outer => exact congrArg (· :: outer) (List.append_assoc inner _ _)
  · rw [h'.metrics, h.metrics, hempty, List.foldl_append]

theorem routes_noteAll (m : Monitor) {entries : List Entry} {es : List Event}
    (h : entries.filterMap Entry.event? = es) :
    m.Routes (es.map (event [])) (m.noteAll entries) := by
  refine ⟨?_, ?_, ?_⟩
  · rw [event?_outside, ← h, noteAll_eq]
    exact List.filterMap_append
  · rw [scopes_noteAll, eventsAt_outside, h]
    cases m.scopes <;> rfl
  · rw [metrics_noteAll, Metrics.heed_outside, h]

theorem routes_resetMetrics (m : Monitor) : m.Routes [.reset] m.resetMetrics :=
  ⟨(Routes.refl m).events, (Routes.refl m).scopes, rfl⟩

/-- A scope that is closed hands over what it has, which is what was outside all
scopes within it, and leaves those around it as they were. -/
theorem Routes.scope (h : m.openScope.Routes os m') (i : Nat) :
    m'.closeScope.1 = eventsAt [] os ∧ m'.closeScope.2.scopes = m.scopes ∧
      m.Routes (os.map (within i)) m'.closeScope.2 := by
  have hscopes : m'.scopes = eventsAt [] os :: m.scopes := h.scopes
  have hclose : m'.closeScope = (eventsAt [] os, { m' with scopes := m.scopes }) := by
    rw [closeScope, hscopes]
  rw [hclose]
  refine ⟨rfl, rfl, ?_, ?_, ?_⟩
  · rw [event?_within]
    exact h.events
  · rw [eventsAt_nil_within]
    exact (Routes.refl m).scopes
  · rw [Metrics.heed_within]
    exact h.metrics

end Monitor

namespace Command

open Occurrence

mutual

theorem run_routes (s : Session) (i : Nat) : ∀ c : Command,
    s.monitor.Routes (c.occurs s i) (c.run s).2.monitor
  | .select name model => by
    rw [run, Session.select_monitor]
    exact .refl _
  | .finish name => by
    rw [run, Session.finish_monitor]
    exact .refl _
  | .call name c => by
    obtain ⟨journal, hmonitor, hevents⟩ := s.monitor_call name c
    rw [run, hmonitor]
    exact s.monitor.routes_noteAll hevents
  | .look _ => .refl _
  | .setModelMode model mode => s.monitor.routes_noteAll rfl
  | .readMetrics => .refl _
  | .resetMetrics => s.monitor.routes_resetMetrics
  | .scope body => by
    have hbody := runAll_routes { s with monitor := s.monitor.openScope } 0 body
    exact (hbody.scope i).2.2

theorem runAll_routes (s : Session) (i : Nat) : ∀ program : List Command,
    s.monitor.Routes (occursAll s i program) (runAll s program).2.monitor
  | [] => .refl _
  | c :: rest => (run_routes s i c).append (runAll_routes (c.run s).2 (i + 1) rest)

end

theorem collected?_zero (address : Address) (a : Answer) (answers : List Answer) :
    Answer.collected? (0 :: address) (a :: answers) = Answer.collected? (0 :: address) [a] := by
  cases address <;> rfl

theorem collected?_succ (k : Nat) (address : Address) (a : Answer) (answers : List Answer) :
    Answer.collected? ((k + 1) :: address) (a :: answers) =
      Answer.collected? (k :: address) answers := by
  cases address <;> rfl

mutual

theorem collected?_run (s : Session) (i : Nat) (address : Address) : ∀ c : Command,
    Answer.collected? (0 :: address) [(c.run s).1] =
      (bodyAt? (0 :: address) [c]).map fun _ => eventsAt (i :: address) (c.occurs s i)
  | .scope body => by
    rw [occurs, eventsAt_within]
    cases address with
    | nil =>
        have hbody := runAll_routes { s with monitor := s.monitor.openScope } 0 body
        exact congrArg some (hbody.scope i).1
    | cons k address =>
        have hinner := collected?_runAll { s with monitor := s.monitor.openScope } 0 k address body
        rw [Nat.zero_add] at hinner
        exact hinner
  -- the other commands do not answer with a scope
  | .select name model => by
    rw [run, Session.select]
    cases Selection.ofModel s.schema model <;> cases address <;> rfl
  | .finish name => by
    rw [run, Session.finish]
    cases s.selection? name <;> cases address <;> rfl
  | .call name c => by
    rw [run, Session.call]
    cases s.selection? name <;> cases address <;> rfl
  | .look name => by
    rw [run, Session.look]
    cases s.selection? name <;> cases address <;> rfl
  | .setModelMode .. => by cases address <;> rfl
  | .readMetrics => by cases address <;> rfl
  | .resetMetrics => by cases address <;> rfl

theorem collected?_runAll (s : Session) (i k : Nat) (address : Address) :
    ∀ program : List Command, Answer.collected? (k :: address) (runAll s program).1 =
      (bodyAt? (k :: address) program).map fun _ =>
        eventsAt ((i + k) :: address) (occursAll s i program)
  | [] => by cases address <;> rfl
  | c :: rest => by
    rw [occursAll, eventsAt_append]
    cases k with
    | zero =>
        rw [Nat.add_zero, eventsAt_occursAll_of_lt _ i.lt_succ_self, List.append_nil]
        exact (collected?_zero address _ _).trans (collected?_run s i address c)
    | succ k =>
        have hrest := collected?_runAll (c.run s).2 (i + 1) k address rest
        rw [Nat.add_assoc, Nat.add_comm 1 k] at hrest
        rw [eventsAt_occurs_of_ne s (by omega), List.nil_append]
        exact (collected?_succ k address _ _).trans hrest

end

end Command

/-! ## The same without scopes -/

mutual

/-- The command, or in place of a scope its commands. -/
def Command.flat : Command → List Command
  | .scope body => Command.flatAll body
  | c => [c]

def Command.flatAll : List Command → List Command
  | [] => []
  | c :: rest => c.flat ++ Command.flatAll rest

end

mutual

/-- The answer, or in place of a scope's its answers; readings of the metrics are left out. -/
def Answer.results : Answer → List Answer
  | .scope answers _ => Answer.resultsAll answers
  | .metrics _ => []
  | a => [a]

def Answer.resultsAll : List Answer → List Answer
  | [] => []
  | a :: rest => a.results ++ Answer.resultsAll rest

end

theorem Answer.resultsAll_append (answers later : List Answer) :
    resultsAll (answers ++ later) = resultsAll answers ++ resultsAll later := by
  induction answers with
  | nil => rfl
  | cons a rest ih => rw [List.cons_append, resultsAll, resultsAll, ih, List.append_assoc]

theorem Command.runAll_append (later : List Command) : ∀ (program : List Command) (s : Session),
    runAll s (program ++ later) =
      ((runAll s program).1 ++ (runAll (runAll s program).2 later).1,
        (runAll (runAll s program).2 later).2) := by
  intro program
  induction program with
  | nil => intro s; rfl
  | cons c rest ih =>
      intro s
      have hrest := ih (c.run s).2
      simp only [List.cons_append, runAll, hrest]

namespace Monitor

theorem log_noteAll_congr {m m' : Monitor} (h : m.log = m'.log) (entries : List Entry) :
    (m.noteAll entries).log = (m'.noteAll entries).log := by
  rw [noteAll_eq, noteAll_eq, h]

theorem log_closeScope (m : Monitor) : m.closeScope.2.log = m.log := by
  rw [closeScope]
  cases m.scopes <;> rfl

end Monitor

namespace Session

/-- The sessions differ at most in what has been counted and collected. -/
structure Matches (s t : Session) : Prop where
  schema : s.schema = t.schema
  selections : s.selections = t.selections
  log : s.monitor.log = t.monitor.log

variable {s t : Session}

theorem Matches.selection? (h : s.Matches t) (name : String) :
    s.selection? name = t.selection? name := by
  rw [Session.selection?, Session.selection?, h.selections]

theorem Matches.select (h : s.Matches t) (name model : String) :
    (s.select name model).1 = (t.select name model).1 ∧
      (s.select name model).2.Matches (t.select name model).2 := by
  rw [Session.select, Session.select, ← h.schema]
  cases Selection.ofModel s.schema model with
  | error e => exact ⟨rfl, h⟩
  | ok sel => exact ⟨rfl, h.schema, congrArg (·.insert (name, sel)) h.selections, h.log⟩

theorem Matches.finish (h : s.Matches t) (name : String) :
    (s.finish name).1 = (t.finish name).1 ∧ (s.finish name).2.Matches (t.finish name).2 := by
  rw [Session.finish, Session.finish, ← h.selection?]
  cases s.selection? name with
  | none => exact ⟨rfl, h⟩
  | some sel => exact ⟨rfl, h.schema, congrArg (·.erase name) h.selections, h.log⟩

theorem Matches.look (h : s.Matches t) (name : String) : s.look name = t.look name := by
  rw [Session.look, Session.look, ← h.selection?, h.schema]

theorem Matches.call (h : s.Matches t) (name : String) (c : Call) :
    (s.call name c).1 = (t.call name c).1 ∧ (s.call name c).2.Matches (t.call name c).2 := by
  rw [Session.call, Session.call, ← h.selection?, ← h.schema]
  cases s.selection? name with
  | none => exact ⟨rfl, h⟩
  | some sel =>
      refine ⟨rfl, h.schema, ?_, ?_⟩
      · exact congrArg (·.insert (name, (sel.call s.schema c).target)) h.selections
      · exact Monitor.log_noteAll_congr h.log _

theorem Matches.setModelMode (h : s.Matches t) (model : String) (mode : Mode) :
    (s.setModelMode model mode).1 = (t.setModelMode model mode).1 ∧
      (s.setModelMode model mode).2.Matches (t.setModelMode model mode).2 := by
  rw [Session.setModelMode, Session.setModelMode, ← h.schema]
  exact ⟨rfl, rfl, h.selections, Monitor.log_noteAll_congr h.log _⟩

end Session

theorem Command.run_flat_of_same {s t : Session} {c : Command} (hflat : c.flat = [c])
    (h : (c.run s).1 = (c.run t).1 ∧ (c.run s).2.Matches (c.run t).2) :
    (c.run s).1.results = Answer.resultsAll (runAll t c.flat).1 ∧
      (c.run s).2.Matches (runAll t c.flat).2 := by
  rw [hflat, h.1]
  exact ⟨(List.append_nil _).symm, h.2⟩

mutual

/-- The commands of a scope do in its place what it does, whatever has been counted
and collected so far. -/
theorem Command.run_flat {s t : Session} (h : s.Matches t) : ∀ c : Command,
    (c.run s).1.results = Answer.resultsAll (runAll t c.flat).1 ∧
      (c.run s).2.Matches (runAll t c.flat).2
  | .select name model => Command.run_flat_of_same rfl (h.select name model)
  | .finish name => Command.run_flat_of_same rfl (h.finish name)
  | .call name c => Command.run_flat_of_same rfl (h.call name c)
  | .look name => Command.run_flat_of_same rfl ⟨h.look name, h⟩
  | .setModelMode model mode => Command.run_flat_of_same rfl (h.setModelMode model mode)
  | .readMetrics => ⟨rfl, h⟩
  | .resetMetrics => ⟨rfl, h.schema, h.selections, h.log⟩
  | .scope body => by
    have hopen : Session.Matches { s with monitor := s.monitor.openScope } t :=
      ⟨h.schema, h.selections, h.log⟩
    obtain ⟨hresults, hafter⟩ := Command.runAll_flat hopen body
    have hlog := (Monitor.log_closeScope _).trans hafter.log
    exact ⟨hresults, hafter.schema, hafter.selections, hlog⟩

theorem Command.runAll_flat {s t : Session} (h : s.Matches t) : ∀ program : List Command,
    Answer.resultsAll (runAll s program).1 = Answer.resultsAll (runAll t (flatAll program)).1 ∧
      (runAll s program).2.Matches (runAll t (flatAll program)).2
  | [] => ⟨rfl, h⟩
  | c :: rest => by
    obtain ⟨hfirst, hmatches⟩ := Command.run_flat h c
    obtain ⟨hrest, hafter⟩ := Command.runAll_flat hmatches rest
    rw [flatAll, runAll_append, Answer.resultsAll_append, ← hfirst, ← hrest]
    exact ⟨rfl, hafter⟩

end

/-- A program with scopes in scopes, run in any session.  What it notes is what it
has occur, each event outside all scopes or at the address of one.  The scope at an
address answers with the events there, the scope that was innermost before has
those outside, and every scope leaves the ones around it as they were.  The metrics
change by resets and, if no scope was open, by the events outside.  All else is as
it is when the commands of each scope stand in its place. -/
theorem Session.scopes_bracketed (s : Session) (program : List Command) :
    let ran := Command.runAll s program
    let flat := Command.runAll s (Command.flatAll program)
    let os := Command.occursAll s 0 program
    ran.2.monitor.events = s.monitor.events ++ os.filterMap Occurrence.event? ∧
    (∀ address e, .event address e ∈ os → (Command.bodyAt? address program).isSome) ∧
    (∀ i address, Answer.collected? (i :: address) ran.1 =
      (Command.bodyAt? (i :: address) program).map fun _ =>
        Occurrence.eventsAt (i :: address) os) ∧
    ran.2.monitor.scopes = s.monitor.scopes.modifyHead (· ++ Occurrence.eventsAt [] os) ∧
    (∀ (t : Session) (body : List Command),
      ((Command.scope body).run t).2.monitor.scopes = t.monitor.scopes) ∧
    ran.2.monitor.metrics = os.foldl (Metrics.heed s.monitor.scopes.isEmpty) s.monitor.metrics ∧
    Answer.resultsAll ran.1 = Answer.resultsAll flat.1 ∧ ran.2.Matches flat.2 := by
  intro ran flat os
  obtain ⟨hevents, hscopes, hmetrics⟩ := Command.runAll_routes s 0 program
  obtain ⟨hresults, hmatches⟩ := Command.runAll_flat (⟨rfl, rfl, rfl⟩ : s.Matches s) program
  refine ⟨hevents, ?_, ?_, hscopes, ?_, hmetrics, hresults, hmatches⟩
  · intro address e hmem
    rcases Command.address_of_occursAll s 0 program hmem with rfl | ⟨k, inner, rfl, hbody⟩
    · rfl
    · rw [Nat.zero_add]
      exact hbody
  · intro i address
    have hcollected := Command.collected?_runAll s 0 i address program
    rw [Nat.zero_add] at hcollected
    exact hcollected
  · intro t body
    have hbody := Command.runAll_routes { t with monitor := t.monitor.openScope } 0 body
    exact (hbody.scope 0).2.1

namespace Board

/-- A path that leads nowhere, then a scope with a malformed path, a reset and a path
that can be followed; in it another scope, which writes a mode twice. -/
def nested : List Command := [
  .select "q" "post",
  .call "q" (.request "tags" .lacks),
  .scope [
    .call "q" (.request "comments..replies" .lacks),
    .scope [.setModelMode "comment" .existence, .setModelMode "comment" .membership],
    .resetMetrics,
    .call "q" (.request "comments" .lacks)]]

theorem scopes_bracketed_nested :
    let ran := Command.runAll { schema } nested
    let flat := Command.runAll { schema } (Command.flatAll nested)
    Answer.collected? [2] ran.1 = some [.started "post", .failed "post" .invalidInput,
      .started "post", .formed ⟨.existence, true⟩ 0] ∧
    Answer.collected? [2, 1] ran.1 = some [.failed "comment" .conflict] ∧
    ran.2.monitor.metrics = {} ∧ flat.2.monitor.metrics.totals.calls = 1 ∧
    ran.2.selection? "q" = flat.2.selection? "q" := by
  obtain ⟨-, -, hcollected, -, -, hmetrics, -, hmatches⟩ :=
    Session.scopes_bracketed { schema } nested
  exact ⟨hcollected 2 [], hcollected 2 [1], hmetrics, rfl, hmatches.selection? "q"⟩

end Board
end Semijoin
