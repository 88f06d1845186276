import Mathlib.Algebra.Ring.Nat
import Semijoin.Proofs.Moves
import Semijoin.Proofs.Trace

/-! # What the metrics add up to

As long as no counter is full, the metrics count the events that were delivered
to them since they were reset (`Metrics.Gauge`).  The journal of every call is
balanced: it starts once, and then either forms one filter a hop or fails
(`Event.Balanced`).  So the counters balance after every move of a program
(`Session.metrics_balance`). -/
set_option autoImplicit false
namespace Semijoin

/-! ## Counting events -/

namespace Event

def isStart : Event → Bool
  | started _ => true
  | _ => false

def isForm : Event → Bool
  | formed .. => true
  | _ => false

def isFailure : Event → Bool
  | failed .. => true
  | _ => false

def failsBy (reason : FilterError.Class) : Event → Bool
  | failed _ r => r = reason
  | _ => false

theorem countP_isFailure (es : List Event) :
    es.countP isFailure = es.countP (failsBy .invalidInput) + es.countP (failsBy .notFound) +
      es.countP (failsBy .unsupported) + es.countP (failsBy .conflict) := by
  induction es with
  | nil => rfl
  | cons e rest ih =>
      simp only [List.countP_cons, ih]
      cases e with
      | started model => simp [isFailure, failsBy]
      | formed choice depth => simp [isFailure, failsBy]
      | failed model reason => cases reason <;> simp [isFailure, failsBy] <;> omega

end Event

theorem toNat_tick {n : UInt64} (h : n.toNat + 1 < 2 ^ 64) : (tick n).toNat = n.toNat + 1 := by
  have hsucc : (n + 1).toNat = n.toNat + 1 := by
    rw [UInt64.toNat_add]
    exact Nat.mod_eq_of_lt h
  have hne : n + 1 ≠ 0 := by
    intro hzero
    rw [hzero] at hsucc
    cases hsucc
  rw [tick, if_neg hne, hsucc]

namespace Totals

def reason (t : Totals) : FilterError.Class → UInt64
  | .invalidInput => t.invalidInput
  | .notFound => t.notFound
  | .unsupported => t.unsupported
  | .conflict => t.conflict

def forms (t : Totals) : Nat :=
  t.existence.toNat + t.notExistence.toNat + t.membership.toNat + t.notMembership.toNat +
    t.count.toNat

theorem forms_countFilter (t : Totals) (choice : Choice) (h : t.forms + 1 < 2 ^ 64) :
    (t.countFilter choice).forms = t.forms + 1 := by
  rw [forms] at h
  obtain ⟨strategy, negated⟩ := choice
  -- whichever counter it is, it is below the sum
  cases strategy <;> cases negated <;> simp only [countFilter, forms] <;>
    rw [toNat_tick (by omega)] <;> omega

theorem countFilter_others (t : Totals) (choice : Choice) :
    (t.countFilter choice).calls = t.calls ∧ (t.countFilter choice).failures = t.failures ∧
      ∀ r, (t.countFilter choice).reason r = t.reason r := by
  obtain ⟨strategy, negated⟩ := choice
  cases strategy <;> cases negated <;> exact ⟨rfl, rfl, fun r => by cases r <;> rfl⟩

theorem countReason_others (t : Totals) (reason : FilterError.Class) :
    (t.countReason reason).calls = t.calls ∧ (t.countReason reason).forms = t.forms := by
  cases reason <;> exact ⟨rfl, rfl⟩

theorem reason_countReason (t : Totals) (counted r : FilterError.Class) :
    (t.countReason counted).reason r = if counted = r then tick (t.reason r) else t.reason r := by
  cases counted <;> cases r <;> rfl

end Totals

namespace Metrics

/-- Changing one model's totals changes their sum as it changes that model's. -/
theorem sum_modifyModel (name : String) (f : ModelTotals → ModelTotals) (g : ModelTotals → Nat)
    (k : Nat) (hzero : g {} = 0) : ∀ models : List (String × ModelTotals),
    (∀ t, g t ≤ (models.map (g ·.2)).sum → g (f t) = g t + k) →
      ((modifyModel name f models).map (g ·.2)).sum = (models.map (g ·.2)).sum + k := by
  intro models
  induction models with
  | nil =>
      intro h
      have hnew := h {} (by rw [hzero]; exact Nat.zero_le _)
      simp only [modifyModel, List.map_cons, List.map_nil, List.sum_cons, List.sum_nil, hnew, hzero]
      omega
  | cons entry rest ih =>
      obtain ⟨other, totals⟩ := entry
      intro h
      simp only [List.map_cons, List.sum_cons] at h
      rw [modifyModel]
      split
      · have hold := h totals (by omega)
        simp only [List.map_cons, List.sum_cons, hold]
        omega
      · split
        · have hnew := h {} (by rw [hzero]; exact Nat.zero_le _)
          simp only [List.map_cons, List.sum_cons, hnew, hzero]
          omega
        · have hrest := ih fun t ht => h t (by omega)
          simp only [List.map_cons, List.sum_cons, hrest]
          omega

/-- A reading of the metrics that goes up by one with each event of a kind, and
with no other, as long as no counter it reads can be full. -/
def Gauge (reading : Metrics → Nat) (kind : Event → Bool) : Prop :=
  ∀ (m : Metrics) (e : Event), reading m + 1 < 2 ^ 64 →
    reading (m.record e) = reading m + if kind e then 1 else 0

theorem Gauge.recordAll {reading : Metrics → Nat} {kind : Event → Bool} (h : Gauge reading kind) :
    ∀ (es : List Event) (m : Metrics), reading m + es.length < 2 ^ 64 →
      reading (es.foldl record m) = reading m + es.countP kind := by
  intro es
  induction es with
  | nil => intro m _; rfl
  | cons e rest ih =>
      intro m hfew
      rw [List.length_cons] at hfew
      have hstep := h m e (by omega)
      have hone : (if kind e then 1 else 0) ≤ 1 := by split <;> omega
      have hrest := ih (m.record e) (by omega)
      rw [List.foldl_cons, hrest, hstep, List.countP_cons]
      omega

theorem gauge_calls : Gauge (·.totals.calls.toNat) Event.isStart := by
  intro m e hroom
  cases e with
  | started model => exact toNat_tick hroom
  | formed choice depth => exact congrArg UInt64.toNat (m.totals.countFilter_others choice).1
  | failed model reason => exact congrArg UInt64.toNat (m.totals.countReason_others reason).1

theorem gauge_failures : Gauge (·.totals.failures.toNat) Event.isFailure := by
  intro m e hroom
  cases e with
  | started model => rfl
  | formed choice depth => exact congrArg UInt64.toNat (m.totals.countFilter_others choice).2.1
  | failed model reason => exact toNat_tick hroom

theorem gauge_reason (r : FilterError.Class) :
    Gauge (fun m => (m.totals.reason r).toNat) (Event.failsBy r) := by
  intro m e hroom
  cases e with
  | started model => cases r <;> rfl
  | formed choice depth =>
      exact congrArg UInt64.toNat ((m.totals.countFilter_others choice).2.2 r)
  | failed model reason =>
      have hreason : (m.record (.failed model reason)).totals.reason r =
          if reason = r then tick (m.totals.reason r) else m.totals.reason r := by
        rw [← Totals.reason_countReason]
        cases r <;> rfl
      simp only [hreason, Event.failsBy]
      by_cases hr : reason = r
      · simp only [hr, if_true, decide_true, toNat_tick hroom]
      · simp only [hr, if_false, decide_false, Bool.false_eq_true, Nat.add_zero]

theorem gauge_forms : Gauge (·.totals.forms) Event.isForm := by
  intro m e hroom
  cases e with
  | started model => rfl
  | formed choice depth => exact m.totals.forms_countFilter choice hroom
  | failed model reason => exact (m.totals.countReason_others reason).2

theorem gauge_modelCalls :
    Gauge (fun m => (m.models.map (·.2.calls.toNat)).sum) Event.isStart := by
  intro m e hroom
  cases e with
  | started model =>
      exact sum_modifyModel model _ (·.calls.toNat) 1 rfl m.models fun t ht =>
        toNat_tick (Nat.lt_of_le_of_lt (Nat.add_le_add_right ht 1) hroom)
  | formed choice depth => rfl
  | failed model reason =>
      exact sum_modifyModel model _ (·.calls.toNat) 0 rfl m.models fun _ _ => rfl

theorem gauge_modelFailures :
    Gauge (fun m => (m.models.map (·.2.failures.toNat)).sum) Event.isFailure := by
  intro m e hroom
  cases e with
  | started model =>
      exact sum_modifyModel model _ (·.failures.toNat) 0 rfl m.models fun _ _ => rfl
  | formed choice depth => rfl
  | failed model reason =>
      exact sum_modifyModel model _ (·.failures.toNat) 1 rfl m.models fun t ht =>
        toNat_tick (Nat.lt_of_le_of_lt (Nat.add_le_add_right ht 1) hroom)

end Metrics

/-! ## Journals balance -/

namespace Event

/-- As many starts as attached conditions and failures, those of a locked mode
apart, and one form for each segment of the attached paths. -/
def Balanced (es : List Event) (paths : List Path) : Prop :=
  es.countP isStart + es.countP (failsBy .conflict) = paths.length + es.countP isFailure ∧
    es.countP isForm = (paths.map (·.segments.length)).sum

theorem Balanced.append {es es' : List Event} {paths paths' : List Path} (h : Balanced es paths)
    (h' : Balanced es' paths') : Balanced (es ++ es') (paths ++ paths') := by
  obtain ⟨hcalls, hforms⟩ := h
  obtain ⟨hcalls', hforms'⟩ := h'
  constructor
  · rw [List.countP_append, List.countP_append, List.countP_append, List.length_append]
    omega
  · rw [List.countP_append, List.map_append, List.sum_append, hforms, hforms']

theorem balanced_formed (model : String) (choices : List Choice) (path : Path)
    (h : choices.length = path.segments.length) :
    Balanced (started model :: formedFrom 0 choices) [path] := by
  have hcount : ∀ (p : Event → Bool) (b : Bool), (∀ choice depth, p (formed choice depth) = b) →
      (formedFrom 0 choices).countP p = if b then choices.length else 0 := by
    intro p b hp
    have hall : ∀ e ∈ formedFrom 0 choices, p e = b := by
      intro e he
      simp only [formedFrom, List.mem_reverse, List.mem_map] at he
      obtain ⟨pair, -, rfl⟩ := he
      exact hp pair.1 pair.2
    have hlength : (formedFrom 0 choices).length = choices.length := by
      simp only [formedFrom, List.length_reverse, List.length_map, List.length_zipIdx]
    cases b with
    | true => rw [List.countP_eq_length.mpr hall, hlength]; rfl
    | false => exact List.countP_eq_zero.mpr fun e he => by rw [hall e he]; decide
  constructor
  · rw [List.countP_cons, List.countP_cons, List.countP_cons, hcount isStart false fun _ _ => rfl,
      hcount (failsBy .conflict) false fun _ _ => rfl, hcount isFailure false fun _ _ => rfl]
    rfl
  · rw [List.countP_cons, hcount isForm true fun _ _ => rfl, h]
    simp [isForm]

theorem balanced_failed (model : String) {reason : FilterError.Class} (h : reason ≠ .conflict) :
    Balanced [started model, failed model reason] [] := by
  cases reason with
  | conflict => exact absurd rfl h
  | _ => exact ⟨rfl, rfl⟩

end Event

theorem Graph.FailsAt.toClass_ne_conflict {g : Graph} {model : String} {segments : List String}
    {e : FilterError} (h : g.FailsAt model segments e) : e.toClass ≠ .conflict := by
  obtain ⟨before, segment, after, reached, -, -, hstops⟩ := h
  cases hstops with
  | _ => nofun

/-- The path of the condition a call attaches, if it attaches one. -/
def Selection.attachedPath? (sel : Selection) (s : Schema) (call : Call) : Option Path :=
  if (sel.call s call).error?.isNone then call.condition?.map Condition.path else none

theorem Graph.attach_balanced (g : Graph) (target : Query) (model : String) (outer : Source)
    (c : Condition) (mode : Mode) :
    Event.Balanced (g.attach target model outer c mode).events
      (if (g.attach target model outer c mode).error?.isNone then some c.path else none).toList := by
  cases herror : (g.attach target model outer c mode).error? with
  | some e =>
      have hfails := (attach_error?_iff target outer c mode).mp herror
      rw [events_of_error herror]
      exact Event.balanced_failed model hfails.toClass_ne_conflict
  | none =>
      obtain ⟨st, later, hwalk⟩ := walk_of_attach herror
      rw [events_of_walk hwalk target outer mode]
      apply Event.balanced_formed
      rw [Step.length_choices, ← length_of_walk hwalk]
      rfl

theorem Selection.call_balanced (sel : Selection) (s : Schema) (call : Call) :
    Event.Balanced (sel.call s call).events (sel.attachedPath? s call).toList := by
  rw [attachedPath?]
  cases hcondition : call.condition? with
  | some c =>
      rw [call_of_condition hcondition]
      exact s.graph.attach_balanced sel.query sel.model sel.query.source c _
  | none =>
      rw [Option.map_none, ite_self]
      cases call with
      | request path request =>
          rw [call_of_malformed hcondition]
          exact Event.balanced_failed sel.model nofun
      | existence condition =>
          cases condition with
          | ok c => cases hcondition
          | error e => exact ⟨rfl, rfl⟩
      | _ => exact ⟨rfl, rfl⟩

theorem Schema.setMode_balanced (s : Schema) (name : String) (mode : Mode) :
    Event.Balanced (s.setMode name mode).events [] := by
  rw [setMode]
  cases s.model name with
  | error e => exact ⟨rfl, rfl⟩
  | ok m =>
      simp only [Model.fixMode]
      cases m.mode with
      | none => exact ⟨rfl, rfl⟩
      | some _ => exact ⟨rfl, rfl⟩

/-! ## Along a program -/

namespace Monitor

/-- The metrics are those of some of the events noted so far, and these balance
with the attached paths. -/
def Tallies (m : Monitor) (paths : List Path) : Prop :=
  ∃ es : List Event, m.metrics = es.foldl Metrics.record {} ∧ es.length ≤ m.events.length ∧
    Event.Balanced es paths

theorem Tallies.noteAll {m : Monitor} {paths more : List Path} (h : m.Tallies paths)
    {journal : List Entry} (hmore : Event.Balanced (journal.filterMap Entry.event?) more) :
    (m.noteAll journal).Tallies (if m.scopes.isEmpty then paths ++ more else paths) := by
  obtain ⟨es, hmetrics, hfew, hbalanced⟩ := h
  have hevents : (m.log ++ journal).filterMap Entry.event? =
      m.events ++ journal.filterMap Entry.event? := List.filterMap_append
  rw [noteAll_eq, deliverAll]
  cases m.scopes with
  | nil =>
      refine ⟨es ++ journal.filterMap Entry.event?, ?_, ?_, hbalanced.append hmore⟩
      · rw [List.foldl_append, ← hmetrics]
      · rw [events, hevents, List.length_append, List.length_append]
        omega
  | cons inner outer =>
      refine ⟨es, hmetrics, ?_, hbalanced⟩
      rw [events, hevents, List.length_append]
      omega

end Monitor

namespace Session

def attachedPath? (s : Session) : Move → Option Path
  | .call name c => (s.selection? name).bind fun sel => sel.attachedPath? s.schema c
  | _ => none

/-- The paths that count after a move: a reset forgets them, and a condition that
is attached while no scope is open adds its own. -/
def counted (s : Session) (paths : List Path) : Move → List Path
  | .resetMetrics => []
  | m => if s.monitor.scopes.isEmpty then paths ++ (s.attachedPath? m).toList else paths

/-- The paths of the conditions attached outside all scopes since the last reset,
or since the start, when there were `paths`. -/
def countedAll (s : Session) (paths : List Path) : List Move → List Path
  | [] => paths
  | m :: rest => (s.move m).countedAll (s.counted paths m) rest

theorem counted_of_none {s : Session} (paths : List Path) (m : Move)
    (hnone : s.attachedPath? m = none) (hm : m ≠ .resetMetrics) : s.counted paths m = paths := by
  have hcounted : s.counted paths m =
      if s.monitor.scopes.isEmpty then paths ++ (s.attachedPath? m).toList else paths := by
    cases m with
    | resetMetrics => exact absurd rfl hm
    | _ => rfl
  rw [hcounted, hnone, Option.toList_none, List.append_nil, ite_self]

/-- One move keeps the metrics in balance with the paths that count. -/
theorem tallies_move {s : Session} {paths : List Path} (h : s.monitor.Tallies paths) (m : Move) :
    (s.move m).monitor.Tallies (s.counted paths m) := by
  cases m with
  | select name model =>
      rw [counted_of_none paths (.select name model) rfl nofun, move, select_monitor]
      exact h
  | finish name =>
      rw [counted_of_none paths (.finish name) rfl nofun, move, finish_monitor]
      exact h
  | call name c =>
      cases hsel : s.selection? name with
      | none =>
          have hnone : s.attachedPath? (.call name c) = none := by
            rw [attachedPath?, hsel, Option.bind_none]
          rw [counted_of_none paths (.call name c) hnone nofun, move, Session.call, hsel]
          exact h
      | some sel =>
          have hpath : s.attachedPath? (.call name c) = sel.attachedPath? s.schema c := by
            rw [attachedPath?, hsel, Option.bind_some]
          have hnoted := h.noteAll (sel.call_balanced s.schema c)
          rw [← hpath] at hnoted
          rw [move, Session.call, hsel]
          exact hnoted
  | setModelMode model mode =>
      have hnoted := h.noteAll (s.schema.setMode_balanced model mode)
      rw [List.append_nil, ite_self] at hnoted
      rw [counted_of_none paths (.setModelMode model mode) rfl nofun]
      exact hnoted
  | resetMetrics => exact ⟨[], rfl, Nat.zero_le _, rfl, rfl⟩
  | openScope =>
      rw [counted_of_none paths .openScope rfl nofun]
      exact h
  | closeScope =>
      rw [counted_of_none paths .closeScope rfl nofun, move, Monitor.closeScope]
      cases s.monitor.scopes with
      | nil => exact h
      | cons inner outer => exact h

theorem tallies_after : ∀ (moves : List Move) {s : Session} {paths : List Path},
    s.monitor.Tallies paths → (s.after moves).monitor.Tallies (s.countedAll paths moves) := by
  intro moves
  induction moves with
  | nil => intro s paths h; exact h
  | cons m rest ih => intro s paths h; exact ih (tallies_move h m)

end Session

/-- What the counters say of each other, and of the paths that count: all as
numbers, since no sum of counters is one. -/
structure Metrics.Balance (m : Metrics) (paths : List Path) : Prop where
  failures : m.totals.failures.toNat = m.totals.invalidInput.toNat + m.totals.notFound.toNat +
    m.totals.unsupported.toNat + m.totals.conflict.toNat
  modelCalls : m.totals.calls.toNat = (m.models.map (·.2.calls.toNat)).sum
  modelFailures : m.totals.failures.toNat = (m.models.map (·.2.failures.toNat)).sum
  refused : m.totals.failures.toNat - m.totals.conflict.toNat ≤ m.totals.calls.toNat
  attached : m.totals.calls.toNat - (m.totals.failures.toNat - m.totals.conflict.toNat) =
    paths.length
  hops : m.totals.existence.toNat + m.totals.notExistence.toNat + m.totals.membership.toNat +
    m.totals.notMembership.toNat + m.totals.count.toNat = (paths.map (·.segments.length)).sum

theorem Monitor.Tallies.balance {m : Monitor} {paths : List Path} (h : m.Tallies paths)
    (hfew : m.events.length < 2 ^ 64) : m.metrics.Balance paths := by
  obtain ⟨es, hmetrics, hlength, hcalls, hforms⟩ := h
  -- every reading starts at zero
  have hread : ∀ {reading : Metrics → Nat} {kind : Event → Bool}, Metrics.Gauge reading kind →
      reading {} = 0 → reading m.metrics = es.countP kind := by
    intro reading kind hgauge hzero
    have hrecorded := hgauge.recordAll es {} (by omega)
    rw [hmetrics, hrecorded, hzero, Nat.zero_add]
  have hstarts := hread Metrics.gauge_calls rfl
  have hfailures := hread Metrics.gauge_failures rfl
  have hinvalid := hread (Metrics.gauge_reason .invalidInput) rfl
  have hnotFound := hread (Metrics.gauge_reason .notFound) rfl
  have hunsupported := hread (Metrics.gauge_reason .unsupported) rfl
  have hconflict := hread (Metrics.gauge_reason .conflict) rfl
  have hsplit := Event.countP_isFailure es
  simp only [Totals.reason] at hinvalid hnotFound hunsupported hconflict
  refine ⟨?_, ?_, ?_, ?_, ?_, ?_⟩
  · rw [hfailures, hsplit, hinvalid, hnotFound, hunsupported, hconflict]
  · rw [hstarts]
    exact (hread Metrics.gauge_modelCalls rfl).symm
  · rw [hfailures]
    exact (hread Metrics.gauge_modelFailures rfl).symm
  · rw [hfailures, hstarts, hconflict]
    omega
  · rw [hfailures, hstarts, hconflict]
    omega
  · rw [← hforms]
    exact hread Metrics.gauge_forms rfl

/-- While a program runs on a new session, in a scope or not, and until so many
events are noted that a counter could be full, the metrics balance after every
move: the failures with their reasons, the totals with those of the models, and
calls and filters with the conditions attached outside all scopes since the last
reset. -/
theorem Session.metrics_balance (schema : Schema) (program : List Command) :
    (Command.runAll { schema } program).2 =
      Session.after { schema } (Command.movesAll program) ∧
    ∀ done : List Move, done <+: Command.movesAll program →
      (Session.after { schema } done).monitor.events.length < 2 ^ 64 →
      (Session.after { schema } done).monitor.metrics.Balance
        (Session.countedAll { schema } [] done) := by
  refine ⟨Command.runAll_moves _ program, fun done _ hfew => ?_⟩
  have hstart : ({ schema } : Session).monitor.Tallies [] := ⟨[], rfl, Nat.zero_le _, rfl, rfl⟩
  exact (tallies_after done hstart).balance hfew

namespace Board

/-- What is counted before the reset is forgotten; after it a malformed path, a
mode set twice, a path that leads nowhere, a condition in a scope and one outside. -/
def busy : List Command := [
  .select "q" "post",
  .call "q" (.request "comments" (.has .any)),
  .resetMetrics,
  .call "q" (.request "comments..replies" .lacks),
  .setModelMode "post" .membership,
  .setModelMode "post" .membership,
  .call "q" (.request "comments.posts" (.has .any)),
  .scope [.call "q" (.request "comments" .lacks)],
  .call "q" (.existence (.ok (asks .none)))]

theorem metrics_balance_busy :
    let s := Session.after { schema } (Command.movesAll busy)
    s.monitor.events.length < 2 ^ 64 ∧
      Session.countedAll { schema } [] (Command.movesAll busy) = [path] ∧
      s.monitor.metrics.totals.calls = 3 ∧ s.monitor.metrics.totals.failures = 3 ∧
      s.monitor.metrics.Balance [path] := by
  intro s
  have hevents : s.monitor.events.length = 12 := rfl
  have hfew : s.monitor.events.length < 2 ^ 64 := by rw [hevents]; decide
  have hpaths : Session.countedAll { schema } [] (Command.movesAll busy) = [path] := rfl
  have hbalance := (Session.metrics_balance schema busy).2 _ (List.prefix_refl _) hfew
  rw [hpaths] at hbalance
  exact ⟨hfew, hpaths, rfl, rfl, hbalance⟩

end Board
end Semijoin
