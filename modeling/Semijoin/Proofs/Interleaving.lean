import Mathlib.Data.List.Basic
import Semijoin.Proofs.Walk
import Semijoin.Proofs.Moves

/-! # Calls in another order

A call reads the schema and its own selection, and the metrics count events in
any order alike (`Metrics.record_comm`).  So what the calls on one selection are
answered, and what it is in the end, does not depend on the calls on others in
between (`Session.replies_filter`), and neither does what is counted.
`Session.calls_commute` says so of two selections whose calls interleave. -/
set_option autoImplicit false
namespace Semijoin

/-! ## Counting in any order -/

namespace Totals

theorem countFilter_comm (t : Totals) (choice choice' : Choice) :
    (t.countFilter choice).countFilter choice' = (t.countFilter choice').countFilter choice := by
  obtain ⟨strategy, negated⟩ := choice
  obtain ⟨strategy', negated'⟩ := choice'
  cases strategy <;> cases negated <;> cases strategy' <;> cases negated' <;>
    simp only [countFilter]

end Totals

namespace Metrics

variable {f g : ModelTotals → ModelTotals}

theorem modifyModel_of_lt {name other : String} (h : name < other) (totals : ModelTotals)
    (rest : List (String × ModelTotals)) :
    modifyModel name f ((other, totals) :: rest) = (name, f {}) :: (other, totals) :: rest := by
  rw [modifyModel, if_neg (String.ne_of_lt h), if_pos h]

theorem modifyModel_of_gt {name other : String} (h : other < name) (totals : ModelTotals)
    (rest : List (String × ModelTotals)) :
    modifyModel name f ((other, totals) :: rest) = (other, totals) :: modifyModel name f rest := by
  rw [modifyModel, if_neg (String.ne_of_lt h).symm, if_neg (String.lt_asymm h)]

theorem modifyModel_self (name : String) (totals : ModelTotals)
    (rest : List (String × ModelTotals)) :
    modifyModel name f ((name, totals) :: rest) = (name, f totals) :: rest := by
  rw [modifyModel, if_pos rfl]

theorem modifyModel_twice (name : String) : ∀ models : List (String × ModelTotals),
    modifyModel name f (modifyModel name g models) = modifyModel name (f ∘ g) models := by
  intro models
  induction models with
  | nil => exact modifyModel_self name (g {}) []
  | cons entry rest ih =>
      obtain ⟨other, totals⟩ := entry
      rcases Std.lt_trichotomy name other with h | rfl | h
      · rw [modifyModel_of_lt h, modifyModel_of_lt h, modifyModel_self]
        rfl
      · rw [modifyModel_self, modifyModel_self, modifyModel_self]
        rfl
      · rw [modifyModel_of_gt h, modifyModel_of_gt h, modifyModel_of_gt h, ih]

theorem modifyModel_comm_of_lt {name name' : String} (h : name < name') :
    ∀ models : List (String × ModelTotals), modifyModel name f (modifyModel name' g models) =
      modifyModel name' g (modifyModel name f models) := by
  intro models
  induction models with
  | nil =>
      have hfirst : modifyModel name f [(name', g {})] = [(name, f {}), (name', g {})] :=
        modifyModel_of_lt h (g {}) []
      have hsecond : modifyModel name' g [(name, f {})] = [(name, f {}), (name', g {})] :=
        modifyModel_of_gt h (f {}) []
      exact hfirst.trans hsecond.symm
  | cons entry rest ih =>
      obtain ⟨other, totals⟩ := entry
      rcases Std.lt_trichotomy name other with hname | rfl | hname
      · -- the entry of `name` goes in front, whatever becomes of `other`
        rw [modifyModel_of_lt hname, modifyModel_of_gt h]
        rcases Std.lt_trichotomy name' other with hother | rfl | hother
        · rw [modifyModel_of_lt hother, modifyModel_of_lt h]
        · rw [modifyModel_self, modifyModel_of_lt h]
        · rw [modifyModel_of_gt hother, modifyModel_of_lt hname]
      · rw [modifyModel_of_gt h, modifyModel_self, modifyModel_self, modifyModel_of_gt h]
      · rw [modifyModel_of_gt (String.lt_trans hname h), modifyModel_of_gt hname, modifyModel_of_gt hname,
          modifyModel_of_gt (String.lt_trans hname h), ih]

/-- Changes of two models' totals commute, and those of one model's if the changes
themselves do. -/
theorem modifyModel_comm (name name' : String) (hcomm : f ∘ g = g ∘ f)
    (models : List (String × ModelTotals)) : modifyModel name f (modifyModel name' g models) =
      modifyModel name' g (modifyModel name f models) := by
  rcases Std.lt_trichotomy name name' with h | rfl | h
  · exact modifyModel_comm_of_lt h models
  · rw [modifyModel_twice, modifyModel_twice, hcomm]
  · exact (modifyModel_comm_of_lt h models).symm

/-- A formed filter is counted in a total that no other event counts in, or in one
that each counts up by itself. -/
theorem record_formed_comm (m : Metrics) (choice : Choice) (depth : Nat) (e : Event) :
    (m.record (.formed choice depth)).record e = (m.record e).record (.formed choice depth) := by
  cases e with
  | started model =>
      obtain ⟨strategy, negated⟩ := choice
      cases strategy <;> cases negated <;> simp only [record, Totals.countFilter]
  | formed choice' depth' => simp only [record, Totals.countFilter_comm m.totals choice choice']
  | failed model reason =>
      obtain ⟨strategy, negated⟩ := choice
      cases strategy <;> cases negated <;> cases reason <;>
        simp only [record, Totals.countFilter, Totals.countReason]

/-- Of two events the metrics do not show which came first. -/
theorem record_comm (m : Metrics) (e e' : Event) :
    (m.record e).record e' = (m.record e').record e := by
  cases e with
  | formed choice depth => exact m.record_formed_comm choice depth e'
  | started model =>
      cases e' with
      | formed choice depth => exact (m.record_formed_comm choice depth (.started model)).symm
      | started model' => exact congrArg₂ mk rfl (modifyModel_comm model' model (by rfl) m.models)
      | failed model' reason =>
          refine congrArg₂ mk ?_ (modifyModel_comm model' model (by rfl) m.models)
          cases reason <;> simp only [record, Totals.countReason]
  | failed model reason =>
      cases e' with
      | formed choice depth =>
          exact (m.record_formed_comm choice depth (.failed model reason)).symm
      | started model' =>
          refine congrArg₂ mk ?_ (modifyModel_comm model' model (by rfl) m.models)
          cases reason <;> simp only [record, Totals.countReason]
      | failed model' reason' =>
          refine congrArg₂ mk ?_ (modifyModel_comm model' model (by rfl) m.models)
          cases reason <;> cases reason' <;> simp only [record, Totals.countReason]

/-- What the metrics count is the same for the same events in another order. -/
theorem recordAll_of_perm (m : Metrics) {es es' : List Event} (h : es.Perm es') :
    es.foldl record m = es'.foldl record m :=
  h.foldl_eq' (fun e _ e' _ m => m.record_comm e e') m

end Metrics

/-! ## Calls on selections by name -/

/-- What a call on a name brings about: the answer, what the name holds then, and
the events. -/
structure Reply where
  answer : Answer
  held : Option Selection
  events : List Event

/-- The reply to a call on a name, from the schema and what the name holds alone. -/
def Reply.to (schema : Schema) (name : String) (held : Option Selection) (c : Call) : Reply :=
  match held with
  | some sel =>
    let o := sel.call schema c
    ⟨.state o.target (o.target.currentMode schema) o.error?, some o.target, o.events⟩
  | none => ⟨.noSelection name, none, []⟩

def Reply.toAll (schema : Schema) : Option Selection → List (String × Call) → List (String × Reply)
  | _, [] => []
  | held, (name, c) :: rest =>
    let reply := Reply.to schema name held c
    (name, reply) :: Reply.toAll schema reply.held rest

def Command.calls (named : List (String × Call)) : List Command :=
  named.map fun (name, c) => .call name c

def Answer.toCallsOn (name : String) (named : List (String × Call)) (answers : List Answer) :
    List Answer :=
  ((named.zip answers).filter (·.1.1 = name)).map Prod.snd

namespace Session

def reply (s : Session) (name : String) (c : Call) : Reply :=
  .to s.schema name (s.selection? name) c

def replies (s : Session) : List (String × Call) → List (String × Reply)
  | [] => []
  | (name, c) :: rest => (name, s.reply name c) :: (s.call name c).2.replies rest

theorem answer_call (s : Session) (name : String) (c : Call) :
    (s.call name c).1 = (s.reply name c).answer := by
  rw [Session.call, reply]
  cases s.selection? name with
  | none => rfl
  | some sel => rfl

theorem selection?_call (s : Session) (name : String) (c : Call) (other : String) :
    (s.call name c).2.selection? other =
      if other = name then (s.reply name c).held else s.selection? other := by
  rw [Session.call, reply]
  cases hsel : s.selection? name with
  | none =>
      change s.selection? other = if other = name then none else s.selection? other
      by_cases hother : other = name
      · rw [if_pos hother, hother, hsel]
      · rw [if_neg hother]
  | some sel => exact s.selection?_hold name (sel.call s.schema c).target other

theorem monitor_call (s : Session) (name : String) (c : Call) :
    ∃ journal : List Entry, (s.call name c).2.monitor = s.monitor.noteAll journal ∧
      journal.filterMap Entry.event? = (s.reply name c).events := by
  rw [Session.call, reply]
  cases s.selection? name with
  | none => exact ⟨[], rfl, rfl⟩
  | some sel => exact ⟨(sel.call s.schema c).journal, rfl, rfl⟩

/-- Of the replies to calls by name, those of one name are what its calls get when
they are made alone. -/
theorem replies_filter (name : String) : ∀ (named : List (String × Call)) (s : Session),
    (s.replies named).filter (·.1 = name) =
      Reply.toAll s.schema (s.selection? name) (named.filter (·.1 = name)) := by
  intro named
  induction named with
  | nil => intro s; rfl
  | cons first rest ih =>
      obtain ⟨other, c⟩ := first
      intro s
      have hrest := ih (s.call other c).2
      rw [call_schema, selection?_call] at hrest
      rw [replies]
      by_cases hother : other = name
      · subst hother
        rw [if_pos rfl] at hrest
        simp only [List.filter_cons, decide_true, if_true, hrest, Reply.toAll]
        rfl
      · rw [if_neg (Ne.symm hother)] at hrest
        simp only [List.filter_cons, hother, decide_false, Bool.false_eq_true, if_false, hrest]

theorem runAll_calls_cons (s : Session) (name : String) (c : Call) (rest : List (String × Call)) :
    Command.runAll s (Command.calls ((name, c) :: rest)) =
      ((s.call name c).1 :: (Command.runAll (s.call name c).2 (Command.calls rest)).1,
        (Command.runAll (s.call name c).2 (Command.calls rest)).2) := rfl

theorem answers_calls (name : String) : ∀ (named : List (String × Call)) (s : Session),
    Answer.toCallsOn name named (Command.runAll s (Command.calls named)).1 =
      ((s.replies named).filter (·.1 = name)).map (·.2.answer) := by
  intro named
  induction named with
  | nil => intro s; rfl
  | cons first rest ih =>
      obtain ⟨other, c⟩ := first
      intro s
      have hrest := ih (s.call other c).2
      rw [Answer.toCallsOn] at hrest
      rw [runAll_calls_cons, Answer.toCallsOn, replies, List.zip_cons_cons]
      by_cases hother : other = name
      · subst hother
        simp only [List.filter_cons, decide_true, if_true, List.map_cons, answer_call, hrest]
      · simp only [List.filter_cons, hother, decide_false, Bool.false_eq_true, if_false]
        exact hrest

theorem selection?_calls (name : String) : ∀ (named : List (String × Call)) (s : Session),
    (Command.runAll s (Command.calls named)).2.selection? name =
      ((s.replies named).filter (·.1 = name)).foldl (fun _ reply => reply.2.held)
        (s.selection? name) := by
  intro named
  induction named with
  | nil => intro s; rfl
  | cons first rest ih =>
      obtain ⟨other, c⟩ := first
      intro s
      rw [runAll_calls_cons, replies, ih, selection?_call]
      by_cases hother : other = name
      · simp only [List.filter_cons, hother, decide_true, if_true, List.foldl_cons]
      · simp only [List.filter_cons, hother, Ne.symm hother, decide_false, Bool.false_eq_true,
          if_false]

theorem metrics_calls : ∀ (named : List (String × Call)) (s : Session),
    (Command.runAll s (Command.calls named)).2.monitor.metrics =
      if s.monitor.scopes.isEmpty then
        ((s.replies named).flatMap (·.2.events)).foldl Metrics.record s.monitor.metrics
      else s.monitor.metrics := by
  intro named
  induction named with
  | nil => intro s; exact (ite_self _).symm
  | cons first rest ih =>
      obtain ⟨other, c⟩ := first
      intro s
      obtain ⟨journal, hmonitor, hevents⟩ := s.monitor_call other c
      rw [runAll_calls_cons, replies, ih, hmonitor, Monitor.metrics_noteAll,
        Monitor.scopes_noteAll, hevents, List.flatMap_cons, List.foldl_append]
      cases s.monitor.scopes with
      | nil => rfl
      | cons inner outer => rfl

end Session

/-! ## Interleavings -/

/-- The third list is made of the first two, each in its order. -/
inductive Interleaves {α : Type} : List α → List α → List α → Prop where
  | nil : Interleaves [] [] []
  | left {xs ys zs : List α} (x : α) : Interleaves xs ys zs → Interleaves (x :: xs) ys (x :: zs)
  | right {xs ys zs : List α} (y : α) : Interleaves xs ys zs → Interleaves xs (y :: ys) (y :: zs)

theorem Interleaves.filter {α : Type} {xs ys zs : List α} (p : α → Bool) (h : Interleaves xs ys zs) :
    Interleaves (xs.filter p) (ys.filter p) (zs.filter p) := by
  induction h with
  | nil => exact .nil
  | left x _ ih =>
      rw [List.filter_cons, List.filter_cons]
      split
      · exact .left x ih
      · exact ih
  | right y _ ih =>
      rw [List.filter_cons, List.filter_cons]
      split
      · exact .right y ih
      · exact ih

theorem Interleaves.eq_append {α : Type} {xs ys zs : List α} (h : Interleaves xs ys zs)
    (hone : xs = [] ∨ ys = []) : zs = xs ++ ys := by
  induction h with
  | nil => rfl
  | left x _ ih =>
      have hys := hone.resolve_left (List.cons_ne_nil x _)
      rw [ih (.inr hys)]
      rfl
  | right y _ ih =>
      have hxs := hone.resolve_right (List.cons_ne_nil y _)
      rw [ih (.inl hxs), hxs]
      rfl

/-- A list of named items is, up to order, known by the items of each name. -/
theorem perm_of_filter_eq {β : Type} {l l' : List (String × β)}
    (h : ∀ name, l.filter (·.1 = name) = l'.filter (·.1 = name)) : l.Perm l' := by
  classical
  rw [List.perm_iff_count]
  intro item
  have hcount : ∀ m : List (String × β),
      (m.filter (·.1 = item.1)).count item = m.count item :=
    fun m => List.count_filter (decide_eq_true rfl)
  rw [← hcount l, ← hcount l', h]

namespace Session

/-- Whatever the order of calls on different selections: if each selection gets
the same calls in the same order, they are answered alike, each selection is the
same in the end, and the metrics are. -/
theorem calls_reordered (s : Session) {named named' : List (String × Call)}
    (h : ∀ name, named.filter (·.1 = name) = named'.filter (·.1 = name)) :
    let run := fun calls => Command.runAll s (Command.calls calls)
    (∀ name, Answer.toCallsOn name named (run named).1 =
      Answer.toCallsOn name named' (run named').1) ∧
    (∀ name, (run named).2.selection? name = (run named').2.selection? name) ∧
    (run named).2.monitor.metrics = (run named').2.monitor.metrics := by
  have hreplies : ∀ name, (s.replies named).filter (·.1 = name) =
      (s.replies named').filter (·.1 = name) := by
    intro name
    rw [replies_filter, replies_filter, h]
  have hevents := (perm_of_filter_eq hreplies).flatMap_right (·.2.events)
  refine ⟨fun name => ?_, fun name => ?_, ?_⟩
  · rw [answers_calls, answers_calls, hreplies]
  · rw [selection?_calls, selection?_calls, hreplies]
  · rw [metrics_calls, metrics_calls, Metrics.recordAll_of_perm _ hevents]

/-- Calls on two selections interleave without a trace: every call is answered as
if all calls on one selection had been made before those on the other, both
selections come to the same query and mode, and all counters to the same count,
whatever they were and whether or not they are full. -/
theorem calls_commute (s : Session) {a b : String} (hab : a ≠ b) {xs ys : List Call}
    {mixed apart : List (String × Call)}
    (hmixed : Interleaves (xs.map (a, ·)) (ys.map (b, ·)) mixed)
    (hapart : apart = xs.map (a, ·) ++ ys.map (b, ·) ∨ apart = ys.map (b, ·) ++ xs.map (a, ·)) :
    let run := fun calls => Command.runAll s (Command.calls calls)
    (∀ name, Answer.toCallsOn name mixed (run mixed).1 =
      Answer.toCallsOn name apart (run apart).1) ∧
    (∀ name, (run mixed).2.selection? name = (run apart).2.selection? name) ∧
    (run mixed).2.monitor.metrics = (run apart).2.monitor.metrics := by
  apply calls_reordered
  intro name
  -- of one name there are calls in at most one of the two sequences
  have hone : (xs.map (a, ·)).filter (·.1 = name) = [] ∨
      (ys.map (b, ·)).filter (·.1 = name) = [] := by
    by_cases ha : a = name
    · right
      have hb : b ≠ name := fun hb => hab (ha.trans hb.symm)
      simp [List.filter_eq_nil_iff, hb]
    · left
      simp [List.filter_eq_nil_iff, ha]
  have hfilter := (hmixed.filter (·.1 = name)).eq_append hone
  rcases hapart with rfl | rfl
  · rw [hfilter, List.filter_append]
  · rw [hfilter, List.filter_append]
    rcases hone with hnil | hnil
    · rw [hnil, List.nil_append, List.append_nil]
    · rw [hnil, List.nil_append, List.append_nil]

end Session
namespace Board

/-- Posts under `q` and comments under `r`, and one call short of a full counter. -/
def pair : Session :=
  { (({ schema } : Session).hold "q" ⟨"post", .ofTable "posts", none⟩).hold "r"
      ⟨"comment", .ofTable "comments", none⟩ with
    monitor := { metrics := { totals := { calls := 0xFFFFFFFFFFFFFFFE } } } }

def ofPosts : List Call := [.request "comments..replies" .lacks, .setMode .membership,
  .request "comments.replies" (.has .any)]

def ofComments : List Call := [.request "replies" .lacks, .request "posts" (.orHas .any)]

def mixed : List (String × Call) := [
  ("r", .request "replies" .lacks),
  ("q", .request "comments..replies" .lacks),
  ("q", .setMode .membership),
  ("r", .request "posts" (.orHas .any)),
  ("q", .request "comments.replies" (.has .any))]

theorem calls_commute_pair :
    "q" ≠ "r" ∧ Interleaves (ofPosts.map ("q", ·)) (ofComments.map ("r", ·)) mixed ∧
      let run := fun calls => Command.runAll pair (Command.calls calls)
      let apart := ofPosts.map ("q", ·) ++ ofComments.map ("r", ·)
      Answer.toCallsOn "r" mixed (run mixed).1 = Answer.toCallsOn "r" apart (run apart).1 ∧
      (run mixed).2.selection? "q" = (run apart).2.selection? "q" ∧
      (run mixed).2.monitor.metrics = (run apart).2.monitor.metrics ∧
      (run apart).2.monitor.metrics.totals.calls = 0xFFFFFFFFFFFFFFFF := by
  have hmixed : Interleaves (ofPosts.map ("q", ·)) (ofComments.map ("r", ·)) mixed :=
    .right _ (.left _ (.left _ (.right _ (.left _ .nil))))
  obtain ⟨hanswers, hselections, hmetrics⟩ := pair.calls_commute (by decide) hmixed (.inl rfl)
  exact ⟨by decide, hmixed, hanswers "r", hselections "q", hmetrics, rfl⟩

end Board
end Semijoin
