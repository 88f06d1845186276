import Mathlib.Data.List.Basic
import Semijoin.Proofs.Turns

/-! # What the modes reach

Compiling looks models up by name and reads no mode of theirs, so graphs that
differ only in modes compile alike (`Graph.Alike.attach`).  The one mode that
counts is read once a call, of the selection's own model, and only if neither the
condition nor the selection has one.  So a program on one model runs alike
whatever the modes of the others are (`Command.runAll_upon`), and a mode that a
condition brings is gone with its call.  `Schema.modes_isolated` puts this
together. -/
set_option autoImplicit false
namespace Semijoin

universe u

/-! ## Graphs that differ in modes -/

/-- Models of one name and table with the same relations; each may have a mode of
its own. -/
structure Model.Alike (a b : Model) : Prop where
  name : a.name = b.name
  table : a.table = b.table
  relation? (segment : String) : a.relation? segment = b.relation? segment

theorem Model.alike_inMode (m : Model) (mode : Mode) : m.Alike (m.inMode mode) :=
  ⟨rfl, rfl, fun _ => rfl⟩

namespace Graph

/-- The same models but for their modes. -/
def Alike (g h : Graph) : Prop := ∀ name, Option.Rel Model.Alike (g.model? name) (h.model? name)

theorem Alike.refl (g : Graph) : g.Alike g := by
  intro name
  cases g.model? name with
  | none => exact .none
  | some m => exact .some ⟨rfl, rfl, fun _ => rfl⟩

variable {g h : Graph}

theorem Alike.model? (halike : g.Alike h) (name : String) :
    (g.model? name = none ∧ h.model? name = none) ∨
      ∃ a b, g.model? name = some a ∧ h.model? name = some b ∧ a.Alike b := by
  have hname := halike name
  generalize g.model? name = x, h.model? name = y at hname ⊢
  cases hname with
  | none => exact .inl ⟨rfl, rfl⟩
  | some hab => exact .inr ⟨_, _, rfl, rfl, hab⟩

theorem Alike.model (halike : g.Alike h) (name : String) :
    (∃ e, g.model name = .error e ∧ h.model name = .error e) ∨
      ∃ a b, g.model name = .ok a ∧ h.model name = .ok b ∧ a.Alike b := by
  rcases halike.model? name with ⟨hg, hh⟩ | ⟨a, b, hg, hh, hab⟩
  · exact .inl ⟨_, model_eq_error_iff.mpr ⟨rfl, hg⟩, model_eq_error_iff.mpr ⟨rfl, hh⟩⟩
  · exact .inr ⟨a, b, model_eq_ok_iff.mpr hg, model_eq_ok_iff.mpr hh, hab⟩

theorem Alike.relation (halike : g.Alike h) (model segment : String) :
    g.relation model segment = h.relation model segment := by
  rw [Graph.relation, Graph.relation]
  rcases halike.model? model with ⟨hg, hh⟩ | ⟨a, b, hg, hh, hab⟩
  · rw [hg, hh]
  · simp only [hg, hh, hab.relation? segment]

/-- A hop fails alike, or leads alike to models of one name. -/
theorem Alike.hop (halike : g.Alike h) (i : Nat) (model : String) (outer : Source)
    (segment : String) :
    (∃ e, g.hop i model outer segment = .error e ∧ h.hop i model outer segment = .error e) ∨
    ∃ (a : Hop) (related : Model), g.hop i model outer segment = .ok a ∧
      h.hop i model outer segment = .ok { a with related } ∧ a.related.name = related.name := by
  rw [Graph.hop, Graph.hop, halike.relation model segment]
  cases h.relation model segment with
  | error e => exact .inl ⟨e, rfl, rfl⟩
  | ok relation =>
      simp only [Relation.keys, bind, Except.bind]
      cases relation.kind.hasKeyPair with
      | false => exact .inl ⟨_, rfl, rfl⟩
      | true =>
          simp only [if_true]
          rcases halike.model relation.related with ⟨e, hg, hh⟩ | ⟨a, b, hg, hh, hab⟩
          · rw [hg, hh]
            exact .inl ⟨e, rfl, rfl⟩
          · simp only [hg, hh, hab.table]
            exact .inr ⟨_, b, rfl, rfl, hab.name⟩

theorem Alike.compileFrom (halike : g.Alike h) (c : Condition) (mode : Mode) :
    ∀ (rest : List String) (i : Nat) (model : String) (outer : Source) (segment : String),
      g.compileFrom c mode i model outer segment rest =
        h.compileFrom c mode i model outer segment rest := by
  intro rest
  induction rest with
  | nil =>
      intro i model outer segment
      rw [Graph.compileFrom, Graph.compileFrom]
      rcases halike.hop i model outer segment with ⟨e, hg, hh⟩ | ⟨a, related, hg, hh, -⟩
      · rw [hg, hh]
      · rw [hg, hh]
        rfl
  | cons next rest ih =>
      intro i model outer segment
      rw [Graph.compileFrom, Graph.compileFrom]
      rcases halike.hop i model outer segment with ⟨e, hg, hh⟩ | ⟨a, related, hg, hh, hname⟩
      · rw [hg, hh]
        rfl
      · rw [hg, hh]
        -- the next hop looks the related model up again, by the name both have
        simp only [bind, Except.bind, hname, ih]
        rfl

theorem Alike.attach (halike : g.Alike h) {τ : Type u} [Filterable τ] (target : τ)
    (model : String) (outer : Source) (c : Condition) (mode : Mode) :
    g.attach target model outer c mode = h.attach target model outer c mode := by
  rw [Graph.attach, Graph.attach, compile, compile, halike.compileFrom]

end Graph

theorem Schema.alike_insert_inMode {s : Schema} {m : Model} (h : s.model? m.name = some m)
    (mode : Mode) : s.graph.Alike (s.insert (m.inMode mode)).graph := by
  intro name
  rw [graph_model?, graph_model?, model?_insert_inMode h]
  split
  · rename_i hname
    rw [hname, h]
    exact .some (m.alike_inMode mode)
  · exact Graph.Alike.refl s.graph name

namespace Selection

variable {s t : Schema}

theorem ofModel_alike (h : s.graph.Alike t.graph) (model : String) :
    ofModel s model = ofModel t model := by
  rw [ofModel, ofModel]
  rcases h.model model with ⟨e, hs, ht⟩ | ⟨a, b, hs, ht, hab⟩
  · simp only [hs, ht]
  · simp only [hs, ht, bind, Except.bind, hab.name, hab.table]

theorem model_of_ofModel {model : String} {sel : Selection} (h : ofModel s model = .ok sel) :
    sel.model = model := by
  obtain ⟨m, -, rfl⟩ := eq_of_ofModel h
  rfl

theorem call_alike (h : s.graph.Alike t.graph) (sel : Selection)
    (hmode : s.modeOf sel.model = t.modeOf sel.model) (call : Call) :
    sel.call s call = sel.call t call := by
  have hfilter : ∀ c, sel.filterBy s c = sel.filterBy t c := by
    intro c
    rw [filterBy, filterBy, hmode, Schema.attach, h.attach]
  cases call with
  | request path request =>
      rw [Selection.call, Selection.call]
      cases Path.parse path with
      | ok parsed => exact hfilter _
      | error e => rfl
  | existence condition =>
      cases condition with
      | ok c => exact hfilter c
      | error e => rfl
  | _ => rfl

end Selection

/-! ## Programs on one model -/

/-- The move selects no other model and writes no mode of a model. -/
def Move.Within (model : String) : Move → Prop
  | .select _ other => other = model
  | .setModelMode .. => False
  | _ => True

instance (model : String) : DecidablePred (Move.Within model)
  | .select _ other => instDecidableEqString other model
  | .setModelMode .. => instDecidableFalse
  | .finish _ | .call .. | .resetMetrics | .openScope | .closeScope => instDecidableTrue

namespace Session

/-- The session as it would be over another schema. -/
def upon (session : Session) (t : Schema) : Session := { session with schema := t }

/-- The session's selections are all of one model, and the other schema is like
its own, down to the mode of that model. -/
structure Agrees (session : Session) (t : Schema) (model : String) : Prop where
  alike : session.schema.graph.Alike t.graph
  mode : session.schema.modeOf model = t.modeOf model
  held (name : String) (sel : Selection) : session.selection? name = some sel → sel.model = model

variable {session : Session} {t : Schema} {model : String}

theorem Agrees.hold (h : session.Agrees t model) {sel : Selection} (hsel : sel.model = model)
    (name : String) (monitor : Monitor) :
    Agrees { session.hold name sel with monitor } t model := by
  refine ⟨h.alike, h.mode, fun other found hfound => ?_⟩
  have hhold := session.selection?_hold name sel other
  change (session.hold name sel).selection? other = some found at hfound
  rw [hhold] at hfound
  split at hfound
  · cases hfound
    exact hsel
  · exact h.held other found hfound

theorem Agrees.erase (h : session.Agrees t model) (name : String) :
    Agrees { session with selections := session.selections.erase name } t model := by
  refine ⟨h.alike, h.mode, fun other found hfound => ?_⟩
  rw [selection?, Catalog.find?_erase] at hfound
  split at hfound
  · cases hfound
  · exact h.held other found hfound

theorem select_upon (h : session.Agrees t model) (name : String) :
    (session.upon t).select name model =
      ((session.select name model).1, (session.select name model).2.upon t) := by
  have hmade : Selection.ofModel (session.upon t).schema model =
      Selection.ofModel session.schema model := (Selection.ofModel_alike h.alike model).symm
  rw [select, select, hmade]
  cases hsel : Selection.ofModel session.schema model with
  | error e => rfl
  | ok sel =>
      have hmodel := Selection.model_of_ofModel hsel
      have hmode : sel.currentMode (session.upon t).schema = sel.currentMode session.schema := by
        rw [Selection.currentMode, Selection.currentMode, hmodel, h.mode]
        rfl
      simp only [hmode]
      rfl

theorem finish_upon (session : Session) (t : Schema) (name : String) :
    (session.upon t).finish name =
      ((session.finish name).1, (session.finish name).2.upon t) := by
  have hheld : (session.upon t).selection? name = session.selection? name := rfl
  rw [finish, finish, hheld]
  cases session.selection? name with
  | none => rfl
  | some sel => rfl

theorem look_upon (h : session.Agrees t model) (name : String) :
    (session.upon t).look name = session.look name := by
  have hheld : (session.upon t).selection? name = session.selection? name := rfl
  rw [look, look, hheld]
  cases hsel : session.selection? name with
  | none => rfl
  | some sel =>
      simp only [Selection.currentMode, h.held name sel hsel, h.mode]
      rfl

theorem call_upon (h : session.Agrees t model) (name : String) (c : Call) :
    (session.upon t).call name c =
      ((session.call name c).1, (session.call name c).2.upon t) := by
  have hheld : (session.upon t).selection? name = session.selection? name := rfl
  rw [Session.call, Session.call, hheld]
  cases hsel : session.selection? name with
  | none => rfl
  | some sel =>
      have hmodel := h.held name sel hsel
      have hcall : sel.call (session.upon t).schema c = sel.call session.schema c :=
        (Selection.call_alike h.alike sel (by rw [hmodel]; exact h.mode) c).symm
      have hafter : (sel.call session.schema c).target.model = model :=
        (Turn.outcome_model ⟨session.schema, sel, c⟩).trans hmodel
      simp only [hcall, Selection.currentMode, hafter, h.mode]
      rfl

theorem Agrees.move (h : session.Agrees t model) {m : Move} (hm : m.Within model) :
    (session.move m).Agrees t model := by
  cases m with
  | select name other =>
      cases hm
      rw [Session.move, Session.select]
      cases hsel : Selection.ofModel session.schema model with
      | error e => exact h
      | ok sel => exact h.hold (Selection.model_of_ofModel hsel) name session.monitor
  | finish name =>
      rw [Session.move, Session.finish]
      cases session.selection? name with
      | none => exact h
      | some sel => exact h.erase name
  | call name c =>
      rw [Session.move, Session.call]
      cases hsel : session.selection? name with
      | none => exact h
      | some sel =>
          have hafter : (sel.call session.schema c).target.model = model :=
            (Turn.outcome_model ⟨session.schema, sel, c⟩).trans (h.held name sel hsel)
          exact h.hold hafter name _
  | setModelMode other mode => cases hm
  | _ => exact ⟨h.alike, h.mode, h.held⟩

theorem Agrees.after : ∀ (moves : List Move) {session : Session}, session.Agrees t model →
    (∀ m ∈ moves, m.Within model) → (session.after moves).Agrees t model := by
  intro moves
  induction moves with
  | nil => intro session h _; exact h
  | cons m rest ih =>
      intro session h hwithin
      obtain ⟨hfirst, hrest⟩ := List.forall_mem_cons.mp hwithin
      exact ih (h.move hfirst) hrest

end Session

mutual

theorem Command.run_upon {t : Schema} {model : String} {session : Session}
    (h : session.Agrees t model) : ∀ c : Command, (∀ m ∈ c.moves, m.Within model) →
      c.run (session.upon t) = ((c.run session).1, (c.run session).2.upon t)
  | .select name other, hwithin => by
    have hother : other = model := hwithin (.select name other) (List.mem_singleton_self _)
    subst hother
    exact Session.select_upon h name
  | .finish name, _ => Session.finish_upon session t name
  | .call name c, _ => Session.call_upon h name c
  | .look name, _ => by
    rw [Command.run, Command.run, Session.look_upon h]
  | .setModelMode other mode, hwithin =>
    (hwithin (.setModelMode other mode) (List.mem_singleton_self _)).elim
  | .readMetrics, _ => rfl
  | .resetMetrics, _ => rfl
  | .scope body, hwithin => by
    have hopened : Session.Agrees { session with monitor := session.monitor.openScope } t model :=
      ⟨h.alike, h.mode, h.held⟩
    have hbody := Command.runAll_upon hopened body fun m hm =>
      hwithin m (List.mem_cons_of_mem _ (List.mem_append_left _ hm))
    change Command.run ({ session with schema := t } : Session) (.scope body) = _
    simp only [Command.run]
    change Command.runAll { session with schema := t, monitor := session.monitor.openScope } body = _
      at hbody
    rw [hbody]
    rfl

theorem Command.runAll_upon {t : Schema} {model : String} {session : Session}
    (h : session.Agrees t model) : ∀ program : List Command,
      (∀ m ∈ Command.movesAll program, m.Within model) →
      Command.runAll (session.upon t) program =
        ((Command.runAll session program).1, (Command.runAll session program).2.upon t)
  | [], _ => rfl
  | c :: rest, hwithin => by
    have hfirst : ∀ m ∈ c.moves, m.Within model := fun m hm =>
      hwithin m (List.mem_append_left _ hm)
    have hlater : ∀ m ∈ Command.movesAll rest, m.Within model := fun m hm =>
      hwithin m (List.mem_append_right _ hm)
    have hafter : (c.run session).2.Agrees t model := by
      rw [Command.run_moves]
      exact h.after c.moves hfirst
    have hrun := Command.run_upon h c hfirst
    have hrest := Command.runAll_upon hafter rest hlater
    simp only [Command.runAll, hrun, hrest]

end

/-! ## What a turn does, apart from what was there -/

/-- Selections that differ at most in the clauses they hold. -/
structure Selection.Like (a b : Selection) : Prop where
  model : a.model = b.model
  mode : a.mode = b.mode
  source : a.query.source = b.query.source

theorem Selection.Like.refl (sel : Selection) : sel.Like sel := ⟨rfl, rfl, rfl⟩

/-- To whatever query a condition is attached, it fails alike, notes the same and
adds the same clauses. -/
theorem Graph.attach_bases (g : Graph) (base base' : Query) (model : String) (outer : Source)
    (c : Condition) (mode : Mode) :
    (g.attach base model outer c mode).error? = (g.attach base' model outer c mode).error? ∧
      (g.attach base model outer c mode).journal = (g.attach base' model outer c mode).journal ∧
      ∃ cs, (g.attach base model outer c mode).target = base.extend cs ∧
        (g.attach base' model outer c mode).target = base'.extend cs := by
  rw [attach, attach]
  cases g.compile model outer c mode with
  | error e => exact ⟨rfl, rfl, [], base.extend_nil.symm, base'.extend_nil.symm⟩
  | ok compiled =>
      exact ⟨rfl, rfl, [⟨c.connective, compiled.filter.predicate⟩],
        compiled.filter.attach_query base c.connective,
        compiled.filter.attach_query base' c.connective⟩

namespace Turn

/-- Both turns fail alike, note the same, leave the same mode and add the same
clauses, each to the query it met. -/
structure SameEffect (t u : Turn) : Prop where
  error? : t.outcome.error? = u.outcome.error?
  journal : t.outcome.journal = u.outcome.journal
  mode : t.outcome.target.mode = u.outcome.target.mode
  added : ∃ cs, t.outcome.target.query = t.before.query.extend cs ∧
    u.outcome.target.query = u.before.query.extend cs

variable {t u : Turn}

theorem SameEffect.like (h : t.SameEffect u) (hbefore : t.before.Like u.before) :
    t.outcome.target.Like u.outcome.target := by
  obtain ⟨cs, ht, hu⟩ := h.added
  refine ⟨?_, h.mode, ?_⟩
  · rw [outcome_model, outcome_model, hbefore.model]
  · rw [ht, hu]
    exact hbefore.source

theorem sameEffect_of_condition {c : Condition} (hcondition : t.call.condition? = some c)
    (hcall : t.call = u.call) (halike : t.schema.graph.Alike u.schema.graph)
    (hbefore : t.before.Like u.before) (hmode : t.modeFor c = u.modeFor c) : t.SameEffect u := by
  have ht : t.outcome = t.before.filterBy t.schema c := Selection.call_of_condition hcondition
  rw [hcall] at hcondition
  have hu : u.outcome = u.before.filterBy u.schema c := Selection.call_of_condition hcondition
  have hattach : ∀ base : Query,
      u.schema.graph.attach base u.before.model u.before.query.source c (u.modeFor c) =
        t.schema.graph.attach base t.before.model t.before.query.source c (t.modeFor c) := by
    intro base
    rw [← hbefore.model, ← hbefore.source, ← hmode, halike.attach]
  obtain ⟨herror, hjournal, cs, htarget, htarget'⟩ := t.schema.graph.attach_bases t.before.query
    u.before.query t.before.model t.before.query.source c (t.modeFor c)
  rw [← hattach u.before.query] at herror hjournal htarget'
  refine ⟨?_, ?_, ?_, cs, ?_, ?_⟩
  · rw [ht, hu]
    exact herror
  · rw [ht, hu]
    exact hjournal
  · rw [ht, hu]
    exact hbefore.mode
  · rw [ht]
    exact htarget
  · rw [hu]
    exact htarget'

theorem sameEffect_of_no_condition (hcondition : t.call.condition? = none) (hcall : t.call = u.call)
    (hbefore : t.before.Like u.before) : t.SameEffect u := by
  obtain ⟨schema, before, call⟩ := t
  obtain ⟨schema', before', call'⟩ := u
  have hnil : ∃ cs, before.query = before.query.extend cs ∧ before'.query = before'.query.extend cs :=
    ⟨[], before.query.extend_nil.symm, before'.query.extend_nil.symm⟩
  dsimp only at hcall hcondition hbefore
  subst hcall
  cases call with
  | request path request =>
      have hrefused : ∀ (s : Schema) (sel : Selection), outcome ⟨s, sel, .request path request⟩ =
          sel.refuse path (.invalidPath path) := fun _ _ => Selection.call_of_malformed hcondition
      refine ⟨?_, ?_, ?_, ?_⟩
      · rw [hrefused, hrefused]
        rfl
      · rw [hrefused, hrefused, Selection.refuse, Selection.refuse, hbefore.model]
      · rw [hrefused, hrefused]
        exact hbefore.mode
      · rw [hrefused, hrefused]
        exact hnil
  | existence condition =>
      cases condition with
      | ok c => cases hcondition
      | error e => exact ⟨rfl, rfl, hbefore.mode, hnil⟩
  | filter p => exact ⟨rfl, rfl, hbefore.mode, [⟨.and, p⟩], rfl, rfl⟩
  | orFilter p => exact ⟨rfl, rfl, hbefore.mode, [⟨.or, p⟩], rfl, rfl⟩
  | setMode mode => exact ⟨rfl, rfl, rfl, hnil⟩
  | clearMode => exact ⟨rfl, rfl, rfl, hnil⟩

/-- Over one schema nothing but the model, the mode and the source of a selection
has a say in what a call does. -/
theorem sameEffect_of_like (hcall : t.call = u.call) (hschema : t.schema = u.schema)
    (hbefore : t.before.Like u.before) : t.SameEffect u := by
  cases hcondition : t.call.condition? with
  | some c =>
      have hmode : t.modeFor c = u.modeFor c := by
        rw [modeFor, modeFor, hbefore.mode, hbefore.model, hschema]
      exact sameEffect_of_condition hcondition hcall (hschema ▸ .refl t.schema.graph) hbefore hmode
  | none => exact sameEffect_of_no_condition hcondition hcall hbefore

end Turn

/-- Whether a call asks for related rows. -/
def Call.asks : Call → Bool
  | .request .. | .existence _ => true
  | _ => false

namespace Selection

/-- The turns that a selection takes call by call. -/
def turns (s : Schema) (sel : Selection) : List Call → List Turn
  | [] => []
  | call :: later => ⟨s, sel, call⟩ :: turns s (sel.call s call).target later

theorem Like.turns (s : Schema) : ∀ (later : List Call) {a b : Selection}, a.Like b →
    List.Forall₂ Turn.SameEffect (a.turns s later) (b.turns s later) := by
  intro later
  induction later with
  | nil => intro a b _; exact .nil
  | cons call later ih =>
      intro a b h
      have hfirst : Turn.SameEffect ⟨s, a, call⟩ ⟨s, b, call⟩ := Turn.sameEffect_of_like rfl rfl h
      exact .cons hfirst (ih (hfirst.like h))

/-- Asking for related rows leaves nothing behind but a clause. -/
theorem like_call_of_asks (s : Schema) (sel : Selection) {call : Call} (h : call.asks = true) :
    (sel.call s call).target.Like sel := by
  have hfilter : ∀ c, (sel.filterBy s c).target.Like sel := by
    intro c
    obtain ⟨-, -, cs, htarget, -⟩ := s.graph.attach_bases sel.query sel.query sel.model
      sel.query.source c (.inForce c.mode sel.mode (s.modeOf sel.model))
    refine ⟨rfl, rfl, ?_⟩
    rw [filterBy, Outcome.map, htarget]
    rfl
  cases call with
  | request path request =>
      rw [Selection.call]
      cases Path.parse path with
      | ok parsed => exact hfilter _
      | error e => exact Like.refl sel
  | existence condition =>
      cases condition with
      | ok c => exact hfilter c
      | error e => exact Like.refl sel
  | _ => cases h

end Selection

theorem Mode.inForce_of_isSome {call selection : Option Mode}
    (h : call.isSome = true ∨ selection.isSome = true) (a b : Option Mode) :
    inForce call selection a = inForce call selection b := by
  cases call with
  | some mode => rfl
  | none =>
      cases selection with
      | some mode => rfl
      | none => simp at h

/-- Take two schemas that differ in modes.  A program on a model whose mode they
share runs alike on both: every answer, selection, event and count is the same.
A call whose condition, if it has one, brings a mode or meets one of the selection
does the same whatever any model's mode is.  And a call that asks for related rows,
in whatever mode, changes the effect of no later call. -/
theorem Schema.modes_isolated {s t : Schema} (h : s.graph.Alike t.graph) :
    (∀ (session : Session) (model : String) (program : List Command),
      s.modeOf model = t.modeOf model →
      (∀ name sel, session.selection? name = some sel → sel.model = model) →
      (∀ m ∈ Command.movesAll program, m.Within model) →
      Command.runAll (session.upon t) program =
        ((Command.runAll (session.upon s) program).1,
          (Command.runAll (session.upon s) program).2.upon t)) ∧
    (∀ (a b : Selection) (call : Call), a.Like b →
      (∀ c, call.condition? = some c → c.mode.isSome = true ∨ a.mode.isSome = true) →
      Turn.SameEffect ⟨s, a, call⟩ ⟨t, b, call⟩) ∧
    ∀ (sel : Selection) (call : Call) (later : List Call), call.asks = true →
      List.Forall₂ Turn.SameEffect ((sel.call s call).target.turns s later)
        (sel.turns s later) := by
  refine ⟨?_, ?_, ?_⟩
  · intro session model program hmode hheld hwithin
    have hagrees : (session.upon s).Agrees t model := ⟨h, hmode, hheld⟩
    exact Command.runAll_upon hagrees program hwithin
  · intro a b call hlike hsome
    cases hcondition : call.condition? with
    | some c =>
        refine Turn.sameEffect_of_condition hcondition rfl h hlike ?_
        rw [Turn.modeFor, Turn.modeFor, ← hlike.mode]
        exact Mode.inForce_of_isSome (hsome c hcondition) _ _
    | none => exact Turn.sameEffect_of_no_condition hcondition rfl hlike
  · intro sel call later hasks
    exact Selection.Like.turns s later (Selection.like_call_of_asks s sel hasks)

namespace Board

/-- Filters posts through comments, with and without a mode of the selection. -/
def asking : List Command := [
  .select "q" "post",
  .call "q" (.request "comments.replies" (.has .any)),
  .scope [.call "q" (.setMode .membership), .call "q" (.request "comments" .lacks)],
  .look "q"]

def remarks : Selection := ⟨"comment", .ofTable "comments", some .existence⟩

theorem modes_isolated_comment :
    let t := schema.insert (comment.inMode .membership)
    schema.graph.Alike t.graph ∧ schema.modeOf "comment" ≠ t.modeOf "comment" ∧
      (Command.runAll { schema := t } asking).1 = (Command.runAll { schema } asking).1 ∧
      Turn.SameEffect ⟨schema, remarks, .request "replies" .lacks⟩
        ⟨t, remarks, .request "replies" .lacks⟩ ∧
      List.Forall₂ Turn.SameEffect
        ((remarks.call schema (.request "replies" (.hasIn none .any))).target.turns schema
          [.clearMode, .request "replies" .lacks])
        (remarks.turns schema [.clearMode, .request "replies" .lacks]) := by
  intro t
  have halike : schema.graph.Alike t.graph := Schema.alike_insert_inMode rfl .membership
  obtain ⟨hprograms, hturns, hlater⟩ := Schema.modes_isolated halike
  have hrun := hprograms { schema } "post" asking rfl nofun (by decide)
  have hanswers := congrArg Prod.fst hrun
  exact ⟨halike, nofun, hanswers,
    hturns remarks remarks (.request "replies" .lacks) (.refl remarks) fun _ _ => .inr rfl,
    hlater remarks _ _ rfl⟩

end Board
end Semijoin
