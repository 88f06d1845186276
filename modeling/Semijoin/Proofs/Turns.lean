import Semijoin.Proofs.Moves
import Semijoin.Proofs.Refusal

/-! # Turns of a selection

A turn is a call as it was made: with the schema and the selection it met.  What
a turn adds to its selection can be found on a fresh selection of the model
(`Turn.clauses`), so it depends on no clause that was there before.
`Session.query_of_turns` says that a selection is its fresh query with these
clauses in the order of the turns, whatever else the program does. -/
set_option autoImplicit false
namespace Semijoin

/-! ## Writing a mode changes nothing else -/

def Model.modeless (m : Model) : Model := { m with mode := none }

namespace Schema

theorem model?_insert_inMode {s : Schema} {name : String} {m : Model} (h : s.model? name = some m)
    (mode : Mode) (other : String) : (s.insert (m.inMode mode)).model? other =
      if other = name then some (m.inMode mode) else s.model? other := by
  have hname : m.name = name := Catalog.key_of_find? h
  rw [← hname]
  exact Catalog.find?_insert s.models (m.inMode mode) other

theorem modeless_insert_inMode {s : Schema} {name : String} {m : Model} (h : s.model? name = some m)
    (mode : Mode) (other : String) :
    ((s.insert (m.inMode mode)).model? other).map Model.modeless =
      (s.model? other).map Model.modeless := by
  rw [model?_insert_inMode h]
  split
  · rename_i hother
    rw [hother, h]
    rfl
  · rfl

theorem modeless_setMode (s : Schema) (name : String) (mode : Mode) (other : String) :
    ((s.setMode name mode).target.model? other).map Model.modeless =
      (s.model? other).map Model.modeless := by
  rw [setMode]
  cases hm : s.model name with
  | error e => rfl
  | ok m =>
      simp only [Model.fixMode]
      cases m.mode with
      | none => exact modeless_insert_inMode (Graph.model_eq_ok_iff.mp hm) mode other
      | some _ => rfl

end Schema

/-- A fresh selection is of the very model it was asked for. -/
theorem Selection.eq_of_ofModel {s : Schema} {model : String} {sel : Selection}
    (h : ofModel s model = .ok sel) :
    ∃ m, s.model? model = some m ∧ sel = { model, query := .ofTable m.table } := by
  rw [ofModel] at h
  obtain ⟨m, hm, h⟩ := bind_ok h
  have hfound := Graph.model_eq_ok_iff.mp hm
  cases h
  refine ⟨m, hfound, ?_⟩
  rw [s.keepsNames model m hfound]

theorem Selection.ofModel_congr {s t : Schema} {model : String}
    (h : (t.model? model).map Model.modeless = (s.model? model).map Model.modeless) :
    ofModel t model = ofModel s model := by
  simp only [ofModel, Schema.model, Graph.model, Schema.graph_model?]
  cases hs : s.model? model with
  | none =>
      rw [hs, Option.map_none, Option.map_eq_none_iff] at h
      rw [h]
  | some m =>
      rw [hs, Option.map_some, Option.map_eq_some_iff] at h
      obtain ⟨m', hm', hmodeless⟩ := h
      have hname : m'.name = m.name := congrArg (·.name) hmodeless
      have htable : m'.table = m.table := congrArg (·.table) hmodeless
      rw [hm']
      simp only [bind, Except.bind, hname, htable]

/-! ## What a turn adds -/

/-- The query with more clauses behind its own. -/
def Query.extend (q : Query) (cs : List Clause) : Query := { q with clauses := q.clauses ++ cs }

theorem Query.extend_nil (q : Query) : q.extend [] = q := by
  obtain ⟨source, projection, clauses⟩ := q
  rw [extend, List.append_nil]

theorem Query.extend_extend (q : Query) (cs ds : List Clause) :
    (q.extend cs).extend ds = q.extend (cs ++ ds) := by
  simp only [extend, List.append_assoc]

/-- Attaching adds the same clauses to every query, one or, if it fails, none. -/
theorem Graph.attach_extend (g : Graph) {fresh : Query} (hfresh : fresh.clauses = [])
    (base : Query) (model : String) (outer : Source) (c : Condition) (mode : Mode) :
    (g.attach base model outer c mode).target =
        base.extend (g.attach fresh model outer c mode).target.clauses ∧
      (g.attach fresh model outer c mode).target.clauses.length =
        if (g.attach base model outer c mode).error?.isNone then 1 else 0 := by
  cases hwalk : g.walk model c.path.segments with
  | error e =>
      have hbase := attach_of_walk_error hwalk base outer mode
      have hnone := attach_target_of_error fresh outer c mode
        (attach_of_walk_error hwalk fresh outer mode)
      rw [attach_target_of_error base outer c mode hbase, hnone, hfresh, hbase, Query.extend_nil]
      exact ⟨rfl, rfl⟩
  | ok steps =>
      cases steps with
      | nil => cases length_of_walk hwalk
      | cons st later =>
          obtain ⟨herror, hbase⟩ := attach_of_walk hwalk base outer mode
          obtain ⟨-, hpushed⟩ := attach_of_walk hwalk fresh outer mode
          have hclauses : (g.attach fresh model outer c mode).target.clauses =
              [⟨c.connective, (Step.nest mode c outer 0 st later).predicate⟩] := by
            rw [hpushed, Query.push, hfresh, List.nil_append]
          rw [hbase, hclauses, herror]
          exact ⟨rfl, rfl⟩

structure Turn where
  schema : Schema
  before : Selection
  call : Call

/-- Whether a call, if it succeeds, adds a clause. -/
def Call.filters : Call → Bool
  | .setMode _ | .clearMode => false
  | _ => true

def Call.plain? : Call → Option Clause
  | .filter p => some ⟨.and, p⟩
  | .orFilter p => some ⟨.or, p⟩
  | _ => none

namespace Turn

def outcome (t : Turn) : Outcome Selection := t.before.call t.schema t.call

def modeFor (t : Turn) (c : Condition) : Mode :=
  .inForce c.mode t.before.mode (t.schema.modeOf t.before.model)

/-- What the call adds: a condition the clause it compiles to on a fresh selection
in the mode in force at the turn, a plain filter its own. -/
def clauses (t : Turn) (fresh : Selection) : List Clause :=
  match t.call.condition? with
  | some c =>
    (t.schema.attach fresh.query fresh.model fresh.query.source c (t.modeFor c)).target.clauses
  | none => t.call.plain?.toList

/-- A turn on a selection of the fresh one's model extends its query by one
clause if the call filters and succeeds, else by none. -/
structure Extends (t : Turn) (fresh : Selection) : Prop where
  made : Selection.ofModel t.schema fresh.model = .ok fresh
  model : t.before.model = fresh.model
  query : t.outcome.target.query = t.before.query.extend (t.clauses fresh)
  count : (t.clauses fresh).length =
    if t.call.filters && t.outcome.error?.isNone then 1 else 0

variable {t : Turn} {fresh : Selection}

theorem extends_of_condition {c : Condition} (hcondition : t.call.condition? = some c)
    (hmade : Selection.ofModel t.schema fresh.model = .ok fresh)
    (hmodel : t.before.model = fresh.model)
    (hsource : t.before.query.source = fresh.query.source) : t.Extends fresh := by
  have hempty : fresh.query.clauses = [] := by
    obtain ⟨m, -, hfresh⟩ := Selection.eq_of_ofModel hmade
    rw [hfresh]
    rfl
  have hclauses : t.clauses fresh =
      (t.schema.attach fresh.query fresh.model fresh.query.source c (t.modeFor c)).target.clauses := by
    rw [clauses, hcondition]
  have hfilters : t.call.filters = true := by
    cases hcall : t.call with
    | setMode mode => rw [hcall] at hcondition; cases hcondition
    | clearMode => rw [hcall] at hcondition; cases hcondition
    | _ => rfl
  have houtcome : t.outcome = t.before.filterBy t.schema c :=
    Selection.call_of_condition hcondition
  -- what the condition adds to any query of the source it adds to the fresh one
  obtain ⟨htarget, hcount⟩ := t.schema.graph.attach_extend hempty t.before.query fresh.model
    fresh.query.source c (t.modeFor c)
  rw [← hclauses, ← hmodel, ← hsource] at htarget hcount
  refine ⟨hmade, hmodel, ?_, ?_⟩
  · rw [houtcome]
    exact htarget
  · rw [houtcome, hfilters, Bool.true_and]
    exact hcount

theorem extends_of_no_condition (hcondition : t.call.condition? = none)
    (hmade : Selection.ofModel t.schema fresh.model = .ok fresh)
    (hmodel : t.before.model = fresh.model) : t.Extends fresh := by
  have hclauses : t.clauses fresh = t.call.plain?.toList := by rw [clauses, hcondition]
  have hnil := (Query.extend_nil t.before.query).symm
  obtain ⟨schema, before, call⟩ := t
  dsimp only at *
  cases call with
  | request path request =>
      have houtcome : outcome ⟨schema, before, .request path request⟩ =
          before.refuse path (.invalidPath path) := Selection.call_of_malformed hcondition
      refine ⟨hmade, hmodel, ?_, ?_⟩
      · rw [houtcome, hclauses]
        exact hnil
      · rw [houtcome, hclauses]
        rfl
  | existence condition =>
      cases condition with
      | ok c => cases hcondition
      | error e => exact ⟨hmade, hmodel, hnil, rfl⟩
  | filter p => exact ⟨hmade, hmodel, rfl, rfl⟩
  | orFilter p => exact ⟨hmade, hmodel, rfl, rfl⟩
  | setMode mode => exact ⟨hmade, hmodel, hnil, rfl⟩
  | clearMode => exact ⟨hmade, hmodel, hnil, rfl⟩

theorem extends_of_made (hmade : Selection.ofModel t.schema fresh.model = .ok fresh)
    (hmodel : t.before.model = fresh.model)
    (hsource : t.before.query.source = fresh.query.source) : t.Extends fresh := by
  cases hcondition : t.call.condition? with
  | some c => exact extends_of_condition hcondition hmade hmodel hsource
  | none => exact extends_of_no_condition hcondition hmade hmodel

theorem outcome_model (t : Turn) : t.outcome.target.model = t.before.model := by
  obtain ⟨schema, before, call⟩ := t
  cases call with
  | request path request =>
      rw [outcome, Selection.call]
      cases Path.parse path with
      | ok parsed => rfl
      | error e => rfl
  | existence condition =>
      cases condition with
      | ok c => rfl
      | error e => rfl
  | _ => rfl

end Turn

/-! ## The turns of a program -/

/-- The move neither replaces nor forgets the selection of a name. -/
def Move.Keeps (name : String) : Move → Prop
  | .select other _ | .finish other => other ≠ name
  | _ => True

instance (name : String) : DecidablePred (Move.Keeps name) := fun m => by
  cases m <;> unfold Move.Keeps <;> infer_instance

def Move.callOn? (name : String) : Move → Option Call
  | .call other c => if other = name then some c else none
  | _ => none

namespace Session

def turn? (s : Session) (name : String) (m : Move) : Option Turn :=
  match m.callOn? name, s.selection? name with
  | some call, some sel => some ⟨s.schema, sel, call⟩
  | _, _ => none

/-- The turns of the selection of a name while moves are made. -/
def turns (s : Session) (name : String) : List Move → List Turn
  | [] => []
  | m :: rest => (s.turn? name m).toList ++ (s.move m).turns name rest

variable {s : Session} {name : String} {sel : Selection}

theorem selection?_erase (s : Session) (erased name : String) (h : erased ≠ name) :
    ((s.selections.erase erased).find? name).map Prod.snd = s.selection? name := by
  rw [Catalog.find?_erase, if_neg (Ne.symm h)]
  rfl

theorem modeless_move (s : Session) (m : Move) (model : String) :
    ((s.move m).schema.model? model).map Model.modeless =
      (s.schema.model? model).map Model.modeless := by
  cases m with
  | select other model' => rw [move, select_schema]
  | finish other => rw [move, finish_schema]
  | call other c => rw [move, call_schema]
  | setModelMode model' mode => exact Schema.modeless_setMode s.schema model' mode model
  | _ => rfl

/-- One move: the selection takes its turn if the move is a call on it, else it
stays as it is. -/
theorem selection?_move (hsel : s.selection? name = some sel) {m : Move} (hkeeps : m.Keeps name) :
    (s.move m).selection? name =
      some (((s.turn? name m).map (·.outcome.target)).getD sel) := by
  cases m with
  | select other model =>
      have hturn : s.turn? name (.select other model) = none := rfl
      rw [hturn, move, select]
      cases Selection.ofModel s.schema model with
      | error e => exact hsel
      | ok fresh =>
          have hhold := s.selection?_hold other fresh name
          rw [if_neg (Ne.symm hkeeps), hsel] at hhold
          exact hhold
  | finish other =>
      have hturn : s.turn? name (.finish other) = none := rfl
      rw [hturn, move, finish]
      cases s.selection? other with
      | none => exact hsel
      | some held => exact (s.selection?_erase other name hkeeps).trans hsel
  | call other c =>
      rw [move, Session.call, turn?, Move.callOn?]
      by_cases hother : other = name
      · subst hother
        have hhold := s.selection?_hold other (sel.call s.schema c).target other
        rw [if_pos rfl] at hhold
        simp only [if_true, hsel]
        exact hhold
      · rw [if_neg hother]
        cases hheld : s.selection? other with
        | none => exact hsel
        | some held =>
            have hhold := s.selection?_hold other (held.call s.schema c).target name
            rw [if_neg (Ne.symm hother), hsel] at hhold
            exact hhold
  | _ => exact hsel

theorem of_turn?_eq_some {m : Move} {t : Turn} (h : s.turn? name m = some t) :
    t.schema = s.schema ∧ s.selection? name = some t.before ∧ m.callOn? name = some t.call := by
  rw [turn?] at h
  cases hcall : m.callOn? name with
  | none => rw [hcall] at h; cases h
  | some call =>
      cases hsel : s.selection? name with
      | none => rw [hcall, hsel] at h; cases h
      | some sel => rw [hcall, hsel] at h; cases h; exact ⟨rfl, rfl, rfl⟩

/-- Making moves that keep a selection of the model, it takes each of its turns,
and each extends its query by what it adds to a fresh one. -/
theorem selection?_after {fresh : Selection} : ∀ (moves : List Move) (s : Session) (sel : Selection),
    (∀ m ∈ moves, m.Keeps name) → s.selection? name = some sel →
    Selection.ofModel s.schema fresh.model = .ok fresh → sel.model = fresh.model →
    sel.query.source = fresh.query.source →
    (∃ last, (s.after moves).selection? name = some last ∧ last.model = fresh.model ∧
      last.query = sel.query.extend ((s.turns name moves).flatMap (Turn.clauses · fresh))) ∧
    (s.turns name moves).map Turn.call = moves.filterMap (Move.callOn? name) ∧
    ∀ t ∈ s.turns name moves, t.Extends fresh := by
  intro moves
  induction moves with
  | nil =>
      intro s sel _ hsel _ hmodel _
      exact ⟨⟨sel, hsel, hmodel, (Query.extend_nil sel.query).symm⟩, rfl, nofun⟩
  | cons m rest ih =>
      intro s sel hkeeps hsel hmade hmodel hsource
      obtain ⟨hfirst, hrest⟩ := List.forall_mem_cons.mp hkeeps
      have hmove := selection?_move hsel hfirst
      have hmade' : Selection.ofModel (s.move m).schema fresh.model = .ok fresh :=
        (Selection.ofModel_congr (s.modeless_move m fresh.model)).trans hmade
      cases hturn : s.turn? name m with
      | none =>
          have hcall : m.callOn? name = none := by
            rw [turn?, hsel] at hturn
            cases hcall : m.callOn? name with
            | none => rfl
            | some call => rw [hcall] at hturn; cases hturn
          rw [hturn] at hmove
          have hafter := ih (s.move m) sel hrest hmove hmade' hmodel hsource
          rw [turns, hturn, List.filterMap_cons, hcall]
          exact hafter
      | some t =>
          obtain ⟨hschema, hbefore, hcall⟩ := of_turn?_eq_some hturn
          rw [hsel] at hbefore
          cases hbefore
          rw [← hschema] at hmade
          have hextends := Turn.extends_of_made hmade hmodel hsource
          rw [hturn] at hmove
          have hsource' : t.outcome.target.query.source = fresh.query.source := by
            rw [hextends.query]
            exact hsource
          have hmodel' : t.outcome.target.model = fresh.model := by
            rw [t.outcome_model]
            exact hmodel
          obtain ⟨⟨last, hlast, hlastModel, hquery⟩, hcalls, hturns⟩ :=
            ih (s.move m) t.outcome.target hrest hmove hmade' hmodel' hsource'
          rw [turns, hturn, List.filterMap_cons, hcall]
          refine ⟨⟨last, hlast, hlastModel, ?_⟩, ?_, ?_⟩
          · rw [hquery, hextends.query, Query.extend_extend]
            rfl
          · rw [Option.toList_some, List.singleton_append, List.map_cons, hcalls]
          · rw [Option.toList_some, List.singleton_append, List.forall_mem_cons]
            exact ⟨hextends, hturns⟩

/-- Whatever a program does, a selection is what it was made with and the clauses
its turns add, in the order of the calls on it: each call that filters and
succeeds adds the one clause it adds to a fresh selection in the mode in force,
all other calls add none, and no turn changes a clause that was there. -/
theorem query_of_turns {s : Session} {name model : String} {fresh : Selection}
    (hfresh : Selection.ofModel s.schema model = .ok fresh) {program : List Command}
    (hkeeps : ∀ m ∈ Command.movesAll program, m.Keeps name) :
    (∃ sel, (Command.runAll s (.select name model :: program)).2.selection? name = some sel ∧
      sel.model = model ∧
      sel.query = ⟨fresh.query.source, fresh.query.projection,
        ((s.hold name fresh).turns name (Command.movesAll program)).flatMap
          (Turn.clauses · fresh)⟩) ∧
    ((s.hold name fresh).turns name (Command.movesAll program)).map Turn.call =
      (Command.movesAll program).filterMap (Move.callOn? name) ∧
    ∀ t ∈ (s.hold name fresh).turns name (Command.movesAll program), t.Extends fresh := by
  have hselect : (s.select name model).2 = s.hold name fresh := by rw [select, hfresh]
  have hmade : fresh.model = model ∧ fresh.query.clauses = [] := by
    obtain ⟨m, -, rfl⟩ := Selection.eq_of_ofModel hfresh
    exact ⟨rfl, rfl⟩
  obtain ⟨hmodel, hempty⟩ := hmade
  have hheld : (s.hold name fresh).selection? name = some fresh := by
    rw [selection?_hold, if_pos rfl]
  have hfresh' : Selection.ofModel (s.hold name fresh).schema fresh.model = .ok fresh := by
    rw [hmodel]
    exact hfresh
  obtain ⟨⟨sel, hsel, hselModel, hquery⟩, hcalls, hturns⟩ :=
    selection?_after (Command.movesAll program) (s.hold name fresh) fresh hkeeps hheld hfresh' rfl rfl
  have hrun : (Command.runAll s (.select name model :: program)).2 =
      (s.hold name fresh).after (Command.movesAll program) := by
    rw [← hselect]
    exact Command.runAll_moves _ program
  rw [hrun]
  refine ⟨⟨sel, hsel, hselModel.trans hmodel, ?_⟩, hcalls, hturns⟩
  rw [hquery, Query.extend, hempty, List.nil_append]

end Session

namespace Board

/-- A plain filter, a path, a path that leads nowhere inside a scope, and a whole
condition after the mode of the posts has been set. -/
def program : List Command := [
  .call "q" (.filter (.isNotNull (.bare "title"))),
  .call "q" (.request "comments.replies" (.orHas .any)),
  .setModelMode "post" .membership,
  .scope [.call "q" (.request "comments.tags" .lacks)],
  .call "q" (.existence (.ok (asks .none)))]

theorem query_of_turns_program :
    (∀ m ∈ Command.movesAll program, m.Keeps "q") ∧
    ∃ sel, (Command.runAll { schema } (.select "q" "post" :: program)).2.selection? "q" =
        some sel ∧
      sel.query.source = .ofTable "posts" ∧
      sel.query.clauses.map (·.connective) = [.and, .or, .or] := by
  have hkeeps : ∀ m ∈ Command.movesAll program, m.Keeps "q" := by decide
  have hfresh : Selection.ofModel schema "post" = .ok ⟨"post", .ofTable "posts", none⟩ := rfl
  obtain ⟨⟨sel, hsel, -, hquery⟩, -, -⟩ :=
    @Session.query_of_turns { schema } "q" "post" _ hfresh program hkeeps
  refine ⟨hkeeps, sel, hsel, ?_, ?_⟩
  · rw [hquery]
    rfl
  · rw [hquery]
    rfl

end Board
end Semijoin
