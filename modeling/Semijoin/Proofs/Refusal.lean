import Semijoin.Proofs.Walk
import Semijoin.Session

/-! # Why a condition is refused

A hop stops at the first of its look-ups that fails (`Graph.Stops`), and a path
at the first hop that stops (`Graph.FailsAt`).  `Graph.attach_refusal_iff` says
that this alone decides whether a condition is refused and why, and that a
refusal leaves everything as it was. -/
set_option autoImplicit false
namespace Semijoin

universe u

namespace Graph

/-! ## The look-ups of a path -/

/-- The look-ups of one hop in their order, and how the first that fails is
reported. -/
inductive Stops (g : Graph) (model segment : String) : FilterError → Prop where
  | noModel : g.model? model = none → Stops g model segment (.unknownModel model)
  | noRelation {m : Model} : g.model? model = some m → m.relation? segment = none →
      Stops g model segment (.unknownRelation model segment)
  | noKeyPair {m : Model} {r : Relation} : g.model? model = some m →
      m.relation? segment = some r → r.kind.hasKeyPair = false →
      Stops g model segment (.unsupportedKind r.name r.kind)
  | noRelated {m : Model} {r : Relation} : g.model? model = some m →
      m.relation? segment = some r → r.kind.hasKeyPair = true → g.model? r.related = none →
      Stops g model segment (.unknownModel r.related)

/-- All look-ups of a hop succeed, the last with the model it leads to. -/
def Leads (g : Graph) (model segment : String) (next : Model) : Prop :=
  ∃ m r, g.model? model = some m ∧ m.relation? segment = some r ∧ r.kind.hasKeyPair = true ∧
    g.model? r.related = some next

inductive Follows (g : Graph) : String → List String → String → Prop where
  | here (model : String) : Follows g model [] model
  | hop {model segment last : String} {rest : List String} {next : Model} :
      g.Leads model segment next → Follows g next.name rest last →
      Follows g model (segment :: rest) last

/-- The first hop that stops does so with `e`: all hops before it lead on. -/
def FailsAt (g : Graph) (model : String) (segments : List String) (e : FilterError) : Prop :=
  ∃ before segment after reached, segments = before ++ segment :: after ∧
    g.Follows model before reached ∧ g.Stops reached segment e

variable {g : Graph} {model segment : String} {e : FilterError}

theorem step_verdict (g : Graph) (model segment : String) :
    match g.step model segment with
    | .ok st => g.Leads model segment st.related
    | .error e => g.Stops model segment e := by
  rw [step, relation]
  cases hm : g.model? model with
  | none => exact .noModel hm
  | some m =>
      cases hr : m.relation? segment with
      | none =>
          simp only [hr]
          exact .noRelation hm hr
      | some r =>
          simp only [hr, Relation.keys, Graph.model, bind, Except.bind]
          cases hk : r.kind.hasKeyPair with
          | false => exact .noKeyPair hm hr hk
          | true =>
              cases hn : g.model? r.related with
              | none => exact .noRelated hm hr hk hn
              | some next => exact ⟨m, r, hm, hr, hk, hn⟩

theorem step_of_leads {next : Model} (h : g.Leads model segment next) :
    ∃ st, g.step model segment = .ok st ∧ st.related = next := by
  obtain ⟨m, r, hm, hr, hk, hn⟩ := h
  exact ⟨⟨r, next⟩, step_of_found (relation_eq_ok_iff.mpr ⟨m, hm, hr⟩) hk hn, rfl⟩

theorem step_of_relation_error (h : g.relation model segment = .error e) :
    g.step model segment = .error e := by
  rw [step, h]
  rfl

theorem step_of_stops (h : g.Stops model segment e) : g.step model segment = .error e := by
  cases h with
  | noModel hm => exact step_of_relation_error (relation_eq_error_iff.mpr (.inl ⟨rfl, hm⟩))
  | noRelation hm hr =>
      exact step_of_relation_error (relation_eq_error_iff.mpr (.inr ⟨rfl, _, hm, hr⟩))
  | noKeyPair hm hr hk =>
      have hrelation := relation_eq_ok_iff.mpr ⟨_, hm, hr⟩
      simp only [step, hrelation, Relation.keys, hk, bind, Except.bind]
      rfl
  | noRelated hm hr hk hn =>
      have hrelation := relation_eq_ok_iff.mpr ⟨_, hm, hr⟩
      have hmissing := model_eq_error_iff.mpr ⟨rfl, hn⟩
      simp only [step, hrelation, Relation.keys, hk, hmissing, bind, Except.bind, if_true]

theorem failsAt_of_walk : ∀ {segments : List String} {model : String},
    g.walk model segments = .error e → g.FailsAt model segments e := by
  intro segments
  induction segments with
  | nil => intro model h; cases h
  | cons segment rest ih =>
      intro model h
      have hverdict := g.step_verdict model segment
      rw [walk] at h
      cases hst : g.step model segment with
      | error e' =>
          rw [hst] at h hverdict
          cases h
          exact ⟨[], segment, rest, model, rfl, .here model, hverdict⟩
      | ok st =>
          rw [hst] at h hverdict
          cases hlater : g.walk st.related.name rest with
          | ok later => simp only [bind, Except.bind, hlater] at h; cases h
          | error e' =>
              simp only [bind, Except.bind, hlater] at h
              cases h
              obtain ⟨before, stop, after, reached, hrest, hfollows, hstops⟩ := ih hlater
              refine ⟨segment :: before, stop, after, reached, ?_, .hop hverdict hfollows, hstops⟩
              rw [hrest, List.cons_append]

theorem walk_of_failsAt {segments : List String} (h : g.FailsAt model segments e) :
    g.walk model segments = .error e := by
  obtain ⟨before, segment, after, reached, rfl, hfollows, hstops⟩ := h
  induction hfollows with
  | here model =>
      rw [List.nil_append, walk, step_of_stops hstops]
      rfl
  | hop hleads _ ih =>
      obtain ⟨st, hst, rfl⟩ := step_of_leads hleads
      rw [List.cons_append, walk, hst]
      simp only [bind, Except.bind, ih hstops]

theorem walk_error_iff {segments : List String} :
    g.walk model segments = .error e ↔ g.FailsAt model segments e :=
  ⟨failsAt_of_walk, walk_of_failsAt⟩

theorem walk_ok_iff {segments : List String} :
    (∃ steps, g.walk model segments = .ok steps) ↔ ∃ last, g.Follows model segments last := by
  constructor
  · intro h
    induction segments generalizing model with
    | nil => exact ⟨model, .here model⟩
    | cons segment rest ih =>
        obtain ⟨steps, hsteps⟩ := h
        obtain ⟨st, later, hst, hlater, -⟩ := walk_cons_ok hsteps
        obtain ⟨last, hlast⟩ := ih ⟨later, hlater⟩
        have hverdict := g.step_verdict model segment
        rw [hst] at hverdict
        exact ⟨last, .hop hverdict hlast⟩
  · rintro ⟨last, hlast⟩
    induction hlast with
    | here model => exact ⟨[], rfl⟩
    | hop hleads _ ih =>
        obtain ⟨st, hst, rfl⟩ := step_of_leads hleads
        obtain ⟨later, hlater⟩ := ih
        refine ⟨st :: later, ?_⟩
        rw [walk, hst]
        simp only [bind, Except.bind, hlater]
        rfl

/-! ## Attaching a condition -/

section Attach
variable {τ : Type u} [Filterable τ] (target : τ) (outer : Source) (c : Condition) (mode : Mode)

/-- Nothing but the walk decides whether attaching fails, and why. -/
theorem attach_error?_eq (g : Graph) (model : String) :
    (g.attach target model outer c mode).error? =
      match g.walk model c.path.segments with
      | .ok _ => none
      | .error e => some e := by
  cases hwalk : g.walk model c.path.segments with
  | error e => exact attach_of_walk_error hwalk target outer mode
  | ok steps =>
      cases steps with
      | nil => cases length_of_walk hwalk
      | cons st later =>
          obtain ⟨compiled, hcompiled, -⟩ :=
            g.compileFrom_of_walk c mode c.path.rest 0 model outer c.path.first st later hwalk
          rw [attach, compile, hcompiled]

theorem attach_error?_iff :
    (g.attach target model outer c mode).error? = some e ↔ g.FailsAt model c.path.segments e := by
  rw [attach_error?_eq, ← walk_error_iff]
  cases g.walk model c.path.segments with
  | ok steps => exact ⟨nofun, nofun⟩
  | error e' => simp only [Option.some.injEq, Except.error.injEq]

theorem attach_none_iff :
    (g.attach target model outer c mode).error? = none ↔
      ∃ last, g.Follows model c.path.segments last := by
  rw [attach_error?_eq, ← walk_ok_iff]
  cases g.walk model c.path.segments with
  | ok steps => exact ⟨fun _ => ⟨steps, rfl⟩, fun _ => rfl⟩
  | error e' => exact ⟨nofun, nofun⟩

theorem attach_target_of_error (h : (g.attach target model outer c mode).error? = some e) :
    (g.attach target model outer c mode).target = target := by
  rw [attach] at h ⊢
  cases hcompile : g.compile model outer c mode with
  | ok compiled => rw [hcompile] at h; cases h
  | error e' => rfl

end Attach
end Graph

/-! ## A refused call -/

/-- The condition a call filters by: none if the call does something else, or if
its condition could not be made. -/
def Call.condition? : Call → Option Condition
  | .request path asked => (Path.parse path).toOption.map asked.condition
  | .existence condition => condition.toOption
  | _ => none

namespace Selection

variable {sel : Selection} {s : Schema} {call : Call} {c : Condition} {e : FilterError}

theorem call_of_condition (h : call.condition? = some c) : sel.call s call = sel.filterBy s c := by
  cases call with
  | request path request =>
      rw [Call.condition?] at h
      rw [Selection.call]
      cases hpath : Path.parse path with
      | ok parsed => rw [hpath] at h; cases h; rfl
      | error e => rw [hpath] at h; cases h
  | existence condition =>
      cases condition with
      | ok c => cases h; rfl
      | error e => cases h
  | _ => cases h

theorem call_of_malformed {path : String} {request : Request}
    (h : (Call.request path request).condition? = none) :
    sel.call s (.request path request) = sel.refuse path (.invalidPath path) := by
  rw [Call.condition?] at h
  rw [Selection.call]
  cases hpath : Path.parse path with
  | ok parsed => rw [hpath] at h; cases h
  | error e => rw [Path.eq_invalidPath_of_parse hpath]

theorem filterBy_error? (s : Schema) (sel : Selection) (c : Condition) :
    (sel.filterBy s c).error? = some e ↔ s.graph.FailsAt sel.model c.path.segments e :=
  Graph.attach_error?_iff sel.query sel.query.source c _

theorem filterBy_target_of_error (h : (sel.filterBy s c).error? = some e) :
    (sel.filterBy s c).target = sel := by
  rw [filterBy, Outcome.map] at h ⊢
  have hquery := Graph.attach_target_of_error _ _ _ _ h
  rw [hquery]

theorem call_target_of_error (h : (sel.call s call).error? = some e) :
    (sel.call s call).target = sel := by
  cases hcondition : call.condition? with
  | some c =>
      rw [call_of_condition hcondition] at h ⊢
      exact filterBy_target_of_error h
  | none =>
      -- no condition: the call fails before it compiles, or it cannot fail
      cases call with
      | request path request =>
          rw [call_of_malformed hcondition]
          rfl
      | existence condition =>
          cases condition with
          | ok c => cases hcondition
          | error e => rfl
      | _ => cases h

end Selection

/-- A refused call is answered with its failure, and leaves the schema and all
selections as they were. -/
theorem Session.call_of_error {session : Session} {name : String} {sel : Selection} {call : Call}
    {e : FilterError} (hsel : session.selection? name = some sel)
    (h : (sel.call session.schema call).error? = some e) :
    (session.call name call).1 = .state sel (sel.currentMode session.schema) (some e) ∧
      (session.call name call).2.schema = session.schema ∧
      ∀ other, (session.call name call).2.selection? other = session.selection? other := by
  have htarget := Selection.call_target_of_error h
  simp only [Session.call, hsel, htarget, h, true_and]
  refine ⟨rfl, fun other => ?_⟩
  have hhold := session.selection?_hold name sel other
  by_cases hname : other = name
  · subst hname
    rw [if_pos rfl] at hhold
    exact hhold.trans hsel.symm
  · rw [if_neg hname] at hhold
    exact hhold

/-- A condition is refused exactly when its path can not be followed, for the
reason of the first hop that stops, whatever else the condition asks, wherever
it is attached, and in whatever mode.  A refused condition leaves its target as
it was, and a refused call all selections and models. -/
theorem Graph.attach_refusal_iff {τ : Type u} [Filterable τ] (g : Graph) (target : τ)
    (model : String) (outer : Source) (c : Condition) (mode : Mode) :
    (∀ e, (g.attach target model outer c mode).error? = some e ↔
      g.FailsAt model c.path.segments e) ∧
    ((g.attach target model outer c mode).error? = none ↔
      ∃ last, g.Follows model c.path.segments last) ∧
    (∀ e, g.FailsAt model c.path.segments e →
      (g.attach target model outer c mode).target = target) ∧
    (∀ (base : Query) (outer' : Source) (c' : Condition) (mode' : Mode), c'.path = c.path →
      (g.attach base model outer' c' mode').error? =
        (g.attach target model outer c mode).error?) ∧
    ∀ (session : Session) (name : String) (sel : Selection) (call : Call) (e : FilterError),
      session.schema.graph = g → session.selection? name = some sel → sel.model = model →
      call.condition? = some c → g.FailsAt model c.path.segments e →
      (session.call name call).1 = .state sel (sel.currentMode session.schema) (some e) ∧
        (session.call name call).2.schema = session.schema ∧
        ∀ other, (session.call name call).2.selection? other = session.selection? other := by
  refine ⟨fun e => attach_error?_iff target outer c mode, attach_none_iff target outer c mode,
    ?_, ?_, ?_⟩
  · intro e hfails
    exact attach_target_of_error target outer c mode
      ((attach_error?_iff target outer c mode).mpr hfails)
  · intro base outer' c' mode' hpath
    rw [attach_error?_eq, attach_error?_eq, hpath]
  · rintro session name sel call e rfl hsel rfl hcondition hfails
    apply Session.call_of_error hsel
    rw [Selection.call_of_condition hcondition]
    exact (Selection.filterBy_error? session.schema sel c).mpr hfails

namespace Board

/-- Comments name their author, whose model is missing, and tags, which have no
key pair. -/
def author : Relation := .belongsTo "author" "user" "user_id" "id"

def tags : Relation := ⟨"tags", .belongsToMany, "tag", "id", "id", []⟩

def unfinished : Schema := schema.insert ((comment.declare author).declare tags)

/-- Posts that have a comment with some tag. -/
def asksTags : Condition where
  path := ⟨"comments", ["tags", "posts"], by decide⟩
  threshold := .none

def titled : Selection where
  model := "post"
  query := (Query.ofTable "posts").conjoin (.isNotNull (.bare "title"))
  mode := some .membership

theorem tags_fail : unfinished.graph.FailsAt "post" asksTags.path.segments
    (.unsupportedKind "tags" .belongsToMany) :=
  ⟨["comments"], "tags", ["posts"], "comment", rfl,
    .hop ⟨post, comments, rfl, rfl, rfl, rfl⟩ (.here "comment"),
    .noKeyPair (r := tags) rfl rfl rfl⟩

theorem attach_refusal_tags :
    (unfinished.graph.attach titled.query "post" titled.query.source asksTags .existence).error? =
        some (.unsupportedKind "tags" .belongsToMany) ∧
      (unfinished.graph.attach titled.query "post" titled.query.source asksTags .existence).target =
        titled.query ∧
      let session := ({ schema := unfinished } : Session).hold "q" titled
      let after := session.call "q" (.existence (.ok asksTags))
      after.1 = .state titled .membership (some (.unsupportedKind "tags" .belongsToMany)) ∧
        after.2.schema = unfinished ∧ after.2.selection? "q" = some titled := by
  obtain ⟨herror, -, htarget, -, hsession⟩ := Graph.attach_refusal_iff unfinished.graph titled.query
    "post" titled.query.source asksTags .existence
  obtain ⟨hanswer, hschema, hselections⟩ := hsession
    (({ schema := unfinished } : Session).hold "q" titled) "q" titled (.existence (.ok asksTags)) _
    rfl rfl rfl rfl tags_fail
  exact ⟨(herror _).mpr tags_fail, htarget _ tags_fail, hanswer, hschema, hselections "q"⟩

end Board
end Semijoin
