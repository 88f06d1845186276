import Semijoin.Proofs.Refusal

/-! # The short ways to ask

A request stands for a condition (`Request.StandsFor`).  `Session.requests_agree` says that
asking by the request is asking by the condition, that a constraint without clauses is none,
and that a request along no path is refused and noted like a condition that does not
compile. -/
set_option autoImplicit false
namespace Semijoin

universe u

/-! ## Conditions that ask the same -/

/-- The conditions differ at most in how they come to what they ask of the related rows. -/
structure Condition.AsksLike (c d : Condition) : Prop where
  path : c.path = d.path
  threshold : c.threshold = d.threshold
  connective : c.connective = d.connective
  mode : c.mode = d.mode
  asked (source : Source) : c.asked source = d.asked source

/-- Of a constraint only the clauses count that it adds to a fresh query. -/
theorem Hop.constrained_eq (h : Hop) (c : Condition) :
    c.constraint.elim h.joined h.joined.constrain =
      { h.joined with clauses := h.joined.clauses ++ c.asked h.source } := by
  rw [Condition.asked]
  cases c.constraint with
  | none =>
      simp only [Option.elim_none, List.append_nil]
      rfl
  | some constraint => exact Query.merge_eq h.joined _

theorem Hop.last_congr (h : Hop) (mode : Mode) {c d : Condition} (hlike : c.AsksLike d) :
    h.last mode c = h.last mode d := by
  rw [last, last, constrained_eq, constrained_eq, hlike.threshold, hlike.asked]

namespace Graph

theorem compileFrom_congr (g : Graph) (mode : Mode) {c d : Condition} (hlike : c.AsksLike d) :
    ∀ (rest : List String) (i : Nat) (model : String) (outer : Source) (segment : String),
      g.compileFrom c mode i model outer segment rest =
        g.compileFrom d mode i model outer segment rest := by
  intro rest
  induction rest with
  | nil =>
      intro i model outer segment
      simp only [compileFrom, Hop.last_congr _ mode hlike]
  | cons next rest ih =>
      intro i model outer segment
      simp only [compileFrom, ih]

theorem attach_congr (g : Graph) {τ : Type u} [Filterable τ] (target : τ) (model : String)
    (outer : Source) (mode : Mode) {c d : Condition} (hlike : c.AsksLike d) :
    g.attach target model outer c mode = g.attach target model outer d mode := by
  rw [attach, attach, compile, compile, hlike.path, g.compileFrom_congr mode hlike,
    hlike.connective]

end Graph

theorem Selection.filterBy_congr (sel : Selection) (s : Schema) {c d : Condition}
    (hlike : c.AsksLike d) : sel.filterBy s c = sel.filterBy s d := by
  rw [filterBy, filterBy, hlike.mode, Schema.attach, s.graph.attach_congr _ _ _ _ hlike]

/-! ## Requests -/

namespace Request

/-- How many rows are asked for: at least one if nothing else is said, and none by the
requests that lack. -/
def threshold : Request → Threshold
  | has threshold | orHas threshold | hasIn _ threshold => threshold
  | hasWhere _ | orHasWhere _ => ⟨.atLeast, 1⟩
  | lacks | orLacks | lacksWhere _ | lacksIn _ => ⟨.fewerThan, 1⟩

def constraint? : Request → Option Constraint
  | hasWhere constraint | orHasWhere constraint | lacksWhere constraint => some constraint
  | hasIn constraint _ | lacksIn constraint => constraint
  | has _ | orHas _ | lacks | orLacks => none

def connective : Request → Connective
  | orHas _ | orLacks | orHasWhere _ => .or
  | has _ | lacks | hasWhere _ | lacksWhere _ | hasIn .. | lacksIn _ => .and

def mode? : Request → Option Mode
  | hasIn .. | lacksIn _ => some .membership
  | _ => none

/-- The condition is along the path of that text, and asks what the request asks. -/
structure StandsFor (r : Request) (path : String) (c : Condition) : Prop where
  path : Path.parse path = .ok c.path
  threshold : c.threshold = r.threshold
  constraint : c.constraint = r.constraint?
  connective : c.connective = r.connective
  mode : c.mode = r.mode?

theorem standsFor_condition {path : String} {p : Path} (h : Path.parse path = .ok p)
    (r : Request) : r.StandsFor path (r.condition p) := by
  cases r with
  | _ => exact ⟨h, rfl, rfl, rfl, rfl⟩

/-- A request stands for no more than one condition along a path. -/
theorem StandsFor.unique {r : Request} {path : String} {c d : Condition}
    (hc : r.StandsFor path c) (hd : r.StandsFor path d) : c = d := by
  have hpath : c.path = d.path := Except.ok.inj (hc.path.symm.trans hd.path)
  exact Condition.ext hpath (hc.threshold.trans hd.threshold.symm)
    (hc.constraint.trans hd.constraint.symm) (hc.connective.trans hd.connective.symm)
    (hc.mode.trans hd.mode.symm)

end Request

namespace Selection

variable {sel : Selection} {s : Schema} {path : String}

theorem call_of_standsFor {r : Request} {c : Condition} (h : r.StandsFor path c) :
    sel.call s (.request path r) = sel.call s (.existence (.ok c)) := by
  have hbuilt : r.condition c.path = c := (Request.standsFor_condition h.path r).unique h
  rw [call, h.path]
  simp only [hbuilt, call]

/-- Requests whose conditions ask the same have the same outcome, whatever the path. -/
theorem call_congr {r q : Request} (h : ∀ p, (r.condition p).AsksLike (q.condition p)) :
    sel.call s (.request path r) = sel.call s (.request path q) := by
  rw [call, call]
  cases Path.parse path with
  | error e => rfl
  | ok parsed => exact sel.filterBy_congr s (h parsed)

end Selection

theorem Session.call_congr {s : Session} {name : String} {a b : Call}
    (h : ∀ sel : Selection, sel.call s.schema a = sel.call s.schema b) :
    s.call name a = s.call name b := by
  rw [Session.call, Session.call]
  cases s.selection? name with
  | none => rfl
  | some sel => simp only [h sel]

/-- A constraint that adds no clauses to a fresh query. -/
def Constraint.IsIdle (constraint : Constraint) : Prop :=
  ∀ source, (constraint (.ofSource source)).clauses = []

theorem Constraint.IsIdle.asksLike {constraint : Constraint} (h : constraint.IsIdle)
    (c : Condition) : { c with constraint := some constraint }.AsksLike
      { c with constraint := none } := by
  refine ⟨rfl, rfl, rfl, rfl, fun source => ?_⟩
  simp only [Condition.asked, h source, Clause.merged]

/-- Asking by a request is asking by the condition it stands for: the answer, the selection
left, and all that is noted are the same.  A request with a constraint that adds nothing is
the request without one.  And where the path is malformed, any request is refused with the
text it was given, changes no selection, and is noted as a start and a failure of the
selection's model. -/
theorem Session.requests_agree (s : Session) (name path : String) :
    (∀ (r : Request) (c : Condition), r.StandsFor path c →
      s.call name (.request path r) = s.call name (.existence (.ok c))) ∧
    (∀ constraint : Constraint, constraint.IsIdle →
      s.call name (.request path (.hasWhere constraint)) =
          s.call name (.request path (.has ⟨.atLeast, 1⟩)) ∧
        s.call name (.request path (.orHasWhere constraint)) =
          s.call name (.request path (.orHas ⟨.atLeast, 1⟩)) ∧
        s.call name (.request path (.lacksWhere constraint)) =
          s.call name (.request path .lacks)) ∧
    ∀ (r : Request) (sel : Selection), s.selection? name = some sel →
      (¬ ∃ p, Path.parse path = .ok p) →
      (s.call name (.request path r)).1 =
          .state sel (sel.currentMode s.schema) (some (.invalidPath path)) ∧
        (s.call name (.request path r)).2.schema = s.schema ∧
        (∀ other, (s.call name (.request path r)).2.selection? other = s.selection? other) ∧
        (s.call name (.request path r)).2.monitor =
          s.monitor.noteAll [.rejected path sel.model (.invalidPath path),
            .event (.started sel.model), .event (.failed sel.model .invalidInput)] := by
  refine ⟨fun r c h => ?_, fun constraint hidle => ⟨?_, ?_, ?_⟩, fun r sel hsel hpath => ?_⟩
  · exact call_congr fun sel => Selection.call_of_standsFor h
  · exact call_congr fun sel => Selection.call_congr fun p =>
      hidle.asksLike ((Request.has .any).condition p)
  · exact call_congr fun sel => Selection.call_congr fun p =>
      hidle.asksLike ((Request.orHas .any).condition p)
  · exact call_congr fun sel => Selection.call_congr fun p =>
      hidle.asksLike (Request.lacks.condition p)
  · have hrefused : sel.call s.schema (.request path r) = sel.refuse path (.invalidPath path) := by
      apply Selection.call_of_malformed
      rw [Call.condition?]
      cases hparse : Path.parse path with
      | ok p => exact absurd ⟨p, hparse⟩ hpath
      | error e => rfl
    have herror : (sel.call s.schema (.request path r)).error? = some (.invalidPath path) := by
      rw [hrefused]
      rfl
    obtain ⟨hanswer, hschema, hselections⟩ := call_of_error hsel herror
    refine ⟨hanswer, hschema, hselections, ?_⟩
    simp only [Session.call, hsel, hrefused]
    rfl

namespace Board

/-- Selects a column, which is nothing to ask of the related rows. -/
def idle : Constraint := fun q => q.select [.bare "id"]

def titledSession : Session := ({ schema } : Session).hold "q" titled

/-- Posts without a comment with a reply, by membership: with the constraint that adds
nothing, and along a path with an empty segment. -/
theorem requests_agree_replies :
    titledSession.call "q" (.request "comments.replies" (.lacksIn (some idle))) =
      titledSession.call "q" (.existence (.ok
        ⟨path, ⟨.fewerThan, 1⟩, some idle, .and, some .membership⟩)) ∧
    idle.IsIdle ∧
    titledSession.call "q" (.request "comments.replies" (.lacksWhere idle)) =
      titledSession.call "q" (.request "comments.replies" .lacks) ∧
    titledSession.selection? "q" = some titled ∧
    (¬ ∃ p, Path.parse "comments..replies" = .ok p) ∧
    (titledSession.call "q" (.request "comments..replies" .orLacks)).1 =
      .state titled .membership (some (.invalidPath "comments..replies")) ∧
    (titledSession.call "q" (.request "comments..replies" .orLacks)).2.selection? "q" =
      some titled := by
  obtain ⟨hstands, hidle, -⟩ := titledSession.requests_agree "q" "comments.replies"
  obtain ⟨-, -, hmalformed⟩ := titledSession.requests_agree "q" "comments..replies"
  have hnone : ¬ ∃ p, Path.parse "comments..replies" = .ok p := by
    rintro ⟨p, hp⟩
    cases hp
  obtain ⟨-, -, hlacks⟩ := hidle idle fun _ => rfl
  obtain ⟨hanswer, -, hselections, -⟩ := hmalformed .orLacks titled rfl hnone
  refine ⟨hstands _ _ ⟨rfl, rfl, rfl, rfl, rfl⟩, fun _ => rfl, hlacks, rfl, hnone, hanswer, ?_⟩
  exact (hselections "q").trans rfl

end Board
end Semijoin
