import Semijoin.Schema.Basic
import Semijoin.Proofs.Clauses

/-! # Walking a path

A path is walked left to right through the graph, one step a segment, before
anything is built.  Compiling a condition is walking its path and nesting one
filter a step (`compileFrom_of_walk`); so a path compiles exactly when it can be
walked, and what compiles is attached as one clause (`attach_of_walk`). -/
set_option autoImplicit false
namespace Semijoin

universe u

/-- A segment resolved: the relation it names and the model that leads to. -/
structure Step where
  relation : Relation
  related : Model

namespace Graph

def step (g : Graph) (model segment : String) : Except FilterError Step := do
  let relation ← g.relation model segment
  let _ ← relation.keys
  let related ← g.model relation.related
  return ⟨relation, related⟩

/-- The steps of a path from a model; the first failing step decides the failure. -/
def walk (g : Graph) (model : String) : List String → Except FilterError (List Step)
  | [] => .ok []
  | segment :: rest => do
    let step ← g.step model segment
    let later ← g.walk step.related.name rest
    return step :: later

end Graph

namespace Step

def source (st : Step) (outer : Source) (i : Nat) : Source := outer.nested st.related.table i

def outerKey (st : Step) (outer : Source) : Column := outer.column st.relation.parentKey

def innerKey (st : Step) (outer : Source) (i : Nat) : Column :=
  (st.source outer i).column st.relation.relatedKey

def hop (st : Step) (outer : Source) (i : Nat) : Hop where
  index := i
  relation := st.relation
  related := st.related
  source := st.source outer i
  join := ⟨st.outerKey outer, st.innerKey outer i⟩

/-- The clauses of a hop before a form is chosen: the join, what is asked of the
related row, and the relation's own constraints. -/
def held (st : Step) (outer : Source) (i : Nat) (asked : List Clause) : List Clause :=
  ⟨.and, .correlate (st.outerKey outer) (st.innerKey outer i)⟩ ::
    (asked ++ Clause.merged st.relation.constraints)

theorem allAnd_held (st : Step) (outer : Source) (i : Nat) {asked : List Clause}
    (h : Clause.AllAnd asked) : Clause.AllAnd (st.held outer i asked) := by
  rw [held, Clause.allAnd_cons, Clause.allAnd_append]
  exact ⟨rfl, h, Clause.allAnd_merged _⟩

def filter (st : Step) (mode : Mode) (t : Threshold) (outer : Source) (i : Nat)
    (asked : List Clause) : Filter :=
  .ofChoice (t.choice mode) ⟨st.source outer i, .all, st.held outer i asked⟩
    ⟨st.outerKey outer, st.innerKey outer i⟩ t

end Step

def Condition.asked (c : Condition) (source : Source) : List Clause :=
  match c.constraint with
  | none => []
  | some constraint => Clause.merged (constraint (.ofSource source)).clauses

theorem Condition.allAnd_asked (c : Condition) (source : Source) :
    Clause.AllAnd (c.asked source) := by
  rw [asked]
  cases c.constraint with
  | none => intro d hd; simp at hd
  | some constraint => exact Clause.allAnd_merged _

/-- The filter over the steps of a path: each asks for one row that the next
accepts, the last for what the condition asks. -/
def Step.nest (mode : Mode) (c : Condition) : Source → Nat → Step → List Step → Filter
  | outer, i, st, [] => st.filter mode c.threshold outer i (c.asked (st.source outer i))
  | outer, i, st, next :: rest =>
    st.filter mode .any outer i
      [⟨.and, (nest mode c (st.source outer i) (i + 1) next rest).predicate⟩]

/-! ## Compiling is walking and nesting -/

theorem bind_ok {α β : Type} {x : Except FilterError α} {f : α → Except FilterError β} {b : β}
    (h : (x >>= f) = .ok b) : ∃ a, x = .ok a ∧ f a = .ok b := by
  cases x with
  | error e => cases h
  | ok a => exact ⟨a, rfl, h⟩

theorem Graph.hop_eq (g : Graph) (i : Nat) (model : String) (outer : Source) (segment : String) :
    g.hop i model outer segment = (g.step model segment).map (·.hop outer i) := by
  rw [hop, step]
  cases g.relation model segment with
  | error e => rfl
  | ok relation =>
      simp only [Relation.keys, bind, Except.bind]
      cases relation.kind.hasKeyPair with
      | false => rfl
      | true =>
          simp only [if_true]
          cases g.model relation.related with
          | error e => rfl
          | ok related => rfl

theorem Step.close_filter (st : Step) (outer : Source) (i : Nat) (mode : Mode) (t : Threshold)
    (asked : List Clause) (inner : List HopReport) (q : Query)
    (hq : q = ⟨st.source outer i, .all,
      ⟨.and, .correlate (st.outerKey outer) (st.innerKey outer i)⟩ :: asked⟩) :
    ((st.hop outer i).close mode t q inner).filter = st.filter mode t outer i asked := by
  subst hq
  simp only [Hop.close, Query.merge_eq, filter, held, hop, List.cons_append]

theorem Step.last_filter (st : Step) (outer : Source) (i : Nat) (mode : Mode) (c : Condition) :
    ((st.hop outer i).last mode c).filter = nest mode c outer i st [] := by
  rw [Hop.last, nest]
  apply close_filter
  rw [Condition.asked]
  cases c.constraint with
  | none => rfl
  | some constraint =>
      simp only [Option.elim, Query.constrain, Query.merge_eq]
      rfl

theorem Step.around_filter (st : Step) (outer : Source) (i : Nat) (mode : Mode) (c : Condition)
    (next : Step) (rest : List Step) (inner : Compiled)
    (h : inner.filter = nest mode c (st.source outer i) (i + 1) next rest) :
    ((st.hop outer i).around mode inner).filter = nest mode c outer i st (next :: rest) := by
  rw [Hop.around, nest]
  apply close_filter
  rw [Filter.attach_query, h]
  rfl

namespace Graph

theorem step_of_found {g : Graph} {model segment : String} {r : Relation} {related : Model}
    (hr : g.relation model segment = .ok r) (hk : r.kind.hasKeyPair = true)
    (hm : g.model? r.related = some related) : g.step model segment = .ok ⟨r, related⟩ := by
  have hrelated : g.model r.related = .ok related := model_eq_ok_iff.mpr hm
  simp only [step, hr, Relation.keys, hk, hrelated, bind, Except.bind, if_true]
  rfl

theorem walk_cons_ok {g : Graph} {model segment : String} {rest : List String} {steps : List Step}
    (h : g.walk model (segment :: rest) = .ok steps) :
    ∃ st later, g.step model segment = .ok st ∧ g.walk st.related.name rest = .ok later ∧
      steps = st :: later := by
  rw [walk] at h
  obtain ⟨st, hst, h⟩ := bind_ok h
  obtain ⟨later, hlater, h⟩ := bind_ok h
  cases h
  exact ⟨st, later, hst, hlater, rfl⟩

theorem length_of_walk {g : Graph} : ∀ {segments : List String} {model : String}
    {steps : List Step}, g.walk model segments = .ok steps → steps.length = segments.length := by
  intro segments
  induction segments with
  | nil => intro model steps h; cases h; rfl
  | cons segment rest ih =>
      intro model steps h
      obtain ⟨st, later, -, hlater, rfl⟩ := walk_cons_ok h
      rw [List.length_cons, List.length_cons, ih hlater]

theorem related_of_step {g : Graph} {model segment : String} {st : Step}
    (h : g.step model segment = .ok st) : ∃ name, g.model? name = some st.related := by
  rw [step] at h
  obtain ⟨relation, -, h⟩ := bind_ok h
  obtain ⟨keys, -, h⟩ := bind_ok h
  obtain ⟨related, hrelated, h⟩ := bind_ok h
  cases h
  exact ⟨relation.related, model_eq_ok_iff.mp hrelated⟩

theorem related_of_walk {g : Graph} : ∀ {segments : List String} {model : String}
    {steps : List Step}, g.walk model segments = .ok steps →
      ∀ st ∈ steps, ∃ name, g.model? name = some st.related := by
  intro segments
  induction segments with
  | nil => intro model steps h; cases h; nofun
  | cons segment rest ih =>
      intro model steps h
      obtain ⟨st, later, hst, hlater, rfl⟩ := walk_cons_ok h
      rw [List.forall_mem_cons]
      exact ⟨related_of_step hst, ih hlater⟩

/-- A path that can be walked compiles to the nest of its steps. -/
theorem compileFrom_of_walk (g : Graph) (c : Condition) (mode : Mode) :
    ∀ (rest : List String) (i : Nat) (model : String) (outer : Source) (segment : String)
      (st : Step) (later : List Step), g.walk model (segment :: rest) = .ok (st :: later) →
      ∃ compiled, g.compileFrom c mode i model outer segment rest = .ok compiled ∧
        compiled.filter = Step.nest mode c outer i st later := by
  -- the walk is known as a whole, the filter is built from the inside out: so the
  -- induction is on the rest of the path, for every model and source it may start from
  intro rest
  induction rest with
  | nil =>
      intro i model outer segment st later h
      obtain ⟨st', later', hst, hlater, heq⟩ := walk_cons_ok h
      cases hlater
      cases heq
      refine ⟨(st.hop outer i).last mode c, ?_, st.last_filter outer i mode c⟩
      rw [compileFrom, hop_eq, hst]
      rfl
  | cons next rest ih =>
      intro i model outer segment st later h
      obtain ⟨st', later', hst, hlater, heq⟩ := walk_cons_ok h
      cases heq
      obtain ⟨st₂, later₂, -, -, rfl⟩ := walk_cons_ok hlater
      obtain ⟨inner, hinner, hfilter⟩ :=
        ih (i + 1) st.related.name (st.source outer i) next st₂ later₂ hlater
      refine ⟨(st.hop outer i).around mode inner, ?_, ?_⟩
      · rw [compileFrom, hop_eq, hst]
        simp only [Except.map, bind, Except.bind, Step.hop, hinner]
        rfl
      · exact st.around_filter outer i mode c st₂ later₂ inner hfilter

/-- A path that cannot be walked fails to compile for the same reason. -/
theorem compileFrom_error (g : Graph) (c : Condition) (mode : Mode) :
    ∀ (rest : List String) (i : Nat) (model : String) (outer : Source) (segment : String)
      (e : FilterError), g.walk model (segment :: rest) = .error e →
      g.compileFrom c mode i model outer segment rest = .error e := by
  intro rest
  induction rest with
  | nil =>
      intro i model outer segment e h
      rw [walk] at h
      rw [compileFrom, hop_eq]
      cases hst : g.step model segment with
      | error e' => rw [hst] at h; cases h; rfl
      | ok st => rw [hst] at h; cases h
  | cons next rest ih =>
      intro i model outer segment e h
      rw [walk] at h
      rw [compileFrom, hop_eq]
      cases hst : g.step model segment with
      | error e' => rw [hst] at h; cases h; rfl
      | ok st =>
          rw [hst] at h
          cases hlater : g.walk st.related.name (next :: rest) with
          | ok later => simp only [bind, Except.bind, hlater] at h; cases h
          | error e' =>
              simp only [bind, Except.bind, hlater] at h
              cases h
              have hinner := ih (i + 1) st.related.name (st.source outer i) next e hlater
              simp only [Except.map, bind, Except.bind, Step.hop, hinner]

/-- Attached to a query, a path that can be walked is one clause at the end. -/
theorem attach_of_walk {g : Graph} {model : String} {c : Condition} {st : Step}
    {later : List Step} (h : g.walk model c.path.segments = .ok (st :: later)) (base : Query)
    (outer : Source) (mode : Mode) :
    (g.attach base model outer c mode).error? = none ∧
      (g.attach base model outer c mode).target =
        base.push ⟨c.connective, (Step.nest mode c outer 0 st later).predicate⟩ := by
  obtain ⟨compiled, hcompiled, hfilter⟩ :=
    g.compileFrom_of_walk c mode c.path.rest 0 model outer c.path.first st later h
  rw [attach, compile, hcompiled]
  refine ⟨rfl, ?_⟩
  simp only [Filter.attach_query, hfilter]

theorem attach_of_walk_error {g : Graph} {model : String} {c : Condition} {e : FilterError}
    (h : g.walk model c.path.segments = .error e) {τ : Type u} [Filterable τ] (target : τ)
    (outer : Source) (mode : Mode) :
    (g.attach target model outer c mode).error? = some e := by
  rw [attach, compile, g.compileFrom_error c mode c.path.rest 0 model outer c.path.first e h]

/-- A path compiles only if it can be walked. -/
theorem walk_of_attach {g : Graph} {base : Query} {model : String} {outer : Source}
    {c : Condition} {mode : Mode} (h : (g.attach base model outer c mode).error? = none) :
    ∃ st later, g.walk model c.path.segments = .ok (st :: later) := by
  cases hwalk : g.walk model c.path.segments with
  | error e => rw [attach_of_walk_error hwalk] at h; cases h
  | ok steps =>
      cases steps with
      | nil => cases length_of_walk hwalk
      | cons st later => exact ⟨st, later, rfl⟩

end Graph

/-! ## A board

Posts have comments, of which the approved ones count, and comments have
replies, which are comments themselves. -/

namespace Board

def comments : Relation :=
  (Relation.hasMany "comments" "comment" "post_id" "id").constrainedBy
    ⟨.and, .compare (.bare "approved") .eq (.bool true)⟩

def replies : Relation := .hasMany "replies" "comment" "parent_id" "id"

def post : Model := (Model.ofTable "post" "posts").declare comments

def comment : Model := (Model.ofTable "comment" "comments").declare replies

def schema : Schema := (Schema.empty.insert post).insert comment

def path : Path := ⟨"comments", ["replies"], by decide⟩

def steps : List Step := [⟨comments, comment⟩, ⟨replies, comment⟩]

theorem walk_path : schema.graph.walk "post" path.segments = .ok steps := rfl

/-- Asks for some number of replies that are pinned or unread. -/
def asks (t : Threshold) : Condition where
  path := path
  threshold := t
  constraint := some fun q =>
    (q.conjoin (.compare (.bare "pinned") .eq (.bool true))).disjoin (.isNull (.bare "read_at"))
  connective := .or

end Board
end Semijoin
