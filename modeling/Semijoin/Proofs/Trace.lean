import Semijoin.Proofs.Refusal
import Semijoin.Proofs.Shape

/-! # The events of a condition

Attaching a condition opens with the start and tells, innermost hop first, which
form each hop got; a condition that is refused tells of no hop.  The forms are
noted while the nest is built, and `Graph.attach_events` says that they are
those that can be read off the clause. -/
set_option autoImplicit false
namespace Semijoin

universe u

def Predicate.choice? : Predicate → Option Choice
  | .existence _ negated => some ⟨.existence, negated⟩
  | .membership _ _ negated => some ⟨.membership, negated⟩
  | .count .. => some ⟨.count, false⟩
  | _ => none

/-- The events of hops that got these forms, the first at depth `i`. -/
def Event.formedFrom (i : Nat) (choices : List Choice) : List Event :=
  ((choices.zipIdx i).map fun (choice, depth) => .formed choice depth).reverse

theorem Event.formedFrom_cons (i : Nat) (choice : Choice) (rest : List Choice) :
    formedFrom i (choice :: rest) = formedFrom (i + 1) rest ++ [.formed choice i] := by
  rw [formedFrom, List.zipIdx_cons, List.map_cons, List.reverse_cons]
  rfl

namespace Step

/-- The forms of the hops of a nest: all but the last ask for one row. -/
def choices (mode : Mode) (c : Condition) : List Step → List Choice
  | [] => [c.threshold.choice mode]
  | _ :: rest => Threshold.any.choice mode :: choices mode c rest

theorem length_choices (mode : Mode) (c : Condition) (later : List Step) :
    (choices mode c later).length = later.length + 1 := by
  induction later with
  | nil => rfl
  | cons _ rest ih => rw [choices, List.length_cons, ih, List.length_cons]

theorem filter_choice? (st : Step) (mode : Mode) (t : Threshold) (outer : Source) (i : Nat)
    (asked : List Clause) :
    (st.filter mode t outer i asked).predicate.choice? = some (t.choice mode) := by
  rw [filter, Threshold.choice]
  split
  · cases mode with
    | existence => rfl
    | membership => rfl
  · split
    · cases mode with
      | existence => rfl
      | membership => rfl
    · rfl

theorem nest_choice? (mode : Mode) (c : Condition) (outer : Source) (i : Nat) (st : Step)
    (later : List Step) :
    (nest mode c outer i st later).predicate.choice? = (choices mode c later).head? := by
  cases later with
  | nil => rw [nest, filter_choice?]; rfl
  | cons next rest => rw [nest, filter_choice?]; rfl

/-- The forms of a nest can be read off its chain of predicates. -/
theorem levels_choice? (mode : Mode) (c : Condition) : ∀ (later : List Step) (outer : Source)
    (i : Nat) (st : Step),
    ((nest mode c outer i st later).predicate.levels (later.length + 1) outer).map
        (·.2.choice?) = (choices mode c later).map some := by
  intro later
  induction later with
  | nil =>
      intro outer i st
      rw [List.length_nil, Nat.zero_add, Predicate.levels_one, List.map_singleton, nest_choice?]
      rfl
  | cons next rest ih =>
      intro outer i st
      rw [List.length_cons, levels_nest_cons, List.map_cons, ih, nest_choice?]
      rfl

end Step

theorem Entry.events_hops (hops : List HopReport) :
    (hops.flatMap Entry.ofHop).filterMap Entry.event? =
      hops.map fun h => .formed h.choice h.index := by
  induction hops with
  | nil => rfl
  | cons h rest ih =>
      rw [List.flatMap_cons, List.filterMap_append, ih]
      rfl

namespace Graph

/-- Each hop is reported after those nested in it, with its own form and depth. -/
theorem hops_of_walk (g : Graph) (c : Condition) (mode : Mode) :
    ∀ (rest : List String) (i : Nat) (model : String) (outer : Source) (segment : String)
      (st : Step) (later : List Step) (compiled : Compiled),
      g.walk model (segment :: rest) = .ok (st :: later) →
      g.compileFrom c mode i model outer segment rest = .ok compiled →
      compiled.hops.map (fun h => Event.formed h.choice h.index) =
        Event.formedFrom i (Step.choices mode c later) := by
  intro rest
  induction rest with
  | nil =>
      intro i model outer segment st later compiled hwalk hcompile
      obtain ⟨st', later', hst, hlater, heq⟩ := walk_cons_ok hwalk
      cases hlater
      cases heq
      rw [compileFrom, hop_eq, hst] at hcompile
      cases hcompile
      rfl
  | cons next rest ih =>
      intro i model outer segment st later compiled hwalk hcompile
      obtain ⟨st', later', hst, hlater, heq⟩ := walk_cons_ok hwalk
      cases heq
      obtain ⟨st₂, later₂, -, -, rfl⟩ := walk_cons_ok hlater
      rw [compileFrom, hop_eq, hst] at hcompile
      obtain ⟨h, hh, hcompile⟩ := bind_ok hcompile
      cases hh
      obtain ⟨inner, hinner, hcompile⟩ := bind_ok hcompile
      cases hcompile
      have hreports := ih (i + 1) st.related.name (st.source outer i) next st₂ later₂ inner hlater
        hinner
      rw [Step.choices, Event.formedFrom_cons, ← hreports]
      exact List.map_append

variable {g : Graph} {model : String} {c : Condition} {τ : Type u} [Filterable τ]

theorem events_of_walk {st : Step} {later : List Step}
    (h : g.walk model c.path.segments = .ok (st :: later)) (target : τ) (outer : Source)
    (mode : Mode) :
    (g.attach target model outer c mode).events =
      .started model :: Event.formedFrom 0 (Step.choices mode c later) := by
  obtain ⟨compiled, hcompiled, -⟩ :=
    g.compileFrom_of_walk c mode c.path.rest 0 model outer c.path.first st later h
  have hhops := g.hops_of_walk c mode c.path.rest 0 model outer c.path.first st later compiled h
    hcompiled
  rw [attach, compile, hcompiled, Outcome.events, ← hhops, ← Entry.events_hops]
  rfl

theorem events_of_error {e : FilterError} {target : τ} {outer : Source} {mode : Mode}
    (h : (g.attach target model outer c mode).error? = some e) :
    (g.attach target model outer c mode).events =
      [.started model, .failed model e.toClass] := by
  rw [attach] at h ⊢
  cases hcompile : g.compile model outer c mode with
  | ok compiled => rw [hcompile] at h; cases h
  | error e' =>
      rw [hcompile] at h
      cases h
      rfl

/-- A condition that is attached is told of by its start and one event a hop, the
innermost first: the forms, by depth, are those of the predicates of its clause,
the outermost at depth zero.  A refused one is told of by its start and its
failure, both of the model it was asked of. -/
theorem attach_events (g : Graph) (target : τ) (base : Query) (model : String) (outer : Source)
    (c : Condition) (mode : Mode) :
    match (g.attach target model outer c mode).error? with
    | some e =>
        (g.attach target model outer c mode).events = [.started model, .failed model e.toClass]
    | none => ∃ (p : Predicate) (choices : List Choice),
        (g.attach base model outer c mode).target = base.push ⟨c.connective, p⟩ ∧
          choices.length = c.path.segments.length ∧
          (p.levels choices.length outer).map (·.2.choice?) = choices.map some ∧
          (g.attach target model outer c mode).events = .started model ::
            (choices.zipIdx.map fun (choice, depth) => Event.formed choice depth).reverse := by
  split
  · rename_i e herror
    exact events_of_error herror
  · rename_i hok
    cases hwalk : g.walk model c.path.segments with
    | error e => rw [attach_of_walk_error hwalk] at hok; cases hok
    | ok steps =>
        have hlength := length_of_walk hwalk
        cases steps with
        | nil => cases hlength
        | cons st later =>
            obtain ⟨-, htarget⟩ := attach_of_walk hwalk base outer mode
            have hchoices := Step.length_choices mode c later
            refine ⟨_, Step.choices mode c later, htarget, ?_, ?_, events_of_walk hwalk target outer mode⟩
            · rw [hchoices, ← hlength]
              rfl
            · rw [hchoices]
              exact Step.levels_choice? mode c later outer 0 st

end Graph

example : (Board.schema.graph.attach (Query.ofTable "posts") "post" (.ofTable "posts")
    (Board.asks .none) .membership).events =
      [.started "post", .formed ⟨.membership, true⟩ 1, .formed ⟨.membership, false⟩ 0] := rfl

end Semijoin
