import Semijoin.Proofs.Walk

/-! # What is done to a target

All that can be done to a target is four operations (`Filterable`), and a target that only
notes them shows which were done.  `Graph.attach_operates_once` says that a condition that
compiles does one of the three that add a filter, the same to every target, whatever is in
it already; a condition that is refused does none. -/
set_option autoImplicit false
namespace Semijoin

universe u

/-- What can be done to a target. -/
inductive Operation where
  | addExistence (query : Query) (connective : Connective) (negated : Bool)
  | addMembership (outer : Column) (query : Query) (connective : Connective) (negated : Bool)
  | addCount (query : Query) (threshold : Threshold) (connective : Connective)
  | merge (clauses : List Clause)

namespace Operation

def perform {τ : Type u} [Filterable τ] (target : τ) : Operation → τ
  | addExistence query connective negated =>
    Filterable.addExistence target query connective negated
  | addMembership outer query connective negated =>
    Filterable.addMembership target outer query connective negated
  | addCount query threshold connective => Filterable.addCount target query threshold connective
  | merge clauses => Filterable.merge target clauses

/-- The clause that adding a filter stands for; merging stands for none of its own. -/
def clause? : Operation → Option Clause
  | addExistence query connective negated => some ⟨connective, .existence query negated⟩
  | addMembership outer query connective negated =>
    some ⟨connective, .membership outer query negated⟩
  | addCount query threshold connective => some ⟨connective, .count query threshold⟩
  | merge _ => none

theorem perform_query {op : Operation} {clause : Clause} (h : op.clause? = some clause)
    (q : Query) : op.perform q = q.push clause := by
  cases op with
  | addExistence query connective negated => cases h; rfl
  | addMembership outer query connective negated => cases h; rfl
  | addCount query threshold connective => cases h; rfl
  | merge clauses => cases h

end Operation

/-- A target that only notes what is done to it. -/
structure Recorder where
  performed : List Operation := []

namespace Recorder

def note (r : Recorder) (op : Operation) : Recorder := ⟨r.performed ++ [op]⟩

instance : Filterable Recorder where
  addExistence r query connective negated := r.note (.addExistence query connective negated)
  addMembership r outer query connective negated :=
    r.note (.addMembership outer query connective negated)
  addCount r query threshold connective := r.note (.addCount query threshold connective)
  merge r clauses := r.note (.merge clauses)

theorem perform_eq_note (r : Recorder) (op : Operation) : op.perform r = r.note op := by
  cases op with
  | _ => rfl

end Recorder

/-! ## Attaching a filter -/

namespace Filter

def operation (f : Filter) (k : Connective) : Operation :=
  match f with
  | existence query negated => .addExistence query k negated
  | membership outer query negated => .addMembership outer query k negated
  | count query threshold => .addCount query threshold k

theorem attach_eq_perform {τ : Type u} [Filterable τ] (f : Filter) (target : τ) (k : Connective) :
    f.attach target k = (f.operation k).perform target := by
  cases f with
  | _ => rfl

theorem clause?_operation (f : Filter) (k : Connective) :
    (f.operation k).clause? = some ⟨k, f.predicate⟩ := by
  cases f with
  | _ => rfl

end Filter

namespace Graph

variable {g : Graph} {model : String} {outer : Source} {c : Condition} {mode : Mode}

theorem attach_of_compile {compiled : Compiled} (h : g.compile model outer c mode = .ok compiled)
    {τ : Type u} [Filterable τ] (target : τ) :
    g.attach target model outer c mode = {
      target := (compiled.filter.operation c.connective).perform target
      error? := none
      journal := .event (.started model) :: compiled.hops.flatMap Entry.ofHop } := by
  simp only [attach, h, Filter.attach_eq_perform]

theorem attach_of_compile_error {e : FilterError} (h : g.compile model outer c mode = .error e)
    {τ : Type u} [Filterable τ] (target : τ) :
    g.attach target model outer c mode = {
      target
      error? := some e
      journal := [.event (.started model), .rejected c.path.render model e,
        .event (.failed model e.toClass)] } := by
  rw [attach, h]

/-- Either a condition compiles, whatever its target, and all that is done to the target is
one operation, the same to every target: it adds a filter by the condition's connective and
merges nothing.  To a query it is one clause at the end, the clause that the operation of a
target that only notes stands for.  Or the condition is refused, whatever its target, and
nothing is done to any.  What is noted in the journal is not the target's either. -/
theorem attach_operates_once (g : Graph) (model : String) (outer : Source) (c : Condition)
    (mode : Mode) :
    (∃ (op : Operation) (p : Predicate) (journal : List Entry),
      op.clause? = some ⟨c.connective, p⟩ ∧
      (∀ {τ : Type u} [Filterable τ] (target : τ),
        g.attach target model outer c mode = ⟨op.perform target, none, journal⟩) ∧
      (∀ r : Recorder,
        (g.attach r model outer c mode).error? = none ∧
        (g.attach r model outer c mode).target.performed = r.performed ++ [op]) ∧
      ∀ base : Query,
        (g.attach base model outer c mode).error? = none ∧
        (g.attach base model outer c mode).target.source = base.source ∧
        (g.attach base model outer c mode).target.projection = base.projection ∧
        (g.attach base model outer c mode).target.clauses =
          base.clauses ++ [⟨c.connective, p⟩]) ∨
    (∃ (e : FilterError) (journal : List Entry),
      (∀ {τ : Type u} [Filterable τ] (target : τ),
        g.attach target model outer c mode = ⟨target, some e, journal⟩) ∧
      ∀ r : Recorder,
        (g.attach r model outer c mode).error? = some e ∧
        (g.attach r model outer c mode).target.performed = r.performed) := by
  cases hcompile : g.compile model outer c mode with
  | ok compiled =>
      have hclause := compiled.filter.clause?_operation c.connective
      refine .inl ⟨compiled.filter.operation c.connective, compiled.filter.predicate, _, hclause,
        attach_of_compile hcompile, fun r => ?_, fun base => ?_⟩
      · rw [attach_of_compile hcompile, Recorder.perform_eq_note]
        exact ⟨rfl, rfl⟩
      · rw [attach_of_compile hcompile, Operation.perform_query hclause]
        exact ⟨rfl, rfl, rfl, rfl⟩
  | error e =>
      refine .inr ⟨e, _, attach_of_compile_error hcompile, fun r => ?_⟩
      rw [attach_of_compile_error hcompile]
      exact ⟨rfl, rfl⟩

end Graph
end Semijoin
