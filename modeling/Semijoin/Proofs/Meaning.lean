import Mathlib.Data.List.Basic
import Semijoin.Proofs.Clauses
import Semijoin.Proofs.Truth

/-! # What a query means

A world holds the rows of each table and says when two values compare.  A query
is read in an environment, the rows of the queries around it with their
references, the innermost first; it keeps the rows of its table on which its
clauses are true (`Query.kept_eq`).  A column with a reference is read from the
innermost row of that reference, one without from the innermost row, and a
missing one is null. -/
set_option autoImplicit false
namespace Semijoin

abbrev Row := String → Literal

abbrev Env := List (String × Row)

def Env.read (env : Env) (c : Column) : Literal :=
  match c.table with
  | none =>
    match env with
    | [] => .null
    | (_, row) :: _ => row c.name
  | some table =>
    match env.find? (·.1 = table) with
    | none => .null
    | some (_, row) => row c.name

/-- The rows of each table, the comparisons of values that are not null, and what
a membership test sees of a projection that is not one column. -/
structure World where
  rows : String → List Row
  holds : Comparison → Literal → Literal → Bool
  equal : Literal → Literal → Bool
  spread : Projection → List Row → List Literal

namespace World

def onValues (a b : Literal) (verdict : Bool) : Truth :=
  if a = .null ∨ b = .null then .unknown else .ofBool verdict

def compare (w : World) (op : Comparison) (a b : Literal) : Truth := onValues a b (w.holds op a b)

def same (w : World) (a b : Literal) : Truth := onValues a b (w.equal a b)

/-- Membership: true if some value is the same, false if every one differs. -/
def among (w : World) (a : Literal) (values : List Literal) : Truth :=
  if values.any (w.same a · = .yes) then .yes
  else if values.all (w.same a · = .no) then .no
  else .unknown

end World

def Query.project (w : World) (q : Query) (env : Env) (kept : List Row) : List Literal :=
  match q.projection with
  | .columns [c] => kept.map fun row => Env.read ((q.source.reference, row) :: env) c
  | p => w.spread p kept

mutual

def Predicate.eval (w : World) : Predicate → Env → Truth
  | .compare column op value, env => w.compare op (env.read column) value
  | .isNull column, env => .ofBool (env.read column = .null)
  | .isNotNull column, env => .ofBool (env.read column ≠ .null)
  | .correlate outer inner, env => w.same (env.read outer) (env.read inner)
  | .existence query negated, env => (Truth.ofBool (!(query.kept w env).isEmpty)).negatedIf negated
  | .membership column query negated, env =>
    (w.among (env.read column) (query.project w env (query.kept w env))).negatedIf negated
  | .count query threshold, env => .ofBool (threshold.Holds (query.kept w env).length)
  | .group clauses, env => Truth.ofClauses (Clause.values w clauses env)

def Clause.values (w : World) : List Clause → Env → List (Connective × Truth)
  | [], _ => []
  | ⟨k, p⟩ :: rest, env => (k, p.eval w env) :: Clause.values w rest env

/-- The rows of its table on which a query's clauses are true. -/
def Query.kept (w : World) : Query → Env → List Row
  | ⟨source, _, clauses⟩, env =>
    (w.rows source.table).filter fun row =>
      Truth.ofClauses (Clause.values w clauses ((source.reference, row) :: env)) = .yes

end

/-! ## Lists of clauses -/

/-- A meaning of predicates of which only this is known: a group means its list. -/
structure Valuation where
  of : Predicate → Truth
  group (cs : List Clause) :
    of (.group cs) = .ofClauses (cs.map fun c => (c.connective, of c.predicate))

namespace Valuation

def list (v : Valuation) (cs : List Clause) : Truth :=
  .ofClauses (cs.map fun c => (c.connective, v.of c.predicate))

/-- Merging keeps a list's meaning: neither grouping it nor dropping the
connective of a single clause changes its value. -/
theorem list_merged (v : Valuation) (cs : List Clause) : v.list (Clause.merged cs) = v.list cs := by
  match cs with
  | [] => rfl
  | [c] => rfl
  | c :: d :: rest =>
      simp only [Clause.merged]
      split
      · rfl
      · exact v.group (c :: d :: rest)

end Valuation

namespace Clause

def truth (w : World) (cs : List Clause) (env : Env) : Truth := .ofClauses (values w cs env)

variable (w : World) (env : Env)

theorem values_eq_map (cs : List Clause) :
    values w cs env = cs.map fun c => (c.connective, c.predicate.eval w env) := by
  induction cs with
  | nil => rfl
  | cons c rest ih =>
      obtain ⟨k, p⟩ := c
      rw [values, ih]
      rfl

theorem values_append (cs ds : List Clause) :
    values w (cs ++ ds) env = values w cs env ++ values w ds env := by
  simp only [values_eq_map, List.map_append]

theorem truth_allAnd {cs : List Clause} (h : AllAnd cs) :
    truth w cs env = .yes ↔ ∀ c ∈ cs, c.predicate.eval w env = .yes := by
  rw [truth, values_eq_map, Truth.ofClauses_allAnd]
  · simp only [List.forall_mem_map]
  · simp only [List.forall_mem_map]
    exact h

theorem truth_single (k : Connective) (p : Predicate) : truth w [⟨k, p⟩] env = p.eval w env := by
  rw [truth, values, values, Truth.ofClauses, Truth.ofRun]

theorem truth_append_allAnd {cs ds : List Clause} (hcs : AllAnd cs) (hds : AllAnd ds) :
    truth w (cs ++ ds) env = .yes ↔ truth w cs env = .yes ∧ truth w ds env = .yes := by
  rw [truth_allAnd w env ((allAnd_append cs ds).mpr ⟨hcs, hds⟩), truth_allAnd w env hcs,
    truth_allAnd w env hds, List.forall_mem_append]

end Clause

/-- What predicates mean in a world and an environment. -/
def World.valuation (w : World) (env : Env) : Valuation where
  of p := p.eval w env
  group cs := by rw [Predicate.eval, Clause.values_eq_map]

theorem Clause.truth_eq_list (w : World) (env : Env) (cs : List Clause) :
    truth w cs env = (w.valuation env).list cs := by
  rw [truth, values_eq_map]
  rfl

theorem Clause.truth_merged (w : World) (env : Env) (cs : List Clause) :
    truth w (merged cs) env = truth w cs env := by
  rw [truth_eq_list, truth_eq_list, Valuation.list_merged]

theorem Query.kept_eq (w : World) (q : Query) (env : Env) :
    q.kept w env = (w.rows q.source.table).filter fun row =>
      Clause.truth w q.clauses ((q.source.reference, row) :: env) = .yes := by
  obtain ⟨source, projection, clauses⟩ := q
  rw [kept]
  rfl

/-! ## One more clause -/

section Push
variable (w : World) (base : Query) (k : Connective) (env : Env)

theorem Query.kept_push (p : Predicate) :
    (base.push ⟨k, p⟩).kept w env = (w.rows base.source.table).filter fun row =>
      Truth.ofClauses (Clause.values w base.clauses ((base.source.reference, row) :: env) ++
        [(k, p.eval w ((base.source.reference, row) :: env))]) = .yes := by
  rw [Query.kept_eq]
  simp only [Query.push, Clause.truth, Clause.values_append]
  rfl

theorem Query.kept_push_mono {p p' : Predicate}
    (h : ∀ row, p.eval w ((base.source.reference, row) :: env) = .yes →
      p'.eval w ((base.source.reference, row) :: env) = .yes) :
    ((base.push ⟨k, p⟩).kept w env).Sublist ((base.push ⟨k, p'⟩).kept w env) := by
  rw [Query.kept_push, Query.kept_push]
  apply List.monotone_filter_right
  intro row hrow
  rw [decide_eq_true_eq] at hrow ⊢
  exact Truth.ofClauses_append_mono _ k (h row) hrow

/-- What a query keeps depends only on where the clause is true, whatever stands
before it and whatever joins it. -/
theorem Query.kept_push_congr {p p' : Predicate}
    (h : ∀ row ∈ w.rows base.source.table, p.eval w ((base.source.reference, row) :: env) = .yes ↔
      p'.eval w ((base.source.reference, row) :: env) = .yes) :
    (base.push ⟨k, p⟩).kept w env = (base.push ⟨k, p'⟩).kept w env := by
  rw [Query.kept_push, Query.kept_push]
  apply List.filter_congr
  intro row hrow
  apply decide_eq_decide.mpr
  exact ⟨Truth.ofClauses_append_mono _ k (h row hrow).mp,
    Truth.ofClauses_append_mono _ k (h row hrow).mpr⟩

end Push

/-! ## Reading columns -/

namespace Env

theorem read_column_head (source : Source) (row : Row) (env : Env) (name : String) :
    Env.read ((source.reference, row) :: env) (source.column name) = row name := by
  simp [read, Source.column, Column.qualified]

theorem read_column_tail {source outer : Source} (h : source.reference ≠ outer.reference)
    (row : Row) (env : Env) (name : String) :
    Env.read ((source.reference, row) :: env) (outer.column name) = env.read (outer.column name) := by
  simp [read, Source.column, Column.qualified, h]

end Env

/-! ## Membership -/

theorem World.among_eq_yes (w : World) (a : Literal) (values : List Literal) :
    w.among a values = .yes ↔ ∃ v ∈ values, w.same a v = .yes := by
  rw [among]
  split
  · rename_i h
    simpa using h
  · rename_i h
    have hnone : ¬ ∃ v ∈ values, w.same a v = .yes := by simpa using h
    simp only [hnone, iff_false]
    split
    · nofun
    · nofun

theorem World.among_eq_no (w : World) (a : Literal) (values : List Literal) :
    w.among a values = .no ↔ ∀ v ∈ values, w.same a v = .no := by
  rw [among]
  split
  · rename_i h
    obtain ⟨v, hv, hyes⟩ := List.any_eq_true.mp h
    refine ⟨nofun, fun hno => ?_⟩
    rw [hno v hv] at hyes
    cases hyes
  · split
    · rename_i h
      simpa using h
    · rename_i h
      refine ⟨nofun, fun hno => absurd ?_ h⟩
      simpa using hno

end Semijoin
