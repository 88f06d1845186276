import Semijoin.Proofs.Meaning
import Semijoin.Proofs.Reference

/-! # What a relation's constraints read

A relation's constraints are merged into the query of its hop as they are written.  A
column in them that names the related table is read from the hop's own row exactly if the
hop leads to another table (`Graph.constraint_reads_own_iff`): a hop back to the table
around it is labelled, and then the table's name is that of a row further out. -/
set_option autoImplicit false
namespace Semijoin

/-! ## The columns of a list of clauses -/

mutual

/-- The columns a predicate reads itself, not those of the queries it tests. -/
def Predicate.ownColumns : Predicate → List Column
  | .compare column _ _ | .isNull column | .isNotNull column | .membership column _ _ => [column]
  | .correlate outer inner => [outer, inner]
  | .existence .. | .count .. => []
  | .group clauses => Clause.ownColumns clauses

def Clause.ownColumns : List Clause → List Column
  | [] => []
  | ⟨_, p⟩ :: rest => p.ownColumns ++ Clause.ownColumns rest

end

/-! ## Which row a column is read from -/

/-- The place among the sources around a column, the innermost first, that it is read from:
the first one, or the first with the reference that it is qualified by. -/
def Column.readFrom (c : Column) (sources : List Source) : Option Nat :=
  sources.findIdx? fun source => c.table.all (· = source.reference)

/-- A row of each of some sources. -/
def Env.ofRows (rows : List (Source × Row)) : Env :=
  rows.map fun (source, row) => (source.reference, row)

theorem Column.readFrom_bare (name : String) (own : Source) (enclosing : List Source) :
    (bare name).readFrom (own :: enclosing) = some 0 := rfl

/-- What is read is the value in the row at that place. -/
theorem Env.read_ofRows (rows : List (Source × Row)) (c : Column) :
    (ofRows rows).read c =
      ((c.readFrom (rows.map Prod.fst)).bind (rows[·]?)).elim .null fun (_, row) => row c.name := by
  obtain ⟨table, name⟩ := c
  cases table with
  | none =>
      cases rows with
      | nil => rfl
      | cons first rest => rfl
  | some table =>
      induction rows with
      | nil => rfl
      | cons first rest ih =>
          obtain ⟨source, row⟩ := first
          rw [Column.readFrom, List.map_cons, List.findIdx?_cons, ← Column.readFrom]
          by_cases hsource : source.reference = table
          · simp [read, ofRows, hsource]
          · have hskip : (ofRows ((source, row) :: rest)).read ⟨some table, name⟩ =
                (ofRows rest).read ⟨some table, name⟩ := by
              simp [read, ofRows, hsource]
            have hother : (some table).all (· = source.reference) = false := by
              simp [Ne.symm hsource]
            rw [hskip, ih, hother, if_neg Bool.false_ne_true, Option.bind_map]
            rfl

/-- In the query of a hop, what names the hop's table is read from the hop's row, unless
the row around it is of that table too. -/
theorem Column.readFrom_nested {column : Column} {table : String} (h : column.table = some table)
    (around : Source) (i : Nat) (enclosing : List Source) :
    column.readFrom (around.nested table i :: enclosing) =
      if table = around.table then (column.readFrom enclosing).map (· + 1) else some 0 := by
  rw [readFrom, List.findIdx?_cons, ← readFrom, h, Option.all_some, Source.reference_nested]
  by_cases htable : table = around.table
  · rw [if_pos htable, if_pos htable]
    have hne := (hopLabel_ne_self table i).symm
    simp [hne]
  · rw [if_neg htable, if_neg htable]
    simp

/-! ## The constraints of a hop -/

/-- The query reads the hop's rows and ends with the constraints of its relation, of which
a query that is cut loose keeps those that do not correlate. -/
structure Step.Closes (st : Step) (outer : Source) (i : Nat) (q : Query) : Prop where
  source : q.source = outer.nested st.related.table i
  constraints : ∃ before, q.clauses = before ++ Clause.merged st.relation.constraints ∨
    q.clauses = before ++ Clause.loose (Clause.merged st.relation.constraints)

namespace Step

variable (st : Step) (outer : Source) (i : Nat) (asked : List Clause)

theorem closes_held (projection : Projection) :
    st.Closes outer i ⟨st.source outer i, projection, st.held outer i asked⟩ := by
  refine ⟨rfl, ⟨.and, .correlate (st.outerKey outer) (st.innerKey outer i)⟩ :: asked, .inl ?_⟩
  rw [List.cons_append]
  rfl

theorem closes_loose (projection : Projection) :
    st.Closes outer i ⟨st.source outer i, projection, Clause.loose (st.held outer i asked)⟩ := by
  refine ⟨rfl, Clause.loose asked, .inr ?_⟩
  rw [held, Clause.loose, List.filter_cons_of_neg (by simp [Predicate.isCorrelation]),
    List.filter_append]
  rfl

theorem closes_plain (mode : Mode) (negated : Bool) :
    ∃ q, (st.plain mode outer i asked negated).subquery? = some q ∧ st.Closes outer i q := by
  cases mode with
  | existence => exact ⟨_, rfl, st.closes_held outer i asked .all⟩
  | membership => exact ⟨_, rfl, st.closes_loose outer i asked _⟩

end Step

theorem HopShape.closes {mode : Mode} {c : Condition} {st : Step} {i : Nat} {outer : Source}
    {next? : Option Predicate} {p : Predicate} (h : HopShape mode c st i outer next? p) :
    ∃ q, p.subquery? = some q ∧ st.Closes outer i q := by
  cases hnext : next? with
  | some next =>
      rw [h.inner next hnext]
      exact st.closes_plain outer i _ mode false
  | none =>
      by_cases hany : c.threshold = .any
      · rw [h.lastAny hnext hany]
        exact st.closes_plain outer i _ mode false
      · by_cases hnone : c.threshold = .none
        · rw [h.lastNone hnext hnone]
          exact st.closes_plain outer i _ mode true
        · rw [h.lastCount hnext hany hnone]
          exact ⟨_, rfl, st.closes_held outer i _ .rowCount⟩

/-- Where a column that names the related table is read from in the query of a hop. -/
structure Step.ReadsRelated (st : Step) (around : Source) (q : Query) (enclosing : List Source)
    (column : Column) : Prop where
  own_iff : column.readFrom (q.source :: enclosing) = some 0 ↔ st.related.table ≠ around.table
  unqualified : st.related.table ≠ around.table → ∀ rows : List (Source × Row),
    rows.map Prod.fst = q.source :: enclosing →
      (Env.ofRows rows).read column = (Env.ofRows rows).read (.bare column.name)
  further : st.related.table = around.table →
    column.readFrom (q.source :: enclosing) = (column.readFrom enclosing).map (· + 1)

theorem Step.Closes.readsRelated {st : Step} {around : Source} {i : Nat} {q : Query}
    (h : st.Closes around i q) (enclosing : List Source) {column : Column}
    (htable : column.table = some st.related.table) :
    st.ReadsRelated around q enclosing column := by
  have hread := Column.readFrom_nested htable around i enclosing
  rw [← h.source] at hread
  by_cases hback : st.related.table = around.table
  · rw [if_pos hback] at hread
    refine { own_iff := ?_, unqualified := fun hne => absurd hback hne, further := fun _ => hread }
    rw [hread, Option.map_eq_some_iff]
    exact ⟨fun ⟨place, _, hzero⟩ => absurd hzero (Nat.succ_ne_zero place),
      fun hne => absurd hback hne⟩
  · rw [if_neg hback] at hread
    refine { own_iff := ⟨fun _ => hback, fun _ => hread⟩, unqualified := fun _ rows hrows => ?_,
             further := fun h => absurd h hback }
    rw [Env.read_ofRows, Env.read_ofRows, hrows, hread, Column.readFrom_bare]
    rfl

/-- The sources around the query that level `i` of a chain tests, the innermost first. -/
def Predicate.enclosing (p : Predicate) (n : Nat) (outer : Source) (i : Nat) : List Source :=
  (((p.levels n outer).take (i + 1)).map Prod.fst).reverse

/-- In the query of each hop, a column of the relation's constraints that names the related
table is read from the hop's own row, as if it were not qualified, exactly if the hop leads
to another table than the one it is nested in.  If it leads back, the column is read as it
would be outside of the hop. -/
theorem Graph.constraint_reads_own_iff {g : Graph} {model : String} {c : Condition}
    {steps : List Step} (h : g.walk model c.path.segments = .ok steps) (base : Query)
    (outer : Source) (mode : Mode) :
    ∃ p, (g.attach base model outer c mode).target = base.push ⟨c.connective, p⟩ ∧
      (p.levels steps.length outer).length = steps.length ∧
      ∀ i (hi : i < steps.length), ∃ around hop q,
        (p.levels steps.length outer)[i]? = some (around, hop) ∧ hop.subquery? = some q ∧
        steps[i].Closes around i q ∧
        ∀ column ∈ Clause.ownColumns steps[i].relation.constraints,
          column.table = some steps[i].related.table →
          steps[i].ReadsRelated around q (p.enclosing steps.length outer i) column := by
  cases steps with
  | nil => cases length_of_walk h
  | cons st later =>
      obtain ⟨-, htarget⟩ := attach_of_walk h base outer mode
      obtain ⟨hlevels, hshape⟩ := Step.levels_shape mode c later outer 0 st
      refine ⟨_, htarget, hlevels, fun i hi => ?_⟩
      obtain ⟨around, hop, hhop, hi'⟩ := hshape i hi
      rw [Nat.zero_add] at hi'
      obtain ⟨q, hq, hcloses⟩ := hi'.closes
      refine ⟨around, hop, q, hhop, hq, hcloses, fun column _ htable => ?_⟩
      exact hcloses.readsRelated _ htable

/-! ## A moderated board

The constraints of a board's comments name the table that they are about. -/

namespace Board

def approvedColumn : Column := .qualified "comments" "approved"

def moderated (r : Relation) : Relation :=
  r.constrainedBy ⟨.and, .compare approvedColumn .eq (.bool true)⟩

def moderatedPost : Model :=
  (Model.ofTable "post" "posts").declare
    (moderated (.hasMany "comments" "comment" "post_id" "id"))

def moderatedComment : Model := (Model.ofTable "comment" "comments").declare (moderated replies)

def moderatedSchema : Schema := (Schema.empty.insert moderatedPost).insert moderatedComment

def moderatedSteps : List Step :=
  [⟨moderated (.hasMany "comments" "comment" "post_id" "id"), moderatedComment⟩,
    ⟨moderated replies, moderatedComment⟩]

theorem walk_moderated : moderatedSchema.graph.walk "post" path.segments = .ok moderatedSteps := rfl

/-- The comments of a post are constrained by what they are, their replies by what the
comments are that they reply to. -/
theorem constraint_reads_own_replies :
    moderatedSchema.graph.walk "post" (asks .none).path.segments = .ok moderatedSteps ∧
      ∃ p, (moderatedSchema.graph.attach (Query.ofTable "posts") "post" (.ofTable "posts")
          (asks .none) .membership).target = (Query.ofTable "posts").push ⟨.or, p⟩ ∧
        ∃ comments replies,
          (p.levels 2 (.ofTable "posts"))[0]?.bind (·.2.subquery?) = some comments ∧
          approvedColumn.readFrom (comments.source :: p.enclosing 2 (.ofTable "posts") 0) = some 0 ∧
          (p.levels 2 (.ofTable "posts"))[1]?.bind (·.2.subquery?) = some replies ∧
          approvedColumn.readFrom (replies.source :: p.enclosing 2 (.ofTable "posts") 1) =
            some 1 := by
  obtain ⟨p, htarget, -, hhops⟩ := Graph.constraint_reads_own_iff (c := asks .none) walk_moderated
    (Query.ofTable "posts") (.ofTable "posts") .membership
  have hp := (Graph.attach_of_walk (c := asks .none) walk_moderated (Query.ofTable "posts")
    (.ofTable "posts") .membership).2
  rw [htarget] at hp
  cases hp
  obtain ⟨around₀, hop₀, q₀, hhop₀, hq₀, -, hreads₀⟩ := hhops 0 (by decide)
  obtain ⟨around₁, hop₁, q₁, hhop₁, hq₁, -, hreads₁⟩ := hhops 1 (by decide)
  cases hhop₀
  cases hhop₁
  refine ⟨walk_moderated, _, htarget, q₀, q₁, hq₀, ?_, hq₁, ?_⟩
  · exact (hreads₀ approvedColumn (List.mem_singleton_self _) rfl).own_iff.mpr (by decide)
  · -- the replies' table is that of the comments around them, which read it as their own
    have hfurther := (hreads₁ approvedColumn (List.mem_singleton_self _) rfl).further rfl
    exact hfurther.trans rfl

end Board

/-! ## Categories that are active

Each category has sub-categories, constrained by `categories.active`. -/

namespace Shelf

def active : Column := .qualified "categories" "active"

def activeChildren : Relation := children.constrainedBy ⟨.and, .compare active .eq (.bool true)⟩

def nestedCategory : Model := (Model.ofTable "category" "categories").declare activeChildren

def nestedSchema : Schema := Schema.empty.insert nestedCategory

def nestedCondition : Condition where
  path := ⟨"children", [], by decide⟩

theorem walk_nested : nestedSchema.graph.walk "category" nestedCondition.path.segments =
    .ok [⟨activeChildren, nestedCategory⟩] := rfl

/-- The constraint of the sub-categories is read from the category that they are in. -/
theorem active_not_own :
    ¬ ∀ (s : Schema) (model : String) (c : Condition) (steps : List Step) (base : Query)
        (outer : Source) (mode : Mode) (p : Predicate),
      s.graph.walk model c.path.segments = .ok steps →
      (s.graph.attach base model outer c mode).target = base.push ⟨c.connective, p⟩ →
      ∀ i (hi : i < steps.length) around hop q,
        (p.levels steps.length outer)[i]? = some (around, hop) → hop.subquery? = some q →
        ∀ column ∈ Clause.ownColumns steps[i].relation.constraints,
          column.table = some steps[i].related.table →
          column.readFrom (q.source :: p.enclosing steps.length outer i) = some 0 := by
  intro hall
  have hactive := hall nestedSchema "category" nestedCondition _ (Query.ofTable "categories")
    (.ofTable "categories") .existence _ walk_nested
    (Graph.attach_of_walk walk_nested _ _ _).2 0 (by decide) _ _ _ rfl rfl active
    (List.mem_singleton_self active) rfl
  revert hactive
  decide

end Shelf
end Semijoin
