import Semijoin.Proofs.Meaning
import Semijoin.Proofs.Reference

/-! # Rows reached along a path

The relations of a path say which rows are related to a row, and so what a
condition asks of it: that a chain of related rows leads to one with enough
related rows of its own (`Place.reaches`).  `Graph.kept_attach_existence` says
that a condition compiled by existence keeps exactly the rows of which this
holds, provided no table is called like a hop's label. -/
set_option autoImplicit false
namespace Semijoin

/-- A row on the way along a path: the source it is read from, the index of the
hop to come, and the rows around it. -/
structure Place where
  source : Source
  hop : Nat
  row : Row
  around : Env

namespace Place

def start (source : Source) (row : Row) (around : Env) : Place := ⟨source, 0, row, around⟩

def env (p : Place) : Env := (p.source.reference, p.row) :: p.around

def next (p : Place) (st : Step) (other : Row) : Place :=
  ⟨st.source p.source p.hop, p.hop + 1, other, p.env⟩

/-- The rows a step relates to a row: those of the same key that meet the
relation's constraints. -/
def partners (w : World) (p : Place) (st : Step) : List Row :=
  (w.rows st.related.table).filter fun other =>
    w.same (p.row st.relation.parentKey) (other st.relation.relatedKey) = .yes ∧
      Clause.truth w st.relation.constraints (p.next st other).env = .yes

/-- Whether related rows lead along the steps to a place from which the last one
is as wanted. -/
def reaches (w : World) (last : Place → Step → Bool) : Place → Step → List Step → Bool
  | p, st, [] => last p st
  | p, st, later :: rest =>
    (p.partners w st).any fun other => reaches w last (p.next st other) later rest

end Place

def Condition.accepts (w : World) (c : Condition) (p : Place) : Bool :=
  match c.constraint with
  | none => true
  | some constraint => Clause.truth w (constraint (.ofSource p.source)).clauses p.env = .yes

/-- Whether a row has as many related rows as the condition asks for. -/
def Condition.enough (w : World) (c : Condition) (p : Place) (st : Step) : Bool :=
  c.threshold.Holds ((p.partners w st).filter fun other => c.accepts w (p.next st other)).length

/-! ## The query of one hop -/

theorem length_filter_pos {α : Type} (f : α → Bool) (l : List α) :
    decide (0 < (l.filter f).length) = l.any f := by
  rw [Bool.eq_iff_iff, decide_eq_true_eq, List.length_filter_pos_iff, List.any_eq_true]

theorem not_isEmpty_filter {α : Type} (f : α → Bool) (l : List α) :
    (!(l.filter f).isEmpty) = l.any f := by
  rw [← length_filter_pos, Bool.eq_iff_iff, Bool.not_eq_true', List.isEmpty_eq_false_iff,
    decide_eq_true_eq, List.length_pos_iff]

section Hop
variable (w : World) (p : Place) (st : Step)

theorem Place.eval_correlate
    (hapart : (st.source p.source p.hop).reference ≠ p.source.reference) (other : Row) :
    (Predicate.correlate (st.outerKey p.source) (st.innerKey p.source p.hop)).eval w
        (p.next st other).env =
      w.same (p.row st.relation.parentKey) (other st.relation.relatedKey) := by
  rw [Predicate.eval, Place.env, Place.next, Step.outerKey, Step.innerKey,
    Env.read_column_tail hapart, Env.read_column_head, Place.env, Env.read_column_head]

theorem Place.truth_held {asked : List Clause} (hasked : Clause.AllAnd asked)
    (hapart : (st.source p.source p.hop).reference ≠ p.source.reference) (other : Row) :
    Clause.truth w (st.held p.source p.hop asked) (p.next st other).env = .yes ↔
      w.same (p.row st.relation.parentKey) (other st.relation.relatedKey) = .yes ∧
        Clause.truth w asked (p.next st other).env = .yes ∧
        Clause.truth w st.relation.constraints (p.next st other).env = .yes := by
  have hrest : Clause.AllAnd (asked ++ Clause.merged st.relation.constraints) :=
    (Clause.allAnd_append _ _).mpr ⟨hasked, Clause.allAnd_merged _⟩
  rw [Clause.truth_allAnd w _ (st.allAnd_held p.source p.hop hasked), Step.held,
    List.forall_mem_cons, ← Clause.truth_allAnd w _ hrest,
    Clause.truth_append_allAnd w _ hasked (Clause.allAnd_merged _), Clause.truth_merged,
    Place.eval_correlate w p st hapart other]

theorem Place.kept_held {asked : List Clause} (hasked : Clause.AllAnd asked)
    (hapart : (st.source p.source p.hop).reference ≠ p.source.reference)
    (projection : Projection) :
    (Query.mk (st.source p.source p.hop) projection (st.held p.source p.hop asked)).kept w p.env =
      (p.partners w st).filter fun other =>
        Clause.truth w asked (p.next st other).env = .yes := by
  rw [Query.kept_eq, Place.partners, List.filter_filter]
  have htable : (st.source p.source p.hop).table = st.related.table := Source.table_nested _ _ _
  simp only [htable]
  apply List.filter_congr
  intro other _
  have hheld := Place.truth_held w p st hasked hapart other
  rw [← Bool.decide_and]
  apply decide_eq_decide.mpr
  exact hheld.trans ⟨fun h => ⟨h.2.1, h.1, h.2.2⟩, fun h => ⟨h.2.1, h.1, h.2.2⟩⟩

theorem Place.eval_plain_existence {asked : List Clause} (hasked : Clause.AllAnd asked)
    (hapart : (st.source p.source p.hop).reference ≠ p.source.reference) (negated : Bool) :
    (st.plain .existence p.source p.hop asked negated).eval w p.env =
      (Truth.ofBool ((p.partners w st).any fun other =>
        Clause.truth w asked (p.next st other).env = .yes)).negatedIf negated := by
  simp only [Step.plain]
  rw [Predicate.eval, Place.kept_held w p st hasked hapart .all, not_isEmpty_filter]

theorem Place.eval_counted {asked : List Clause} (hasked : Clause.AllAnd asked)
    (hapart : (st.source p.source p.hop).reference ≠ p.source.reference) (t : Threshold) :
    (st.counted t p.source p.hop asked).eval w p.env =
      .ofBool (t.Holds ((p.partners w st).filter fun other =>
        Clause.truth w asked (p.next st other).env = .yes).length) := by
  rw [Step.counted, Predicate.eval, Place.kept_held w p st hasked hapart .rowCount]

end Hop

/-! ## Existence of rows along a path -/

section Existence
variable (w : World) (c : Condition)

theorem Condition.truth_asked (p : Place) :
    (Clause.truth w (c.asked p.source) p.env = .yes) ↔ c.accepts w p = true := by
  rw [asked, accepts]
  cases c.constraint with
  | none => exact ⟨fun _ => rfl, fun _ => rfl⟩
  | some constraint =>
      simp only [Clause.truth_merged, decide_eq_true_eq]

theorem Condition.decide_truth_asked (p : Place) (st : Step) :
    (fun other => decide (Clause.truth w (c.asked (st.source p.source p.hop))
        (p.next st other).env = .yes)) = fun other => c.accepts w (p.next st other) := by
  funext other
  rw [Bool.eq_iff_iff, decide_eq_true_eq]
  exact c.truth_asked w (p.next st other)

theorem Threshold.holds_any (rows : Nat) : Threshold.any.Holds rows ↔ 0 < rows := Iff.rfl

theorem Threshold.holds_none (rows : Nat) : Threshold.none.Holds rows ↔ ¬ 0 < rows := by
  rw [Nat.not_lt, Nat.le_zero]
  exact Nat.lt_one_iff

theorem Place.eval_last_existence (p : Place) (st : Step)
    (hapart : (st.source p.source p.hop).reference ≠ p.source.reference) :
    (Step.nest .existence c p.source p.hop st []).predicate.eval w p.env =
      .ofBool (c.enough w p st) := by
  have hasked := c.allAnd_asked (st.source p.source p.hop)
  rw [Step.nest, Condition.enough]
  by_cases hany : c.threshold = .any
  · rw [hany, st.filter_any _ _ _ hasked, p.eval_plain_existence w st hasked hapart,
      c.decide_truth_asked w p st]
    simp only [Threshold.holds_any, length_filter_pos]
    rfl
  · by_cases hnone : c.threshold = .none
    · rw [hnone, st.filter_none _ _ _ hasked, p.eval_plain_existence w st hasked hapart,
        c.decide_truth_asked w p st]
      simp only [Threshold.holds_none, decide_not, length_filter_pos]
      exact Truth.not_ofBool _
    · rw [st.filter_counted _ _ _ _ hany hnone, p.eval_counted w st hasked hapart,
        c.decide_truth_asked w p st]

/-- A condition compiled by existence is true of a row from which related rows
lead to enough others, and false of every other row. -/
theorem Place.eval_nest_existence : ∀ (later : List Step) (p : Place) (st : Step),
    Step.Apart p.source p.hop (st :: later) →
      (Step.nest .existence c p.source p.hop st later).predicate.eval w p.env =
        .ofBool (p.reaches w (c.enough w) st later) := by
  intro later
  induction later with
  | nil =>
      intro p st hapart
      exact p.eval_last_existence w c st hapart.1
  | cons next rest ih =>
      intro p st hapart
      rw [Step.nest, st.filter_any _ _ _ (Clause.allAnd_singleton _),
        p.eval_plain_existence w st (Clause.allAnd_singleton _) hapart.1, reaches]
      have hinner : ∀ other, decide (Clause.truth w
          [⟨.and, (Step.nest .existence c (st.source p.source p.hop) (p.hop + 1) next rest).predicate⟩]
          (p.next st other).env = .yes) = (p.next st other).reaches w (c.enough w) next rest := by
        intro other
        -- the rows around the next hop's query are those of the place the step leads to
        have hnext := ih (p.next st other) next hapart.2
        rw [Clause.truth_single, Bool.eq_iff_iff, decide_eq_true_eq, ← Truth.ofBool_eq_yes, ← hnext]
        rfl
      simp only [hinner]
      rfl

theorem Place.eval_nest_existence_iff (p : Place) (st : Step) (later : List Step)
    (hapart : Step.Apart p.source p.hop (st :: later)) :
    (Step.nest .existence c p.source p.hop st later).predicate.eval w p.env = .yes ↔
      p.reaches w (c.enough w) st later = true := by
  rw [p.eval_nest_existence w c later st hapart, Truth.ofBool_eq_yes]

end Existence

/-- The rows a base query keeps with a condition on them attached. -/
def Graph.kept (w : World) (g : Graph) (base : Query) (model : String) (c : Condition)
    (mode : Mode) (env : Env) : List Row :=
  (g.attach base model base.source c mode).target.kept w env

/-- In a graph without tables called like labels, every path that compiles by
existence filters any base query, under a label of its own if it has one, by what
the path's relations say: a clause that is true of the rows from which related
rows lead to enough others at the path's end, and false of the rest. -/
theorem Graph.kept_attach_existence (w : World) {g : Graph} (hg : g.NoHopTables)
    {base : Query} (hbase : base.source.ClearOf g) {model : String} {c : Condition}
    (hok : (g.attach base model base.source c .existence).error? = none) (env : Env) :
    ∃ st later, g.walk model c.path.segments = .ok (st :: later) ∧
      g.kept w base model c .existence env =
        (w.rows base.source.table).filter fun row =>
          Truth.ofClauses (Clause.values w base.clauses ((base.source.reference, row) :: env) ++
            [(c.connective,
              .ofBool ((Place.start base.source row env).reaches w (c.enough w) st later))]) =
          .yes := by
  obtain ⟨st, later, hwalk⟩ := walk_of_attach hok
  refine ⟨st, later, hwalk, ?_⟩
  obtain ⟨-, htarget⟩ := attach_of_walk hwalk base base.source .existence
  have hapart := apart_of_walk hg hbase hwalk
  rw [kept, htarget, Query.kept_push]
  apply List.filter_congr
  intro row _
  have heval := (Place.start base.source row env).eval_nest_existence w c later st hapart
  rw [← heval]
  rfl

/-! ## Rows of the board

Post 1 has an approved comment with a pinned reply, post 2 an approved comment
without replies, post 3 a comment that is not approved.  Comments that reply to
none have a null for the key of what they reply to. -/

namespace Board

def row (fields : List (String × Literal)) : Row := fun name => (fields.lookup name).getD .null

def world : World where
  rows
    | "posts" => [
      row [("id", .int 1), ("title", .text "joins")],
      row [("id", .int 2), ("title", .text "keys")],
      row [("id", .int 3), ("title", .text "nulls")]]
    | "comments" => [
      row [("id", .int 10), ("post_id", .int 1), ("approved", .bool true), ("read_at", .int 5)],
      row [("id", .int 11), ("post_id", .int 2), ("approved", .bool true), ("read_at", .int 6)],
      row [("id", .int 12), ("post_id", .int 3), ("approved", .bool false), ("read_at", .int 7)],
      row [("id", .int 13), ("parent_id", .int 10), ("pinned", .bool true), ("read_at", .int 8)]]
    | _ => []
  holds
    | .eq, a, b => a = b
    | .ne, a, b => a ≠ b
    | _, _, _ => false
  equal a b := a = b
  spread _ _ := []

def onNulls : Query := (Query.ofTable "posts").conjoin (.compare (.bare "title") .eq (.text "nulls"))

theorem noHopTables : schema.graph.NoHopTables := by
  intro name m hm
  simp only [schema, Schema.graph, Schema.model?, Schema.insert, Schema.empty,
    Catalog.find?_insert] at hm
  split at hm
  · cases hm
    exact not_isHopLabel (by decide)
  · split at hm
    · cases hm
      exact not_isHopLabel (by decide)
    · cases hm

/-- Posts on nulls, or with replies that are pinned or unread. -/
theorem kept_existence_any :
    (schema.graph.attach onNulls "post" onNulls.source (asks .any) .existence).error? = none ∧
      (schema.graph.kept world onNulls "post" (asks .any) .existence []).map (· "id") =
        [.int 1, .int 3] := by
  have hok : (schema.graph.attach onNulls "post" onNulls.source (asks .any) .existence).error? =
      none := rfl
  obtain ⟨st, later, hwalk, hkept⟩ := Graph.kept_attach_existence world noHopTables
    (Source.ofTable_clearOf "posts" schema.graph) hok []
  cases walk_path.symm.trans hwalk
  refine ⟨hok, ?_⟩
  rw [hkept]
  decide

end Board
end Semijoin
