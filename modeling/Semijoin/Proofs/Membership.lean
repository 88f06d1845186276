import Semijoin.Proofs.Reach

/-! # Membership against existence

A condition compiled by membership asks the same as by existence, except that
"no row" turns into "not a member", which is true of fewer rows once a key is
null.  `Graph.kept_attach_membership` says so for whole base queries: what
membership keeps existence keeps, and both keep the same unless "no row" is asked
over keys that are null. -/
set_option autoImplicit false
namespace Semijoin

namespace Place

/-- The rows of a step's table that meet what the condition and the relation ask,
whatever their key. -/
def holders (w : World) (c : Condition) (p : Place) (st : Step) : List Row :=
  (w.rows st.related.table).filter fun other =>
    c.accepts w (p.next st other) ∧
      Clause.truth w st.relation.constraints (p.next st other).env = .yes

/-- Each key that a "no row" over this hop compares is known: there is none to
compare, or neither the row's own nor one of the holders' is null. -/
def keysKnown (w : World) (c : Condition) (p : Place) (st : Step) : Bool :=
  (p.holders w c st).isEmpty ||
    (p.row st.relation.parentKey ≠ .null &&
      (p.holders w c st).all fun other => other st.relation.relatedKey ≠ .null)

/-- Whether every place from which the last step is taken is as wanted. -/
def throughout (w : World) (every : Place → Step → Bool) : Place → Step → List Step → Bool
  | p, st, [] => every p st
  | p, st, later :: rest =>
    (p.partners w st).all fun other => throughout w every (p.next st other) later rest

end Place

/-- No key that the last step joins by is null, in the table it is taken from or
in the one it leads to. -/
def Step.KeysNotNull (w : World) : String → Step → List Step → Prop
  | table, st, [] =>
    (∀ row ∈ w.rows table, row st.relation.parentKey ≠ .null) ∧
      ∀ other ∈ w.rows st.related.table, other st.relation.relatedKey ≠ .null
  | _, st, next :: rest => KeysNotNull w st.related.table next rest

/-- What the last hop asks when it is compiled by membership: instead of "no
related row", that no holder's key may be the row's. -/
def Condition.enoughAmong (w : World) (c : Condition) (p : Place) (st : Step) : Bool :=
  if c.threshold = .none then
    (p.holders w c st).all fun other =>
      w.same (p.row st.relation.parentKey) (other st.relation.relatedKey) = .no
  else c.enough w p st

/-! ## The query of one hop -/

section Hop
variable (w : World) (p : Place) (st : Step)

theorem Place.truth_loose_held {asked : List Clause} (hasked : Clause.AllAnd asked)
    (hloose : Clause.Uncorrelated asked) (hconstraints : Clause.Uncorrelated st.relation.constraints)
    (other : Row) :
    Clause.truth w (Clause.loose (st.held p.source p.hop asked)) (p.next st other).env = .yes ↔
      Clause.truth w asked (p.next st other).env = .yes ∧
        Clause.truth w st.relation.constraints (p.next st other).env = .yes := by
  have hrest : Clause.Uncorrelated (asked ++ Clause.merged st.relation.constraints) :=
    List.forall_mem_append.mpr ⟨hloose, Clause.uncorrelated_merged hconstraints⟩
  have hheld : Clause.loose (st.held p.source p.hop asked) =
      asked ++ Clause.merged st.relation.constraints := by
    rw [Step.held, Clause.loose, List.filter_cons_of_neg (by simp [Predicate.isCorrelation])]
    exact Clause.loose_eq_self hrest
  rw [hheld, Clause.truth_append_allAnd w _ hasked (Clause.allAnd_merged _), Clause.truth_merged]

theorem Place.kept_loose_held {asked : List Clause} (hasked : Clause.AllAnd asked)
    (hloose : Clause.Uncorrelated asked) (hconstraints : Clause.Uncorrelated st.relation.constraints)
    (projection : Projection) :
    (Query.mk (st.source p.source p.hop) projection
        (Clause.loose (st.held p.source p.hop asked))).kept w p.env =
      (w.rows st.related.table).filter fun other =>
        Clause.truth w asked (p.next st other).env = .yes ∧
          Clause.truth w st.relation.constraints (p.next st other).env = .yes := by
  rw [Query.kept_eq]
  have htable : (st.source p.source p.hop).table = st.related.table := Source.table_nested _ _ _
  simp only [htable]
  apply List.filter_congr
  intro other _
  exact decide_eq_decide.mpr (p.truth_loose_held w st hasked hloose hconstraints other)

theorem Place.eval_plain_membership {asked : List Clause} (hasked : Clause.AllAnd asked)
    (hloose : Clause.Uncorrelated asked) (hconstraints : Clause.Uncorrelated st.relation.constraints)
    (negated : Bool) :
    (st.plain .membership p.source p.hop asked negated).eval w p.env =
      (w.among (p.row st.relation.parentKey)
        (((w.rows st.related.table).filter fun other =>
          Clause.truth w asked (p.next st other).env = .yes ∧
            Clause.truth w st.relation.constraints (p.next st other).env = .yes).map
          fun other => other st.relation.relatedKey)).negatedIf negated := by
  have hkey : p.env.read (st.outerKey p.source) = p.row st.relation.parentKey :=
    Env.read_column_head p.source p.row p.around _
  simp only [Step.plain]
  rw [Predicate.eval, hkey, p.kept_loose_held w st hasked hloose hconstraints, Query.project]
  simp only [Step.innerKey, Env.read_column_head]

theorem Place.eval_plain_membership_iff {asked : List Clause} (hasked : Clause.AllAnd asked)
    (hloose : Clause.Uncorrelated asked)
    (hconstraints : Clause.Uncorrelated st.relation.constraints) :
    (st.plain .membership p.source p.hop asked false).eval w p.env = .yes ↔
      (p.partners w st).any (fun other =>
        Clause.truth w asked (p.next st other).env = .yes) = true := by
  rw [p.eval_plain_membership w st hasked hloose hconstraints, Truth.negatedIf, if_neg nofun,
    World.among_eq_yes, List.any_eq_true]
  constructor
  · rintro ⟨v, hv, hsame⟩
    obtain ⟨other, hother, rfl⟩ := List.mem_map.mp hv
    obtain ⟨hrow, hholds⟩ := List.mem_filter.mp hother
    have hholds' := of_decide_eq_true hholds
    exact ⟨other, List.mem_filter.mpr ⟨hrow, decide_eq_true ⟨hsame, hholds'.2⟩⟩,
      decide_eq_true hholds'.1⟩
  · rintro ⟨other, hother, hasks⟩
    obtain ⟨hrow, hpartner⟩ := List.mem_filter.mp hother
    have hpartner' := of_decide_eq_true hpartner
    refine ⟨other st.relation.relatedKey, List.mem_map.mpr ⟨other, ?_, rfl⟩, hpartner'.1⟩
    exact List.mem_filter.mpr ⟨hrow, decide_eq_true ⟨of_decide_eq_true hasks, hpartner'.2⟩⟩

end Hop

/-! ## The last hop -/

section Last
variable (w : World) (c : Condition) (p : Place) (st : Step)

theorem Condition.uncorrelated_asked {c : Condition}
    (h : ∀ f, c.constraint = some f → ∀ source, Clause.Uncorrelated (f (.ofSource source)).clauses)
    (source : Source) : Clause.Uncorrelated (c.asked source) := by
  rw [asked]
  cases hf : c.constraint with
  | none => exact fun _ hmem => absurd hmem List.not_mem_nil
  | some f => exact Clause.uncorrelated_merged (h f hf source)

theorem World.same_eq_no {w : World} {a b : Literal} (ha : a ≠ .null) (hb : b ≠ .null) :
    w.same a b = .no ↔ w.same a b ≠ .yes := by
  have hknown : w.same a b = .ofBool (w.equal a b) := if_neg (not_or.mpr ⟨ha, hb⟩)
  rw [hknown]
  cases w.equal a b with
  | true => exact ⟨nofun, fun h => absurd rfl h⟩
  | false => exact ⟨nofun, fun _ => rfl⟩

theorem Condition.enough_of_none (h : c.threshold = .none) :
    c.enough w p st = true ↔ ∀ other ∈ p.holders w c st,
      w.same (p.row st.relation.parentKey) (other st.relation.relatedKey) ≠ .yes := by
  rw [enough, h]
  simp only [Threshold.holds_none, decide_not, length_filter_pos, Bool.not_eq_true',
    List.any_eq_false]
  constructor
  · intro hnone other hother hsame
    obtain ⟨hrow, hholds⟩ := List.mem_filter.mp hother
    have hholds' := of_decide_eq_true hholds
    exact hnone other (List.mem_filter.mpr ⟨hrow, decide_eq_true ⟨hsame, hholds'.2⟩⟩) hholds'.1
  · intro hnone other hother haccepts
    obtain ⟨hrow, hpartner⟩ := List.mem_filter.mp hother
    have hpartner' := of_decide_eq_true hpartner
    exact hnone other (List.mem_filter.mpr ⟨hrow, decide_eq_true ⟨haccepts, hpartner'.2⟩⟩)
      hpartner'.1

theorem Condition.enoughAmong_eq (h : c.threshold ≠ .none) : c.enoughAmong w = c.enough w := by
  funext p st
  rw [enoughAmong, if_neg h]

theorem Condition.enoughAmong_of_none (h : c.threshold = .none) :
    c.enoughAmong w p st = true ↔ ∀ other ∈ p.holders w c st,
      w.same (p.row st.relation.parentKey) (other st.relation.relatedKey) = .no := by
  rw [enoughAmong, if_pos h]
  simp only [List.all_eq_true, decide_eq_true_eq]

theorem Condition.enough_of_enoughAmong (h : c.enoughAmong w p st = true) :
    c.enough w p st = true := by
  by_cases hnone : c.threshold = .none
  · rw [c.enoughAmong_of_none w p st hnone] at h
    rw [c.enough_of_none w p st hnone]
    intro other hother hsame
    rw [h other hother] at hsame
    cases hsame
  · rw [enoughAmong, if_neg hnone] at h
    exact h

theorem Condition.enoughAmong_of_enough (hknown : p.keysKnown w c st = true)
    (h : c.enough w p st = true) : c.enoughAmong w p st = true := by
  by_cases hnone : c.threshold = .none
  · rw [c.enough_of_none w p st hnone] at h
    rw [c.enoughAmong_of_none w p st hnone]
    intro other hother
    rw [Place.keysKnown, Bool.or_eq_true, Bool.and_eq_true, List.all_eq_true] at hknown
    -- with nothing to compare with even a null row key is no member
    rcases hknown with hempty | ⟨hrow, hothers⟩
    · rw [List.isEmpty_iff.mp hempty] at hother
      cases hother
    · have hkey := of_decide_eq_true hrow
      have hother' := of_decide_eq_true (hothers other hother)
      exact (World.same_eq_no hkey hother').mpr (h other hother)
  · rw [enoughAmong, if_neg hnone]
    exact h

theorem Place.eval_last_membership
    (hapart : (st.source p.source p.hop).reference ≠ p.source.reference)
    (hloose : Clause.Uncorrelated (c.asked (st.source p.source p.hop)))
    (hconstraints : Clause.Uncorrelated st.relation.constraints) :
    (Step.nest .membership c p.source p.hop st []).predicate.eval w p.env = .yes ↔
      c.enoughAmong w p st = true := by
  have hasked := c.allAnd_asked (st.source p.source p.hop)
  rw [Step.nest]
  -- only "no row" is compiled to a test that a null key leaves unknown
  by_cases hnone : c.threshold = .none
  · have hholders : (fun other => decide
        (Clause.truth w (c.asked (st.source p.source p.hop)) (p.next st other).env = .yes ∧
          Clause.truth w st.relation.constraints (p.next st other).env = .yes)) =
        fun other => decide (c.accepts w (p.next st other) = true ∧
          Clause.truth w st.relation.constraints (p.next st other).env = .yes) := by
      funext other
      exact decide_eq_decide.mpr (and_congr (c.truth_asked w (p.next st other)) Iff.rfl)
    rw [c.enoughAmong_of_none w p st hnone, hnone, st.filter_none _ _ _ hasked,
      p.eval_plain_membership w st hasked hloose hconstraints, Truth.negatedIf, if_pos rfl,
      Truth.not_eq_yes, World.among_eq_no, List.forall_mem_map, hholders]
    rfl
  · rw [Condition.enoughAmong, if_neg hnone, Condition.enough]
    by_cases hany : c.threshold = .any
    · rw [hany, st.filter_any _ _ _ hasked,
        p.eval_plain_membership_iff w st hasked hloose hconstraints, c.decide_truth_asked w p st]
      simp only [Threshold.holds_any, length_filter_pos]
    · rw [st.filter_counted _ _ _ _ hany hnone, p.eval_counted w st hasked hapart,
        c.decide_truth_asked w p st, Truth.ofBool_eq_yes]

end Last

/-! ## Rows along a path -/

section Path
variable (w : World)

/-- A condition compiled by membership is true of the rows from which related
rows lead to one of which the keys say enough. -/
theorem Place.eval_nest_membership {c : Condition}
    (hasks : ∀ source, Clause.Uncorrelated (c.asked source)) :
    ∀ (later : List Step) (p : Place) (st : Step), Step.Apart p.source p.hop (st :: later) →
      (∀ step ∈ st :: later, Clause.Uncorrelated step.relation.constraints) →
      ((Step.nest .membership c p.source p.hop st later).predicate.eval w p.env = .yes ↔
        p.reaches w (c.enoughAmong w) st later = true) := by
  intro later
  induction later with
  | nil =>
      intro p st hapart hconstraints
      exact p.eval_last_membership w c st hapart.1 (hasks _) (hconstraints st (List.mem_cons_self ..))
  | cons next rest ih =>
      intro p st hapart hconstraints
      obtain ⟨hst, hrest⟩ := List.forall_mem_cons.mp hconstraints
      have hasked := Clause.allAnd_singleton
        (Step.nest .membership c (st.source p.source p.hop) (p.hop + 1) next rest).predicate
      -- what the hop asks for is the next hop's test, so cutting it loose keeps it
      have hloose : Clause.Uncorrelated
          [⟨.and, (Step.nest .membership c (st.source p.source p.hop) (p.hop + 1) next
            rest).predicate⟩] := by
        intro d hd
        rw [List.mem_singleton.mp hd]
        exact Filter.isCorrelation_predicate _
      have hinner : (fun other => decide (Clause.truth w
          [⟨.and, (Step.nest .membership c (st.source p.source p.hop) (p.hop + 1) next
            rest).predicate⟩] (p.next st other).env = .yes)) =
          fun other => (p.next st other).reaches w (c.enoughAmong w) next rest := by
        funext other
        rw [Clause.truth_single, Bool.eq_iff_iff, decide_eq_true_eq]
        exact ih (p.next st other) next hapart.2 hrest
      rw [Step.nest, st.filter_any _ _ _ hasked,
        p.eval_plain_membership_iff w st hasked hloose hst, hinner, reaches]

theorem Place.throughout_of_forall (every : Place → Step → Bool)
    (h : ∀ p st, every p st = true) :
    ∀ (later : List Step) (p : Place) (st : Step), p.throughout w every st later = true := by
  intro later
  induction later with
  | nil =>
      intro p st
      exact h p st
  | cons next rest ih =>
      intro p st
      rw [throughout, List.all_eq_true]
      intro other _
      exact ih (p.next st other) next

theorem Place.reaches_of_throughout {a b every : Place → Step → Bool}
    (h : ∀ p st, every p st = true → a p st = true → b p st = true) :
    ∀ (later : List Step) (p : Place) (st : Step), p.throughout w every st later = true →
      p.reaches w a st later = true → p.reaches w b st later = true := by
  intro later
  induction later with
  | nil =>
      intro p st hevery ha
      exact h p st hevery ha
  | cons next rest ih =>
      intro p st hevery ha
      rw [throughout, List.all_eq_true] at hevery
      rw [reaches, List.any_eq_true] at ha ⊢
      obtain ⟨other, hother, ha'⟩ := ha
      exact ⟨other, hother, ih (p.next st other) next (hevery other hother) ha'⟩

theorem Place.reaches_enough (c : Condition) (later : List Step) (p : Place) (st : Step)
    (h : p.reaches w (c.enoughAmong w) st later = true) : p.reaches w (c.enough w) st later = true :=
  reaches_of_throughout w (fun p st _ => c.enough_of_enoughAmong w p st) later p st
    (throughout_of_forall w (fun _ _ => true) (fun _ _ => rfl) later p st) h

theorem Place.reaches_enoughAmong (c : Condition) (later : List Step) (p : Place) (st : Step)
    (hknown : p.throughout w (keysKnown w c) st later = true)
    (h : p.reaches w (c.enough w) st later = true) :
    p.reaches w (c.enoughAmong w) st later = true :=
  reaches_of_throughout w (fun p st => c.enoughAmong_of_enough w p st) later p st hknown h

theorem Place.keysKnown_of_notNull (c : Condition) {p : Place} {st : Step}
    (hrow : p.row st.relation.parentKey ≠ .null)
    (hothers : ∀ other ∈ w.rows st.related.table, other st.relation.relatedKey ≠ .null) :
    p.keysKnown w c st = true := by
  rw [keysKnown, Bool.or_eq_true, Bool.and_eq_true, List.all_eq_true]
  refine Or.inr ⟨decide_eq_true hrow, fun other hother => decide_eq_true ?_⟩
  exact hothers other (List.mem_filter.mp hother).1

/-- If no key of the last step is null in its two tables, the keys are known
wherever the path leads. -/
theorem Place.throughout_keysKnown (c : Condition) : ∀ (later : List Step) (table : String)
    (p : Place) (st : Step), p.row ∈ w.rows table → Step.KeysNotNull w table st later →
      p.throughout w (keysKnown w c) st later = true := by
  intro later
  induction later with
  | nil =>
      intro table p st hrow hkeys
      exact keysKnown_of_notNull w c (hkeys.1 p.row hrow) hkeys.2
  | cons next rest ih =>
      intro table p st hrow hkeys
      rw [throughout, List.all_eq_true]
      intro other hother
      exact ih st.related.table (p.next st other) next (List.mem_filter.mp hother).1 hkeys

end Path

/-- In a graph without tables called like labels, every path that compiles by
existence compiles by membership, and then a base query keeps no row more.  It
keeps the same rows unless "no row" is asked: then too, if the keys of the last
step are known, as when neither of their columns holds a null. -/
theorem Graph.kept_attach_membership (w : World) {g : Graph} (hg : g.NoHopTables)
    {base : Query} (hbase : base.source.ClearOf g) {model : String} {c : Condition}
    (hok : (g.attach base model base.source c .existence).error? = none)
    (hcallback : ∀ f, c.constraint = some f →
      ∀ source, Clause.Uncorrelated (f (.ofSource source)).clauses)
    (hconstraints : ∀ steps, g.walk model c.path.segments = .ok steps →
      ∀ st ∈ steps, Clause.Uncorrelated st.relation.constraints) (env : Env) :
    ∃ st later, g.walk model c.path.segments = .ok (st :: later) ∧
      (g.attach base model base.source c .membership).error? = none ∧
      (g.kept w base model c .membership env).Sublist (g.kept w base model c .existence env) ∧
      (c.threshold ≠ ⟨.fewerThan, 1⟩ →
        g.kept w base model c .membership env = g.kept w base model c .existence env) ∧
      ((∀ row ∈ w.rows base.source.table,
          (Place.start base.source row env).throughout w (Place.keysKnown w c) st later = true) →
        g.kept w base model c .membership env = g.kept w base model c .existence env) ∧
      (Step.KeysNotNull w base.source.table st later →
        g.kept w base model c .membership env = g.kept w base model c .existence env) := by
  obtain ⟨st, later, hwalk⟩ := walk_of_attach hok
  obtain ⟨herror, hin⟩ := attach_of_walk hwalk base base.source .membership
  obtain ⟨-, hex⟩ := attach_of_walk hwalk base base.source .existence
  have hapart := apart_of_walk hg hbase hwalk
  -- both clauses are true where a walk over the rows says so, and that is all that counts
  have hmember := fun row => Place.eval_nest_membership w (Condition.uncorrelated_asked hcallback)
    later (Place.start base.source row env) st hapart (hconstraints _ hwalk)
  have hexist := fun row =>
    (Place.start base.source row env).eval_nest_existence_iff w c st later hapart
  have hknown : (∀ row ∈ w.rows base.source.table,
      (Place.start base.source row env).throughout w (Place.keysKnown w c) st later = true) →
      g.kept w base model c .membership env = g.kept w base model c .existence env := by
    intro hkeys
    rw [kept, kept, hin, hex]
    apply Query.kept_push_congr
    intro row hrow
    refine (hmember row).trans (Iff.trans ⟨?_, ?_⟩ (hexist row).symm)
    · exact Place.reaches_enough w c later _ st
    · exact Place.reaches_enoughAmong w c later _ st (hkeys row hrow)
  refine ⟨st, later, hwalk, herror, ?_, ?_, hknown, ?_⟩
  · rw [kept, kept, hin, hex]
    apply Query.kept_push_mono
    intro row hyes
    exact (hexist row).mpr (Place.reaches_enough w c later _ st ((hmember row).mp hyes))
  · intro hnone
    rw [kept, kept, hin, hex]
    apply Query.kept_push_congr
    intro row _
    refine (hmember row).trans (Iff.trans ?_ (hexist row).symm)
    rw [c.enoughAmong_eq w hnone]
  · intro hkeys
    apply hknown
    intro row hrow
    exact Place.throughout_keysKnown w c later base.source.table _ st hrow hkeys

namespace Board

/-- Comments that reply to none have a null key, but all of them are read and
none is pinned. -/
theorem kept_membership_none :
    (schema.graph.attach onNulls "post" onNulls.source (asks .none) .existence).error? = none ∧
      schema.graph.kept world onNulls "post" (asks .none) .membership [] =
        schema.graph.kept world onNulls "post" (asks .none) .existence [] := by
  have hok : (schema.graph.attach onNulls "post" onNulls.source (asks .none) .existence).error? =
      none := rfl
  have hcallback : ∀ f, (asks .none).constraint = some f →
      ∀ source, Clause.Uncorrelated (f (.ofSource source)).clauses := by
    intro f hf source
    cases hf
    intro d hd
    rcases List.mem_cons.mp hd with rfl | hd
    · rfl
    · rw [List.mem_singleton.mp hd]
      rfl
  have hconstraints : ∀ taken, schema.graph.walk "post" (asks .none).path.segments = .ok taken →
      ∀ st ∈ taken, Clause.Uncorrelated st.relation.constraints := by
    intro taken htaken
    cases walk_path.symm.trans htaken
    intro st hst
    rcases List.mem_cons.mp hst with rfl | hst
    · intro d hd
      rw [List.mem_singleton.mp hd]
      rfl
    · rw [List.mem_singleton.mp hst]
      nofun
  obtain ⟨st, later, hwalk, -, -, -, hknown, -⟩ := Graph.kept_attach_membership world noHopTables
    (Source.ofTable_clearOf "posts" schema.graph) hok hcallback hconstraints []
  cases walk_path.symm.trans hwalk
  exact ⟨hok, hknown (by decide)⟩

def unreadRows : String → List Row
  | "comments" => (world.rows "comments").map fun comment name =>
    if name = "read_at" ∧ comment "id" = .int 12 then .null else comment name
  | table => world.rows table

-- The unread comment replies to none, and no key differs from a null one: post 2 is lost.
example :
    let unread : World := { world with rows := unreadRows }
    (schema.graph.kept unread onNulls "post" (asks .none) .membership []).map (· "id") = [.int 3] ∧
      (schema.graph.kept unread onNulls "post" (asks .none) .existence []).map (· "id") =
        [.int 2, .int 3] := by
  decide

end Board
end Semijoin
