import Semijoin.Proofs.Shape

/-! # How deep a compiled filter nests

The depth of a query follows the first of its clauses that tests a query: clauses behind
that one do not count, and neither does what stands in groups.  A hop before the last tests
the query of the next hop before anything else, so the hops of a path make the depth, and
what the last hop is asked adds its own (`Graph.depth_attach`).  A filter adds nothing to a
query that tests another one already. -/
set_option autoImplicit false
namespace Semijoin

/-! ## The depth of a list of clauses -/

namespace Clause

/-- A clause of the list itself tests a query. -/
def Tests (cs : List Clause) : Prop := ∃ c ∈ cs, c.predicate.subquery?.isSome = true

instance (cs : List Clause) : Decidable (Tests cs) :=
  inferInstanceAs (Decidable (∃ c ∈ cs, c.predicate.subquery?.isSome = true))

variable {cs : List Clause} {c : Clause}

theorem tests_cons : Tests (c :: cs) ↔ c.predicate.subquery?.isSome = true ∨ Tests cs := by
  simp only [Tests, List.mem_cons, exists_eq_or_imp]

theorem chainDepth_cons (c : Clause) (cs : List Clause) :
    chainDepth (c :: cs) = c.predicate.subquery?.elim (chainDepth cs) (·.depth + 1) := by
  obtain ⟨k, p⟩ := c
  cases p with
  | existence query negated => rw [chainDepth]; rfl
  | membership column query negated => rw [chainDepth]; rfl
  | count query threshold => rw [chainDepth]; rfl
  | _ => rfl

theorem chainDepth_cons_of_none (h : c.predicate.subquery? = none) (cs : List Clause) :
    chainDepth (c :: cs) = chainDepth cs := by
  rw [chainDepth_cons, h, Option.elim_none]

theorem chainDepth_cons_of_some {q : Query} (h : c.predicate.subquery? = some q)
    (cs : List Clause) : chainDepth (c :: cs) = q.depth + 1 := by
  rw [chainDepth_cons, h, Option.elim_some]

/-- Clauses behind one that tests a query do not count. -/
theorem chainDepth_append_of_tests (h : Tests cs) (ds : List Clause) :
    chainDepth (cs ++ ds) = chainDepth cs := by
  induction cs with
  | nil =>
      obtain ⟨c, hc, -⟩ := h
      cases hc
  | cons c rest ih =>
      rw [List.cons_append, chainDepth_cons, chainDepth_cons]
      cases htest : c.predicate.subquery? with
      | some q => rfl
      | none =>
          rw [tests_cons, htest] at h
          rw [Option.elim_none, Option.elim_none, ih (h.resolve_left Bool.false_ne_true)]

theorem chainDepth_append_of_not_tests (h : ¬ Tests cs) (ds : List Clause) :
    chainDepth (cs ++ ds) = chainDepth ds := by
  induction cs with
  | nil => rfl
  | cons c rest ih =>
      rw [tests_cons, not_or, Bool.not_eq_true, Option.isSome_eq_false_iff,
        Option.isNone_iff_eq_none] at h
      rw [List.cons_append, chainDepth_cons_of_none h.1, ih h.2]

theorem chainDepth_of_not_tests (h : ¬ Tests cs) : chainDepth cs = 0 := by
  have hnil := chainDepth_append_of_not_tests h []
  rwa [List.append_nil] at hnil

/-- A group tests no query, whatever is in it. -/
theorem not_tests_merged (h : ¬ Tests cs) : ¬ Tests (merged cs) := by
  match cs with
  | [] => exact h
  | [c] =>
      rw [tests_cons] at h
      rwa [merged, tests_cons]
  | c :: d :: rest =>
      simp only [merged]
      split
      · exact h
      · rw [tests_cons]
        rintro (hgroup | ⟨e, he, -⟩)
        · cases hgroup
        · cases he

/-- A correlation tests no query, so cutting a list loose keeps its depth. -/
theorem chainDepth_loose (cs : List Clause) : chainDepth (loose cs) = chainDepth cs := by
  induction cs with
  | nil => rfl
  | cons c rest ih =>
      cases hjoin : c.predicate.isCorrelation with
      | true =>
          have hnone : c.predicate.subquery? = none := by
            cases hp : c.predicate with
            | correlate outer inner => rfl
            | _ => rw [hp] at hjoin; cases hjoin
          rw [loose, List.filter_cons_of_neg (by simp [hjoin]), ← loose, ih,
            chainDepth_cons_of_none hnone]
      | false =>
          rw [loose, List.filter_cons_of_pos (by simp [hjoin]), ← loose, chainDepth_cons, ih,
            chainDepth_cons]

theorem chainDepth_leadWithAnd (cs : List Clause) : chainDepth (leadWithAnd cs) = chainDepth cs := by
  cases cs with
  | nil => rfl
  | cons c rest => rw [leadWithAnd, chainDepth_cons, chainDepth_cons]

end Clause

theorem Query.depth_eq (q : Query) : q.depth = Clause.chainDepth q.clauses := by
  obtain ⟨source, projection, clauses⟩ := q
  rw [depth]

theorem Query.depth_decorrelate (q : Query) : q.decorrelate.2.depth = q.depth := by
  rw [decorrelate_pair, depth_eq, depth_eq, Clause.chainDepth_leadWithAnd, Clause.chainDepth_loose]

/-! ## The depth of a nest -/

/-- What the last hop of a path is asked, as a query over its source: what the caller's
constraint asks, and behind it the constraints of the relation. -/
def Condition.ending (c : Condition) (source : Source) (r : Relation) : Query :=
  let fresh := Query.ofSource source
  (c.constraint.elim fresh fresh.constrain).merge r.constraints

theorem Condition.clauses_ending (c : Condition) (source : Source) (r : Relation) :
    (c.ending source r).clauses = c.asked source ++ Clause.merged r.constraints := by
  rw [ending, Query.merge_eq, asked]
  cases c.constraint with
  | none => rfl
  | some constraint =>
      rw [Option.elim_some, Query.constrain, Query.merge_eq]
      rfl

namespace Step

def innermost : Source → Nat → List Step → Source
  | outer, _, [] => outer
  | outer, i, st :: rest => innermost (st.source outer i) (i + 1) rest

/-- A hop's join tests no query, and no form it is given changes what its clauses test. -/
theorem depth_filter (st : Step) (mode : Mode) (t : Threshold) (outer : Source) (i : Nat)
    (asked : List Clause) :
    (st.filter mode t outer i asked).query.depth =
      Clause.chainDepth (asked ++ Clause.merged st.relation.constraints) := by
  have hheld : Clause.chainDepth (st.held outer i asked) =
      Clause.chainDepth (asked ++ Clause.merged st.relation.constraints) :=
    Clause.chainDepth_cons_of_none rfl _
  rw [← hheld, filter, Filter.ofChoice, Query.depth_eq]
  cases (t.choice mode).strategy with
  | existence => rfl
  | count => rfl
  | membership =>
      simp only [Filter.query, Query.select]
      rw [← Query.depth_eq, Query.depth_decorrelate, Query.depth_eq]

theorem depth_nest (mode : Mode) (c : Condition) : ∀ (later : List Step) (outer : Source) (i : Nat)
    (st last : Step), (st :: later).getLast? = some last →
      (nest mode c outer i st later).query.depth =
        later.length + (c.ending (innermost outer i (st :: later)) last.relation).depth := by
  intro later
  induction later with
  | nil =>
      intro outer i st last hlast
      cases hlast
      rw [nest, st.depth_filter, Query.depth_eq, c.clauses_ending,
        List.length_nil, Nat.zero_add]
      rfl
  | cons next rest ih =>
      intro outer i st last hlast
      rw [List.getLast?_cons_cons] at hlast
      have hinner := ih (st.source outer i) (i + 1) next last hlast
      -- the next hop is tested first, so the relation's own constraints do not count
      rw [nest, st.depth_filter, List.singleton_append,
        Clause.chainDepth_cons_of_some (Filter.predicate_subquery _), hinner, List.length_cons,
        Nat.add_right_comm]
      rfl

end Step

/-- A filter attached to a query that tests another one already does not change its depth.
Attached to a query that tests none, it makes it as deep as the path is long, and by as much
deeper as a query with nothing but what the last hop is asked: what the caller asks and what
the last relation demands.  If that tests no query, the hops make all of the depth, whatever
the relations before the last demand. -/
theorem Graph.depth_attach {g : Graph} {base : Query} {model : String} {outer : Source}
    {c : Condition} {mode : Mode} (hok : (g.attach base model outer c mode).error? = none) :
    ∃ steps last, g.walk model c.path.segments = .ok steps ∧ steps.getLast? = some last ∧
      (Clause.Tests base.clauses →
        (g.attach base model outer c mode).target.depth = base.depth) ∧
      (¬ Clause.Tests base.clauses →
        (g.attach base model outer c mode).target.depth = c.path.segments.length +
          (c.ending (Step.innermost outer 0 steps) last.relation).depth) ∧
      (¬ Clause.Tests base.clauses →
        ¬ Clause.Tests (c.ending (Step.innermost outer 0 steps) last.relation).clauses →
        (g.attach base model outer c mode).target.depth = c.path.segments.length) := by
  obtain ⟨st, later, hwalk⟩ := walk_of_attach hok
  obtain ⟨-, htarget⟩ := attach_of_walk hwalk base outer mode
  have hlength := length_of_walk hwalk
  have hlast : (st :: later).getLast? = some ((st :: later).getLast (List.cons_ne_nil _ _)) :=
    List.getLast?_eq_some_getLast _
  have hdeep : ¬ Clause.Tests base.clauses →
      (g.attach base model outer c mode).target.depth = c.path.segments.length +
        (c.ending (Step.innermost outer 0 (st :: later))
          ((st :: later).getLast (List.cons_ne_nil _ _)).relation).depth := by
    intro hbase
    rw [htarget, Query.depth_eq, Query.push, Clause.chainDepth_append_of_not_tests hbase,
      Clause.chainDepth_cons_of_some (Filter.predicate_subquery _),
      Step.depth_nest mode c later outer 0 st _ hlast, ← hlength, List.length_cons,
      Nat.add_right_comm]
  refine ⟨_, _, hwalk, hlast, fun hbase => ?_, hdeep, fun hbase hending => ?_⟩
  · rw [htarget, Query.depth_eq, Query.push, Clause.chainDepth_append_of_tests hbase,
      ← Query.depth_eq]
  · rw [hdeep hbase, Query.depth_eq, Clause.chainDepth_of_not_tests hending, Nat.add_zero]

namespace Board

/-- Comments with a vote of a known user count, which is two queries deep. -/
def votedPost : Model :=
  post.declare <| comments.constrainedBy ⟨.and, .existence ((Query.ofTable "votes").conjoin
    (.membership (.bare "user_id") (.ofTable "users") false)) false⟩

def votedSchema : Schema := schema.insert votedPost

def asksLiked : Condition where
  path := path
  threshold := .none
  constraint := some fun q => q.conjoin (.count (.ofTable "likes") .any)

/-- The two hops and the likes make the depth: the votes stand behind the hop of the replies.
Asked a second time, the posts are as deep as before. -/
theorem depth_attach_liked :
    let filtered := votedSchema.graph.attach (Query.ofTable "posts") "post" (.ofTable "posts")
      asksLiked .membership
    filtered.error? = none ∧ ¬ Clause.Tests (Query.ofTable "posts").clauses ∧
      filtered.target.depth = 2 + 1 ∧
      Clause.Tests filtered.target.clauses ∧
      (votedSchema.graph.attach filtered.target "post" (.ofTable "posts") (asks .any)
        .existence).target.depth = filtered.target.depth := by
  intro filtered
  have hok : filtered.error? = none := rfl
  have htests : Clause.Tests filtered.target.clauses := by decide
  obtain ⟨steps, last, hwalk, hlast, -, hdeep, -⟩ := Graph.depth_attach hok
  have hagain : (votedSchema.graph.attach filtered.target "post" (.ofTable "posts") (asks .any)
      .existence).error? = none := rfl
  obtain ⟨-, -, -, -, hsame, -, -⟩ := Graph.depth_attach hagain
  cases hwalk
  cases hlast
  exact ⟨hok, by decide, hdeep (by decide), htests, hsame htests⟩

end Board
end Semijoin
