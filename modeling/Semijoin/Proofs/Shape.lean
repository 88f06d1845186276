import Semijoin.Proofs.Walk

/-! # The shape of a compiled filter

A compiled filter is a chain of predicates, one a hop, each testing a query that
holds the next.  `Predicate.levels` reads the chain off the tree and
`Graph.attach_shape` says what each level is: hops before the last ask for one
row in the form of the mode, the last one for what the caller asked, and each
query holds its join, what is asked and the relation's constraints, in this
order and and-ed throughout. -/
set_option autoImplicit false
namespace Semijoin

/-! ## Reading the chain -/

def Query.nest? (q : Query) : Option Predicate :=
  (q.clauses.map (·.predicate)).find? (·.subquery?.isSome)

/-- The first `n` predicates of the chain that starts with a predicate on rows of
`outer`, the outermost first, each with the source whose rows it is on. -/
def Predicate.levels : Nat → Source → Predicate → List (Source × Predicate)
  | 0, _, _ => []
  | n + 1, outer, p => (outer, p) ::
    match p.subquery? with
    | none => []
    | some q =>
      match q.nest? with
      | none => []
      | some next => next.levels n q.source

theorem Predicate.levels_one (outer : Source) (p : Predicate) : p.levels 1 outer = [(outer, p)] := by
  rw [levels]
  cases p.subquery? with
  | none => rfl
  | some q => cases hn : q.nest? <;> simp only [hn, levels]

theorem Predicate.levels_succ {p next : Predicate} {q : Query} (hq : p.subquery? = some q)
    (hnext : q.nest? = some next) (n : Nat) (outer : Source) :
    p.levels (n + 1) outer = (outer, p) :: next.levels n q.source := by
  simp only [levels, hq, hnext]

/-! ## The forms of one hop -/

namespace Step

/-- Whether there is a row that joins and meets what is asked, in the form of a
mode.  Membership keeps no correlation and selects the inner key instead. -/
def plain (st : Step) (mode : Mode) (outer : Source) (i : Nat) (asked : List Clause)
    (negated : Bool) : Predicate :=
  match mode with
  | .existence => .existence ⟨st.source outer i, .all, st.held outer i asked⟩ negated
  | .membership =>
    .membership (st.outerKey outer)
      ⟨st.source outer i, .columns [st.innerKey outer i], Clause.loose (st.held outer i asked)⟩
      negated

def counted (st : Step) (t : Threshold) (outer : Source) (i : Nat) (asked : List Clause) :
    Predicate :=
  .count ⟨st.source outer i, .rowCount, st.held outer i asked⟩ t

variable (st : Step) (mode : Mode) (outer : Source) (i : Nat) {asked : List Clause}

theorem filter_any (h : Clause.AllAnd asked) :
    (st.filter mode .any outer i asked).predicate = st.plain mode outer i asked false := by
  cases mode with
  | existence => rfl
  | membership =>
      simp only [filter, Threshold.choice, if_true, Mode.strategy, Filter.ofChoice]
      rw [Query.decorrelate_eq (st.allAnd_held outer i h)]
      rfl

theorem filter_none (h : Clause.AllAnd asked) :
    (st.filter mode .none outer i asked).predicate = st.plain mode outer i asked true := by
  have hne : Threshold.none ≠ .any := by decide
  cases mode with
  | existence => rfl
  | membership =>
      simp only [filter, Threshold.choice, if_neg hne, if_true, Mode.strategy, Filter.ofChoice]
      rw [Query.decorrelate_eq (st.allAnd_held outer i h)]
      rfl

theorem filter_counted (t : Threshold) (hany : t ≠ .any) (hnone : t ≠ .none) :
    (st.filter mode t outer i asked).predicate = st.counted t outer i asked := by
  simp only [filter, Threshold.choice, if_neg hany, if_neg hnone, Filter.ofChoice]
  rfl

theorem filter_form (t : Threshold) (h : Clause.AllAnd asked) :
    (∃ negated, (st.filter mode t outer i asked).predicate = st.plain mode outer i asked negated) ∨
      (st.filter mode t outer i asked).predicate = st.counted t outer i asked := by
  by_cases hany : t = .any
  · rw [hany]
    exact Or.inl ⟨false, st.filter_any mode outer i h⟩
  · by_cases hnone : t = .none
    · rw [hnone]
      exact Or.inl ⟨true, st.filter_none mode outer i h⟩
    · exact Or.inr (st.filter_counted mode outer i t hany hnone)

theorem filter_query (t : Threshold) (h : Clause.AllAnd asked) :
    ∃ q, (st.filter mode t outer i asked).predicate.subquery? = some q ∧
      q.source = st.source outer i ∧ Clause.AllAnd q.clauses := by
  have hheld := st.allAnd_held outer i h
  rcases st.filter_form mode outer i t h with ⟨negated, hp⟩ | hp
  · rw [hp]
    cases mode with
    | existence => exact ⟨_, rfl, rfl, hheld⟩
    | membership => exact ⟨_, rfl, rfl, Clause.allAnd_loose hheld⟩
  · rw [hp]
    exact ⟨_, rfl, rfl, hheld⟩

theorem plain_nest (negated : Bool) {next : Predicate} (h : next.subquery?.isSome = true) :
    ∃ q, (st.plain mode outer i [⟨.and, next⟩] negated).subquery? = some q ∧
      q.source = st.source outer i ∧ q.nest? = some next := by
  cases mode with
  | existence =>
      refine ⟨_, rfl, rfl, ?_⟩
      simp only [Query.nest?, held, List.cons_append, List.map_cons, List.find?_cons, h]
      rfl
  | membership =>
      -- cutting the query loose drops its join but not the next hop's test
      have hnext : next.isCorrelation = false := by
        cases next with
        | correlate outer inner => cases h
        | _ => rfl
      refine ⟨_, rfl, rfl, ?_⟩
      simp only [Query.nest?, held, Clause.loose, List.cons_append]
      rw [List.filter_cons_of_neg (by simp [Predicate.isCorrelation]),
        List.filter_cons_of_pos (by simp [hnext]), List.map_cons, List.find?_cons, h]

end Step

theorem Filter.predicate_subquery (f : Filter) : f.predicate.subquery? = some f.query := by
  cases f with
  | existence query negated => rfl
  | membership outer query negated => rfl
  | count query threshold => rfl

theorem Filter.isCorrelation_predicate (f : Filter) : f.predicate.isCorrelation = false := by
  cases f with
  | existence query negated => rfl
  | membership outer query negated => rfl
  | count query threshold => rfl

/-! ## The shape of a chain -/

/-- What hop `i`, a step from rows of `outer`, looks like: `p` is its predicate and
`next?` the one nested in it, which the last hop has not. -/
structure HopShape (mode : Mode) (c : Condition) (st : Step) (i : Nat) (outer : Source)
    (next? : Option Predicate) (p : Predicate) : Prop where
  inner : ∀ next, next? = some next → p = st.plain mode outer i [⟨.and, next⟩] false
  lastAny : next? = none → c.threshold = ⟨.atLeast, 1⟩ →
    p = st.plain mode outer i (c.asked (st.source outer i)) false
  lastNone : next? = none → c.threshold = ⟨.fewerThan, 1⟩ →
    p = st.plain mode outer i (c.asked (st.source outer i)) true
  lastCount : next? = none → c.threshold ≠ ⟨.atLeast, 1⟩ → c.threshold ≠ ⟨.fewerThan, 1⟩ →
    p = st.counted c.threshold outer i (c.asked (st.source outer i))
  query : ∃ q, p.subquery? = some q ∧ q.source = outer.nested st.related.table i ∧
    q.source.table = st.related.table ∧ Clause.AllAnd q.clauses
  loose : ∀ column q negated, p = .membership column q negated → Clause.Uncorrelated q.clauses

theorem Source.table_nested (outer : Source) (table : String) (i : Nat) :
    (outer.nested table i).table = table := by
  rw [nested]
  split
  · rfl
  · rfl

namespace Step

variable (mode : Mode) (c : Condition)

theorem filter_loose (st : Step) (outer : Source) (i : Nat) (t : Threshold) {asked : List Clause}
    (h : Clause.AllAnd asked) (column : Column) (q : Query) (negated : Bool)
    (hp : (st.filter mode t outer i asked).predicate = .membership column q negated) :
    Clause.Uncorrelated q.clauses := by
  rcases st.filter_form mode outer i t h with ⟨negated', hform⟩ | hform
  · rw [hform] at hp
    cases mode with
    | existence => cases hp
    | membership => cases hp; exact Clause.uncorrelated_loose _
  · rw [hform] at hp
    cases hp

theorem last_shape (outer : Source) (i : Nat) (st : Step) :
    HopShape mode c st i outer none (nest mode c outer i st []).predicate := by
  have hasked := c.allAnd_asked (st.source outer i)
  rw [nest]
  refine { inner := ?_, lastAny := ?_, lastNone := ?_, lastCount := ?_, query := ?_,
           loose := st.filter_loose mode outer i c.threshold hasked }
  · intro _ hnext
    cases hnext
  · intro _ ht
    rw [ht]
    exact st.filter_any mode outer i hasked
  · intro _ ht
    rw [ht]
    exact st.filter_none mode outer i hasked
  · intro _ hany hnone
    exact st.filter_counted mode outer i c.threshold hany hnone
  · obtain ⟨q, hq, hsource, hand⟩ := st.filter_query mode outer i c.threshold hasked
    exact ⟨q, hq, hsource, by rw [hsource]; exact outer.table_nested _ i, hand⟩

theorem inner_shape (outer : Source) (i : Nat) (st next : Step) (rest : List Step) :
    HopShape mode c st i outer
      (some (nest mode c (st.source outer i) (i + 1) next rest).predicate)
      (nest mode c outer i st (next :: rest)).predicate := by
  rw [nest]
  generalize (nest mode c (st.source outer i) (i + 1) next rest).predicate = inner
  have hasked := Clause.allAnd_singleton inner
  refine { inner := ?_, lastAny := ?_, lastNone := ?_, lastCount := ?_, query := ?_,
           loose := st.filter_loose mode outer i .any hasked }
  · intro next' hnext
    cases hnext
    exact st.filter_any mode outer i hasked
  · intro hlast
    cases hlast
  · intro hlast
    cases hlast
  · intro hlast
    cases hlast
  · obtain ⟨q, hq, hsource, hand⟩ := st.filter_query mode outer i .any hasked
    exact ⟨q, hq, hsource, by rw [hsource]; exact outer.table_nested _ i, hand⟩

theorem levels_nest_cons (outer : Source) (i : Nat) (st next : Step) (rest : List Step) (n : Nat) :
    (nest mode c outer i st (next :: rest)).predicate.levels (n + 1) outer =
      (outer, (nest mode c outer i st (next :: rest)).predicate) ::
        (nest mode c (st.source outer i) (i + 1) next rest).predicate.levels n
          (st.source outer i) := by
  have hp := (inner_shape mode c outer i st next rest).inner _ rfl
  have hsome : (nest mode c (st.source outer i) (i + 1) next rest).predicate.subquery?.isSome = true := by
    rw [Filter.predicate_subquery]
    rfl
  obtain ⟨q, hq, hsource, hnest⟩ := st.plain_nest mode outer i false hsome
  rw [← hp] at hq
  rw [Predicate.levels_succ hq hnest, hsource]

/-- Each level of the chain over the steps of a path has the shape of its hop. -/
theorem levels_shape : ∀ (later : List Step) (outer : Source) (i : Nat) (st : Step),
    ((nest mode c outer i st later).predicate.levels (later.length + 1) outer).length =
        later.length + 1 ∧
      ∀ j (hj : j < (st :: later).length), ∃ around p,
        ((nest mode c outer i st later).predicate.levels (later.length + 1) outer)[j]? =
            some (around, p) ∧
          HopShape mode c (st :: later)[j] (i + j) around
            (((nest mode c outer i st later).predicate.levels (later.length + 1) outer)[j + 1]?.map
              Prod.snd) p := by
  intro later
  induction later with
  | nil =>
      intro outer i st
      rw [List.length_nil, Nat.zero_add, Predicate.levels_one]
      refine ⟨rfl, fun j hj => ?_⟩
      have hj0 : j = 0 := Nat.lt_one_iff.mp hj
      subst hj0
      exact ⟨outer, _, rfl, last_shape mode c outer i st⟩
  | cons next rest ih =>
      intro outer i st
      obtain ⟨hlength, hshape⟩ := ih (st.source outer i) (i + 1) next
      rw [List.length_cons, levels_nest_cons]
      refine ⟨by rw [List.length_cons, hlength], fun j hj => ?_⟩
      cases j with
      | zero =>
          refine ⟨outer, _, rfl, ?_⟩
          obtain ⟨around, p, hp, -⟩ := hshape 0 (Nat.zero_lt_succ _)
          -- the predicate nested in the first hop is the first of the next chain
          have hhead : ((nest mode c (st.source outer i) (i + 1) next rest).predicate.levels
              (rest.length + 1) (st.source outer i))[0]?.map Prod.snd =
              some (nest mode c (st.source outer i) (i + 1) next rest).predicate := by
            rw [Predicate.levels]
            rfl
          rw [List.getElem?_cons_succ, hhead]
          exact inner_shape mode c outer i st next rest
      | succ j =>
          obtain ⟨around, p, hp, hj'⟩ := hshape j (Nat.lt_of_succ_lt_succ hj)
          refine ⟨around, p, hp, ?_⟩
          have hindex : i + (j + 1) = i + 1 + j := by omega
          rw [hindex]
          exact hj'

end Step

/-- A path that can be walked compiles to one clause, and the clause is a chain of
as many hops as the path has segments, each of its shape. -/
theorem Graph.attach_shape {g : Graph} {model : String} {c : Condition} {steps : List Step}
    (h : g.walk model c.path.segments = .ok steps) (base : Query) (outer : Source) (mode : Mode) :
    steps.length = c.path.segments.length ∧
      (g.attach base model outer c mode).error? = none ∧
      ∃ p, (g.attach base model outer c mode).target = base.push ⟨c.connective, p⟩ ∧
        (p.levels steps.length outer).length = steps.length ∧
        ∀ i (hi : i < steps.length), ∃ around hop,
          (p.levels steps.length outer)[i]? = some (around, hop) ∧
            HopShape mode c steps[i] i around ((p.levels steps.length outer)[i + 1]?.map Prod.snd)
              hop := by
  have hlength := length_of_walk h
  cases steps with
  | nil => cases hlength
  | cons st later =>
      obtain ⟨herror, htarget⟩ := attach_of_walk h base outer mode
      obtain ⟨hlevels, hshape⟩ := Step.levels_shape mode c later outer 0 st
      refine ⟨hlength, herror, _, htarget, hlevels, fun i hi => ?_⟩
      obtain ⟨around, hop, hhop, hi'⟩ := hshape i hi
      rw [Nat.zero_add] at hi'
      exact ⟨around, hop, hhop, hi'⟩

theorem Board.attach_shape_replies :
    schema.graph.walk "post" (asks .none).path.segments = .ok steps ∧
      ∃ p, (schema.graph.attach (Query.ofTable "posts") "post" (.ofTable "posts") (asks .none)
          .membership).target = (Query.ofTable "posts").push ⟨.or, p⟩ ∧
        ∃ around hop, (p.levels 2 (.ofTable "posts"))[1]? = some (around, hop) ∧
          HopShape .membership (asks .none) ⟨replies, comment⟩ 1 around none hop := by
  obtain ⟨-, -, p, htarget, hlength, hshape⟩ := Graph.attach_shape (c := asks .none) walk_path
    (Query.ofTable "posts") (.ofTable "posts") .membership
  obtain ⟨around, hop, hhop, hlast⟩ := hshape 1 (by decide)
  have hend : (p.levels steps.length (.ofTable "posts"))[1 + 1]? = none :=
    List.getElem?_eq_none (Nat.le_of_eq hlength)
  rw [hend] at hlast
  exact ⟨walk_path, p, htarget, around, hop, hhop, hlast⟩

end Semijoin
