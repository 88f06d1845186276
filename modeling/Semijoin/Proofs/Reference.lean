import Semijoin.Proofs.Shape

/-! # References along a path

A hop's query is joined to the row around it by columns qualified with the two
references.  `Graph.joins_apart_iff` says exactly when no two references that a
compiled filter joins by are the same: when the base's label is not the first
hop's reference, and no step leads to a table called like the label of the hop
before it.  Both happen: a label is chosen by tables alone. -/
set_option autoImplicit false
namespace Semijoin

/-! ## Labels of hops -/

/-- The label of hop `i` when it leads back to the table it is nested in. -/
def hopLabel (table : String) (i : Nat) : String := table ++ "_hop" ++ toString i

/-- The text ends in `_hop` and decimal digits. -/
def IsHopLabel (text : String) : Prop :=
  ∃ before digits : List Char, digits ≠ [] ∧ (∀ d ∈ digits, d.isDigit = true) ∧
    text.toList = before ++ "_hop".toList ++ digits

theorem toList_hopLabel (table : String) (i : Nat) :
    (hopLabel table i).toList = table.toList ++ "_hop".toList ++ Nat.toDigits 10 i := by
  rw [hopLabel, String.toList_append, String.toList_append]
  congr 1
  exact Nat.toList_repr

theorem isHopLabel_hopLabel (table : String) (i : Nat) : IsHopLabel (hopLabel table i) := by
  refine ⟨table.toList, Nat.toDigits 10 i, Nat.toDigits_ne_nil, ?_, toList_hopLabel table i⟩
  intro d hd
  exact Nat.isDigit_of_mem_toDigits (by decide) (by decide) hd

theorem not_isHopLabel {text : String} (h : '_' ∉ text.toList) : ¬ IsHopLabel text := by
  rintro ⟨before, digits, -, -, htext⟩
  apply h
  rw [htext]
  simp

theorem hopLabel_ne_self (table : String) (i : Nat) : hopLabel table i ≠ table := by
  intro h
  have hlist := congrArg (fun t => t.toList.length) h
  simp only [toList_hopLabel, List.length_append] at hlist
  have hhop : "_hop".toList.length = 4 := by decide
  omega

theorem hopLabel_injective {table : String} {i j : Nat} (h : hopLabel table i = hopLabel table j) :
    i = j := by
  have hlist := congrArg String.toList h
  rw [toList_hopLabel, toList_hopLabel, List.append_cancel_left_eq] at hlist
  have hvalue := congrArg (fun ds => Nat.ofDigitChars 10 ds 0) hlist
  simpa only [Nat.ofDigitChars_ten_toDigits] using hvalue

/-! ## The reference of a nested source -/

namespace Source

theorem reference_nested (outer : Source) (table : String) (i : Nat) :
    (outer.nested table i).reference = if table = outer.table then hopLabel table i else table := by
  rw [nested]
  split
  · rfl
  · rfl

theorem label_nested (outer : Source) (table : String) (i : Nat) :
    (outer.nested table i).label = if table = outer.table then some (hopLabel table i) else none := by
  rw [nested]
  split
  · rfl
  · rfl

/-- A nested source takes the reference around it only as that one's label. -/
theorem reference_nested_eq_iff (outer : Source) (table : String) (i : Nat) :
    (outer.nested table i).reference = outer.reference ↔
      outer.label = some (outer.nested table i).reference := by
  rw [reference_nested]
  cases hlabel : outer.label with
  | some label =>
      rw [reference, hlabel]
      exact ⟨fun h => congrArg some h.symm, fun h => (Option.some.inj h).symm⟩
  | none =>
      rw [reference, hlabel, Option.getD_none]
      refine ⟨fun h => ?_, nofun⟩
      split at h
      · rename_i htable
        rw [← htable] at h
        exact absurd h (hopLabel_ne_self table i)
      · contradiction

end Source

/-! ## Columns a filter joins by -/

def Clause.join? : Clause → Option Join
  | ⟨_, .correlate outer inner⟩ => some ⟨outer, inner⟩
  | _ => none

/-- The columns by which a predicate joins the query it tests to the row around
it: those of its first correlation, or the column and what it is a member of. -/
def Predicate.join? : Predicate → Option Join
  | .existence q _ | .count q _ => q.clauses.findSome? Clause.join?
  | .membership column ⟨_, .columns [inner], _⟩ _ => some ⟨column, inner⟩
  | _ => none

/-- The predicate tests a query with a reference of its own, and joins it by
columns of the two different references. -/
def Predicate.JoinsApart (outer : Source) (p : Predicate) : Prop :=
  ∃ q join, p.subquery? = some q ∧ p.join? = some join ∧
    join.outer.table = some outer.reference ∧ join.inner.table = some q.source.reference ∧
    q.source.reference ≠ outer.reference

theorem Step.filter_join (st : Step) (mode : Mode) (outer : Source) (i : Nat) (t : Threshold)
    {asked : List Clause} (h : Clause.AllAnd asked) :
    (st.filter mode t outer i asked).predicate.join? =
      some ⟨st.outerKey outer, st.innerKey outer i⟩ := by
  rcases st.filter_form mode outer i t h with ⟨negated, hp⟩ | hp
  · rw [hp]
    cases mode with
    | existence => rfl
    | membership => rfl
  · rw [hp]
    rfl

theorem Step.filter_joinsApart_iff (st : Step) (mode : Mode) (outer : Source) (i : Nat)
    (t : Threshold) {asked : List Clause} (h : Clause.AllAnd asked) :
    (st.filter mode t outer i asked).predicate.JoinsApart outer ↔
      (st.source outer i).reference ≠ outer.reference := by
  obtain ⟨q, hq, hsource, -⟩ := st.filter_query mode outer i t h
  constructor
  · rintro ⟨q', join, hq', -, -, -, hne⟩
    rw [hq] at hq'
    cases hq'
    rwa [hsource] at hne
  · intro hne
    rw [← hsource] at hne
    refine ⟨q, _, hq, st.filter_join mode outer i t h, rfl, ?_, hne⟩
    rw [hsource]
    rfl

/-! ## Along a path -/

namespace Step

/-- From hop `i` on, each source has a reference different from the one around it. -/
def Apart : Source → Nat → List Step → Prop
  | _, _, [] => True
  | outer, i, st :: rest =>
    (st.source outer i).reference ≠ outer.reference ∧ Apart (st.source outer i) (i + 1) rest

def tables (outer : Source) (steps : List Step) : List String :=
  outer.table :: steps.map (·.related.table)

/-- The base's label is the reference of the first hop. -/
def TakesLabel (outer : Source) (i : Nat) (steps : List Step) : Prop :=
  ∃ st ∈ steps.head?, outer.label =
    some (if st.related.table = outer.table then hopLabel st.related.table i else st.related.table)

/-- A table twice in a row, and then one called like the second's label. -/
def MeetsLabel (i : Nat) (tables : List String) : Prop :=
  ∃ j table, tables[j]? = some table ∧ tables[j + 1]? = some table ∧
    tables[j + 2]? = some (hopLabel table (i + j))

theorem meetsLabel_cons (i : Nat) (first second third : String) (rest : List String) :
    MeetsLabel i (first :: second :: third :: rest) ↔
      (second = first ∧ third = hopLabel second i) ∨
        MeetsLabel (i + 1) (second :: third :: rest) := by
  constructor
  · rintro ⟨j, table, hfirst, hsecond, hthird⟩
    cases j with
    | zero =>
        simp only [List.getElem?_cons_zero, List.getElem?_cons_succ, Option.some.injEq] at *
        subst hfirst hsecond
        exact Or.inl ⟨rfl, hthird⟩
    | succ j =>
        refine Or.inr ⟨j, table, hfirst, hsecond, ?_⟩
        have hindex : i + (j + 1) = i + 1 + j := by omega
        rwa [hindex] at hthird
  · rintro (⟨rfl, rfl⟩ | ⟨j, table, hfirst, hsecond, hthird⟩)
    · exact ⟨0, second, rfl, rfl, rfl⟩
    · refine ⟨j + 1, table, hfirst, hsecond, ?_⟩
      have hindex : i + (j + 1) = i + 1 + j := by omega
      rwa [hindex]

theorem takesLabel_nested (outer : Source) (i : Nat) (st next : Step) (rest : List Step) :
    TakesLabel (st.source outer i) (i + 1) (next :: rest) ↔
      st.related.table = outer.table ∧ next.related.table = hopLabel st.related.table i := by
  have htable := outer.table_nested st.related.table i
  simp only [TakesLabel, List.head?_cons, Option.mem_def, Option.some.injEq, exists_eq_left', source,
    htable, Source.label_nested]
  split
  · rename_i hback
    rw [Option.some.injEq]
    split
    · rename_i hnext
      -- two labels of one table: their numbers tell them apart
      rw [hnext]
      constructor
      · intro h
        have hindex := hopLabel_injective h
        omega
      · rintro ⟨-, h⟩
        exact absurd h.symm (hopLabel_ne_self _ i)
    · exact ⟨fun h => ⟨hback, h.symm⟩, fun h => h.2.symm⟩
  · rename_i hback
    exact ⟨nofun, fun h => absurd h.1 hback⟩

theorem apart_iff : ∀ (later : List Step) (outer : Source) (i : Nat) (st : Step),
    Apart outer i (st :: later) ↔
      ¬ TakesLabel outer i (st :: later) ∧ ¬ MeetsLabel i (tables outer (st :: later)) := by
  have hhead : ∀ (outer : Source) (i : Nat) (st : Step) (later : List Step),
      (st.source outer i).reference ≠ outer.reference ↔ ¬ TakesLabel outer i (st :: later) := by
    intro outer i st later
    rw [source, Ne, Source.reference_nested_eq_iff, Source.reference_nested]
    simp only [TakesLabel, List.head?_cons, Option.mem_def, Option.some.injEq, exists_eq_left']
  intro later
  induction later with
  | nil =>
      intro outer i st
      have hshort : ¬ MeetsLabel i (tables outer [st]) := by
        rintro ⟨j, table, -, -, hthird⟩
        simp [tables] at hthird
      rw [Apart, Apart, hhead outer i st []]
      exact ⟨fun h => ⟨h.1, hshort⟩, fun h => ⟨h.1, trivial⟩⟩
  | cons next rest ih =>
      intro outer i st
      -- the next hop starts from a source that has a label only if its table came twice
      rw [Apart, hhead outer i st (next :: rest), ih, takesLabel_nested]
      have htable : (st.source outer i).table = st.related.table := outer.table_nested _ i
      simp only [tables, htable, List.map_cons, meetsLabel_cons]
      rw [not_or]

theorem levels_joinsApart_iff (mode : Mode) (c : Condition) : ∀ (later : List Step)
    (outer : Source) (i : Nat) (st : Step),
    (∀ level ∈ (nest mode c outer i st later).predicate.levels (later.length + 1) outer,
        level.2.JoinsApart level.1) ↔ Apart outer i (st :: later) := by
  intro later
  induction later with
  | nil =>
      intro outer i st
      rw [List.length_nil, Nat.zero_add, Predicate.levels_one, nest, Apart, Apart, and_true]
      simp only [List.mem_singleton, forall_eq]
      exact st.filter_joinsApart_iff mode outer i _ (c.allAnd_asked _)
  | cons next rest ih =>
      intro outer i st
      rw [List.length_cons, levels_nest_cons, List.forall_mem_cons, ih, nest]
      have hasked := Clause.allAnd_singleton
        (nest mode c (st.source outer i) (i + 1) next rest).predicate
      exact and_congr (st.filter_joinsApart_iff mode outer i .any hasked) Iff.rfl

end Step

/-- No two references that a compiled filter joins by are the same, except when
the base's label is the reference of the first hop, or somewhere along the path
a table comes twice in a row and then one called like the second's label. -/
theorem Graph.joins_apart_iff {g : Graph} {model : String} {c : Condition} {steps : List Step}
    (h : g.walk model c.path.segments = .ok steps) (base : Query) (outer : Source) (mode : Mode) :
    ∃ p, (g.attach base model outer c mode).target = base.push ⟨c.connective, p⟩ ∧
      (p.levels steps.length outer).length = steps.length ∧
      ((∀ level ∈ p.levels steps.length outer, level.2.JoinsApart level.1) ↔
        ¬ Step.TakesLabel outer 0 steps ∧ ¬ Step.MeetsLabel 0 (Step.tables outer steps)) := by
  cases steps with
  | nil => cases length_of_walk h
  | cons st later =>
      obtain ⟨-, htarget⟩ := attach_of_walk h base outer mode
      refine ⟨_, htarget, (Step.levels_shape mode c later outer 0 st).1, ?_⟩
      exact (Step.levels_joinsApart_iff mode c later outer 0 st).trans
        (Step.apart_iff later outer 0 st)

theorem Board.joins_apart_replies :
    schema.graph.walk "post" (asks .any).path.segments = .ok steps ∧
      ∃ p, (schema.graph.attach (Query.ofTable "posts") "post" (.ofTable "posts") (asks .any)
          .existence).target = (Query.ofTable "posts").push ⟨.or, p⟩ ∧
        ∀ level ∈ p.levels 2 (.ofTable "posts"), level.2.JoinsApart level.1 := by
  obtain ⟨p, htarget, -, hiff⟩ := Graph.joins_apart_iff (c := asks .any) walk_path
    (Query.ofTable "posts") (.ofTable "posts") .existence
  refine ⟨walk_path, p, htarget, hiff.mpr ⟨?_, ?_⟩⟩
  · rintro ⟨st, -, hlabel⟩
    cases hlabel
  · rintro ⟨j, table, hfirst, hsecond, hthird⟩
    match j with
    | 0 =>
        cases hfirst
        revert hsecond
        decide
    | j + 1 => simp [Step.tables, steps] at hthird

/-! ## Graphs without labels for names -/

/-- No model's table is called like a hop's label. -/
def Graph.NoHopTables (g : Graph) : Prop :=
  ∀ name m, g.model? name = some m → ¬ IsHopLabel m.table

/-- A label, if there is one, is neither a model's table nor like a hop's label. -/
def Source.ClearOf (outer : Source) (g : Graph) : Prop :=
  ∀ label, outer.label = some label →
    ¬ IsHopLabel label ∧ ∀ name m, g.model? name = some m → m.table ≠ label

theorem Source.ofTable_clearOf (table : String) (g : Graph) : (Source.ofTable table).ClearOf g :=
  nofun

theorem Graph.apart_of_walk {g : Graph} (hg : g.NoHopTables) {outer : Source}
    (houter : outer.ClearOf g) {model : String} {segments : List String} {st : Step}
    {later : List Step} (h : g.walk model segments = .ok (st :: later)) :
    Step.Apart outer 0 (st :: later) := by
  rw [Step.apart_iff]
  constructor
  · rintro ⟨st', hst', hlabel⟩
    cases hst'
    obtain ⟨hhop, htable⟩ := houter _ hlabel
    split at hhop
    · exact hhop (isHopLabel_hopLabel _ 0)
    · rename_i hne
      obtain ⟨name, hname⟩ := related_of_walk h st (List.mem_cons_self ..)
      exact htable name _ hname (if_neg hne).symm
  · rintro ⟨j, table, -, -, hthird⟩
    have hmem : hopLabel table (0 + j) ∈ (st :: later).map (·.related.table) :=
      List.mem_of_getElem? (i := j + 1) hthird
    obtain ⟨st', hst', htable⟩ := List.mem_map.mp hmem
    obtain ⟨name, hname⟩ := related_of_walk h st' hst'
    apply hg name st'.related hname
    rw [htable]
    exact isHopLabel_hopLabel table _

/-! ## A table called like a label

Categories have sub-categories, and files that are kept in a table called like
the label of the first sub-categories. -/

namespace Shelf

def children : Relation := .hasMany "children" "category" "parent_id" "id"

def files : Relation := .hasMany "files" "file" "category_id" "id"

def category : Model := ((Model.ofTable "category" "categories").declare children).declare files

def file : Model := .ofTable "file" "categories_hop0"

def schema : Schema := (Schema.empty.insert category).insert file

def steps : List Step := [⟨children, category⟩, ⟨files, file⟩]

def condition : Condition where
  path := ⟨"children", ["files"], by decide⟩

theorem walk_condition : schema.graph.walk "category" condition.path.segments = .ok steps := rfl

/-- The files' query takes the reference of the sub-categories around it. -/
theorem files_take_reference :
    ¬ ∀ (s : Schema) (model : String) (c : Condition) (steps : List Step) (base : Query)
        (outer : Source) (mode : Mode) (p : Predicate),
      s.graph.walk model c.path.segments = .ok steps →
      (s.graph.attach base model outer c mode).target = base.push ⟨c.connective, p⟩ →
      ∀ level ∈ p.levels steps.length outer, ∀ q, level.2.subquery? = some q →
        q.source.reference ≠ level.1.reference := by
  intro hall
  have hfiles := hall schema "category" condition steps (Query.ofTable "categories")
    (.ofTable "categories") .existence _ walk_condition
    (Graph.attach_of_walk walk_condition _ _ _).2
    (.labelled "categories" "categories_hop0", _) (List.mem_of_getElem? (i := 1) rfl)
    _ rfl
  exact hfiles rfl

end Shelf
end Semijoin
