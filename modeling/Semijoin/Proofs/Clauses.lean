import Semijoin.Sql.Filterable

/-! # Clauses of a query

What merging adds to a query (`merge_eq`), what cutting a query loose leaves
(`decorrelate_pair`), and what it leaves of clauses that are all and-ed
(`decorrelate_eq`). -/
set_option autoImplicit false
namespace Semijoin

namespace Clause

/-- What merging a list adds at the end: nothing, one and-ed clause, the list as
it is if it is and-ed throughout, else the list as one group. -/
def merged : List Clause → List Clause
  | [] => []
  | [c] => [⟨.and, c.predicate⟩]
  | clauses => if clauses.all (·.connective = .and) then clauses else [⟨.and, .group clauses⟩]

/-- The clauses that do not correlate. -/
def loose (cs : List Clause) : List Clause := cs.filter (!·.predicate.isCorrelation)

def AllAnd (cs : List Clause) : Prop := ∀ c ∈ cs, c.connective = .and

/-- No clause of the list itself correlates; those in groups and queries may. -/
def Uncorrelated (cs : List Clause) : Prop := ∀ c ∈ cs, c.predicate.isCorrelation = false

theorem allAnd_cons (c : Clause) (cs : List Clause) :
    AllAnd (c :: cs) ↔ c.connective = .and ∧ AllAnd cs := List.forall_mem_cons

theorem allAnd_singleton (p : Predicate) : AllAnd [⟨.and, p⟩] := by
  intro d hd
  rw [List.mem_singleton.mp hd]

theorem allAnd_append (cs ds : List Clause) : AllAnd (cs ++ ds) ↔ AllAnd cs ∧ AllAnd ds :=
  List.forall_mem_append

theorem allAnd_merged (cs : List Clause) : AllAnd (merged cs) := by
  match cs with
  | [] => intro c hc; simp [merged] at hc
  | [c] => intro d hd; simp only [merged, List.mem_singleton] at hd; rw [hd]
  | c :: d :: rest =>
      simp only [merged]
      split
      · rename_i h
        intro e he
        simpa using List.all_eq_true.mp h e he
      · intro e he
        rw [List.mem_singleton.mp he]

theorem uncorrelated_merged {cs : List Clause} (h : Uncorrelated cs) : Uncorrelated (merged cs) := by
  match cs with
  | [] => exact h
  | [c] =>
      intro d hd
      rw [List.mem_singleton.mp hd]
      exact h c (List.mem_singleton_self c)
  | c :: d :: rest =>
      simp only [merged]
      split
      · exact h
      · intro e he
        rw [List.mem_singleton.mp he]
        rfl

theorem loose_eq_self {cs : List Clause} (h : Uncorrelated cs) : loose cs = cs := by
  rw [loose, List.filter_eq_self]
  intro c hc
  rw [h c hc]
  rfl

theorem uncorrelated_loose (cs : List Clause) : Uncorrelated (loose cs) := by
  intro c hc
  have hkept := (List.mem_filter.mp hc).2
  simpa using hkept

theorem allAnd_loose {cs : List Clause} (h : AllAnd cs) : AllAnd (loose cs) :=
  fun c hc => h c (List.mem_filter.mp hc).1

theorem leadWithAnd_eq_self {cs : List Clause} (h : AllAnd cs) : leadWithAnd cs = cs := by
  cases cs with
  | nil => rfl
  | cons c rest =>
      obtain ⟨k, p⟩ := c
      have hk : k = .and := h ⟨k, p⟩ (List.mem_cons_self ..)
      rw [leadWithAnd, hk]

end Clause

theorem Query.merge_eq (q : Query) (cs : List Clause) :
    q.merge cs = { q with clauses := q.clauses ++ Clause.merged cs } := by
  obtain ⟨source, projection, clauses⟩ := q
  match cs with
  | [] => simp only [merge, Clause.merged, List.append_nil]
  | [c] => rfl
  | c :: d :: rest =>
      simp only [merge, Clause.merged]
      split
      · rfl
      · rfl

/-- How many correlations went, and the query that is left. -/
theorem Query.decorrelate_pair (q : Query) :
    q.decorrelate = (q.clauses.countP (·.predicate.isCorrelation),
      { q with clauses := Clause.leadWithAnd (Clause.loose q.clauses) }) := by
  have hcount := q.clauses.length_eq_countP_add_countP (·.predicate.isCorrelation)
  have hkept : (Clause.loose q.clauses).length =
      q.clauses.countP (¬ ·.predicate.isCorrelation = true) := by
    rw [Clause.loose, ← List.countP_eq_length_filter]
    congr 1
    funext c
    simp
  have hwent : q.clauses.length - (Clause.loose q.clauses).length =
      q.clauses.countP (·.predicate.isCorrelation) := by
    rw [hkept]
    omega
  rw [decorrelate, ← Clause.loose, hwent]

theorem Query.decorrelate_eq {q : Query} (h : Clause.AllAnd q.clauses) :
    q.decorrelate.2 = { q with clauses := Clause.loose q.clauses } := by
  rw [decorrelate_pair, Clause.leadWithAnd_eq_self (Clause.allAnd_loose h)]

end Semijoin
