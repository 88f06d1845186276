import Semijoin.Proofs.Reach

/-! # Merging is conjunction

As long as no clause of a query but the first is joined by "or", clauses that are
all and-ed can be put behind its own, and the list is the "and" of both
(`Truth.ofClauses_append`).  Merging adds only such clauses, and what it adds has
the value of the list it was given.  So `Query.merge_conjoins` says that merging is
conjunction for every meaning of predicates, with all three truth values, however
the merged clauses are joined. -/
set_option autoImplicit false
namespace Semijoin

namespace Truth

theorem yes_and (t : Truth) : yes.and t = t := by
  cases t <;> rfl

theorem and_yes (t : Truth) : t.and yes = t := by
  cases t <;> rfl

theorem and_assoc (a b c : Truth) : (a.and b).and c = a.and (b.and c) := by
  cases a <;> cases b <;> cases c <;> rfl

theorem ofRun_and : ∀ (clauses : List (Connective × Truth)) (a b : Truth),
    (∀ c ∈ clauses, c.1 = .and) → ofRun (a.and b) clauses = a.and (ofRun b clauses) := by
  intro clauses
  induction clauses with
  | nil => intro a b _; rfl
  | cons c rest ih =>
      intro a b hand
      obtain ⟨k, t⟩ := c
      obtain ⟨rfl, hrest⟩ := List.forall_mem_cons.mp hand
      rw [ofRun, ofRun, and_assoc, ih a (b.and t) hrest]

/-- A run goes on through and-ed clauses. -/
theorem ofRun_append (later : List (Connective × Truth)) :
    ∀ (clauses : List (Connective × Truth)) (run : Truth), (∀ c ∈ clauses, c.1 = .and) →
      ofRun run (clauses ++ later) = ofRun (ofRun run clauses) later := by
  intro clauses
  induction clauses with
  | nil => intro run _; rfl
  | cons c rest ih =>
      intro run hand
      obtain ⟨k, t⟩ := c
      obtain ⟨rfl, hrest⟩ := List.forall_mem_cons.mp hand
      rw [List.cons_append, ofRun, ofRun, ih (run.and t) hrest]

theorem ofRun_eq_and (run : Truth) {clauses : List (Connective × Truth)}
    (h : ∀ c ∈ clauses, c.1 = .and) : ofRun run clauses = run.and (ofClauses clauses) := by
  cases clauses with
  | nil => exact (and_yes run).symm
  | cons c rest =>
      obtain ⟨k, t⟩ := c
      obtain ⟨rfl, hrest⟩ := List.forall_mem_cons.mp h
      rw [ofRun, ofClauses, ofRun_and rest run t hrest]

/-- And-ed clauses behind a list without an "or" that joins two of its clauses. -/
theorem ofClauses_append {clauses later : List (Connective × Truth)}
    (h : ∀ c ∈ clauses.tail, c.1 = .and) (hlater : ∀ c ∈ later, c.1 = .and) :
    ofClauses (clauses ++ later) = (ofClauses clauses).and (ofClauses later) := by
  cases clauses with
  | nil => exact (yes_and _).symm
  | cons c rest =>
      rw [List.cons_append, ofClauses, ofClauses, ofRun_append later rest c.2 h, ofRun_eq_and _ hlater]

end Truth

theorem Valuation.list_append (v : Valuation) {cs ds : List Clause} (hcs : Clause.AllAnd cs.tail)
    (hds : Clause.AllAnd ds) : v.list (cs ++ ds) = (v.list cs).and (v.list ds) := by
  rw [list, List.map_append, Truth.ofClauses_append]
  · rfl
  · rw [← List.map_tail, List.forall_mem_map]
    exact hcs
  · rw [List.forall_mem_map]
    exact hds

theorem Clause.allAnd_tail_append {cs ds : List Clause} (hcs : AllAnd cs.tail) (hds : AllAnd ds) :
    AllAnd (cs ++ ds).tail := by
  cases cs with
  | nil => exact fun c hc => hds c (List.mem_of_mem_tail hc)
  | cons c rest => exact (allAnd_append rest ds).mpr ⟨hcs, hds⟩

namespace Query

variable {q : Query}

theorem list_merge (v : Valuation) (h : Clause.AllAnd q.clauses.tail) (cs : List Clause) :
    v.list (q.merge cs).clauses = (v.list q.clauses).and (v.list cs) := by
  rw [merge_eq, v.list_append h (Clause.allAnd_merged cs), v.list_merged]

theorem allAnd_tail_merge (h : Clause.AllAnd q.clauses.tail) (cs : List Clause) :
    Clause.AllAnd (q.merge cs).clauses.tail := by
  rw [merge_eq]
  exact Clause.allAnd_tail_append h (Clause.allAnd_merged cs)

theorem list_mergeAll (v : Valuation) : ∀ (lists : List (List Clause)) {q : Query},
    Clause.AllAnd q.clauses.tail → v.list (lists.foldl merge q).clauses =
      lists.foldl (fun t cs => t.and (v.list cs)) (v.list q.clauses) := by
  intro lists
  induction lists with
  | nil => intro q _; rfl
  | cons cs rest ih =>
      intro q h
      rw [List.foldl_cons, ih (allAnd_tail_merge h cs), list_merge v h, List.foldl_cons]

/-- Take a query none of whose clauses but the first is joined by "or".  Whatever
list is merged into it, its clauses then have the value of what they were and the
list, the list being read on its own; so the rows it keeps are those it kept before
on which the list is true.  It is again such a query, so this goes for one merge
after the other.  Its source and its projection stay. -/
theorem merge_conjoins (h : Clause.AllAnd q.clauses.tail) (cs : List Clause) :
    (∀ v : Valuation, v.list (q.merge cs).clauses = (v.list q.clauses).and (v.list cs)) ∧
    Clause.AllAnd (q.merge cs).clauses.tail ∧
    (q.merge cs).source = q.source ∧ (q.merge cs).projection = q.projection ∧
    (∀ (v : Valuation) (lists : List (List Clause)), v.list (lists.foldl merge q).clauses =
      lists.foldl (fun t ds => t.and (v.list ds)) (v.list q.clauses)) ∧
    ∀ (w : World) (env : Env), (q.merge cs).kept w env =
      (q.kept w env).filter fun row =>
        Clause.truth w cs ((q.source.reference, row) :: env) = .yes := by
  have hsame : (q.merge cs).source = q.source ∧ (q.merge cs).projection = q.projection := by
    rw [merge_eq]
    exact ⟨rfl, rfl⟩
  refine ⟨fun v => list_merge v h cs, allAnd_tail_merge h cs, hsame.1, hsame.2,
    fun v lists => list_mergeAll v lists h, fun w env => ?_⟩
  rw [kept_eq, kept_eq, hsame.1, List.filter_filter]
  apply List.filter_congr
  intro row _
  rw [Clause.truth_eq_list, Clause.truth_eq_list, Clause.truth_eq_list, list_merge _ h,
    ← Bool.decide_and, decide_eq_decide, Truth.and_eq_yes]
  exact and_comm

end Query

namespace Board

/-- Comments that are approved; the "or" joins nothing. -/
def approved : Query :=
  (Query.ofTable "comments").disjoin (.compare (.bare "approved") .eq (.bool true))

def ofOneOrPinned : List Clause :=
  [⟨.or, .compare (.bare "post_id") .eq (.int 1)⟩, ⟨.or, .compare (.bare "pinned") .eq (.bool true)⟩]

def pinnedReply : Row :=
  row [("id", .int 13), ("parent_id", .int 10), ("pinned", .bool true), ("read_at", .int 8)]

/-- Of the reply it is not known whether it is approved. -/
theorem merge_conjoins_approved :
    Clause.AllAnd approved.clauses.tail ∧
      (world.valuation [("comments", pinnedReply)]).list (approved.merge ofOneOrPinned).clauses =
        .unknown ∧
      Clause.AllAnd (approved.merge ofOneOrPinned).clauses.tail ∧
      ((approved.merge ofOneOrPinned).kept world []).map (· "id") = [.int 10] := by
  have htail : Clause.AllAnd approved.clauses.tail := nofun
  obtain ⟨hvalue, hafter, -, -, -, hkept⟩ := Query.merge_conjoins htail ofOneOrPinned
  refine ⟨htail, ?_, hafter, ?_⟩
  · rw [hvalue]
    decide
  · rw [hkept]
    decide

end Board
end Semijoin
