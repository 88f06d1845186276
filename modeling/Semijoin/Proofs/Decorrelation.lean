import Semijoin.Proofs.Merging

/-! # Cutting a query loose

A query that is cut loose keeps its clauses in order, predicates and all, but for its own
correlations; the first clause it keeps follows nothing, so it is and-ed.  What is left and
what was cut make up the query again: as long as no clause but the first is joined by "or",
its clauses have the value of those that are left and of the correlations together
(`Query.decorrelate_splits`), with all three truth values. -/
set_option autoImplicit false
namespace Semijoin

universe u

/-! ## Conjunctions -/

namespace Truth

theorem and_comm (a b : Truth) : a.and b = b.and a := by
  cases a <;> cases b <;> rfl

theorem and_left_comm (a b c : Truth) : a.and (b.and c) = b.and (a.and c) := by
  rw [← and_assoc, and_comm a b, and_assoc]

/-- The "and" of some verdicts. -/
def all : List Truth → Truth
  | [] => yes
  | t :: rest => t.and (all rest)

/-- Two kinds of verdicts can be taken together apart. -/
theorem all_map_filter {α : Type u} (f : α → Truth) (p : α → Bool) (l : List α) :
    all (l.map f) = (all ((l.filter (!p ·)).map f)).and (all ((l.filter p).map f)) := by
  induction l with
  | nil => rfl
  | cons a rest ih =>
      rw [List.map_cons, all, ih]
      cases ha : p a with
      | true =>
          rw [List.filter_cons_of_neg (by simp [ha]), List.filter_cons_of_pos ha, List.map_cons, all,
            and_left_comm]
      | false =>
          rw [List.filter_cons_of_pos (by simp [ha]), List.filter_cons_of_neg (by simp [ha]),
            List.map_cons, all, and_assoc]

theorem ofClauses_eq_all {clauses : List (Connective × Truth)}
    (h : ∀ c ∈ clauses.tail, c.1 = .and) : ofClauses clauses = all (clauses.map Prod.snd) := by
  induction clauses with
  | nil => rfl
  | cons c rest ih =>
      have hand : ∀ d ∈ rest, d.1 = .and := h
      have hrest := ih fun d hd => hand d (List.mem_of_mem_tail hd)
      rw [ofClauses, ofRun_eq_and _ hand, hrest, List.map_cons, all]

end Truth

theorem Valuation.list_eq_all (v : Valuation) {cs : List Clause} (h : Clause.AllAnd cs.tail) :
    v.list cs = .all (cs.map fun c => v.of c.predicate) := by
  rw [list, Truth.ofClauses_eq_all, List.map_map]
  · rfl
  · rw [← List.map_tail, List.forall_mem_map]
    exact h

/-! ## The clauses that are left -/

namespace Clause

theorem getElem?_leadWithAnd (cs : List Clause) (i : Nat) :
    (leadWithAnd cs)[i]? =
      cs[i]?.map fun c => if i = 0 then { c with connective := .and } else c := by
  cases cs with
  | nil => rfl
  | cons c rest =>
      cases i with
      | zero => rfl
      | succ i => simp [leadWithAnd]

theorem map_leadWithAnd {α : Type u} (f : Predicate → α) (cs : List Clause) :
    (leadWithAnd cs).map (fun c => f c.predicate) = cs.map fun c => f c.predicate := by
  cases cs with
  | nil => rfl
  | cons c rest => rfl

theorem leadWithAnd_leadWithAnd (cs : List Clause) : leadWithAnd (leadWithAnd cs) = leadWithAnd cs := by
  cases cs with
  | nil => rfl
  | cons c rest => rfl

theorem uncorrelated_leadWithAnd {cs : List Clause} (h : Uncorrelated cs) :
    Uncorrelated (leadWithAnd cs) := by
  cases cs with
  | nil => exact h
  | cons c rest =>
      intro d hd
      rcases List.mem_cons.mp hd with rfl | hd
      · exact h c (List.mem_cons_self ..)
      · exact h d (List.mem_cons_of_mem _ hd)

theorem allAnd_leadWithAnd {cs : List Clause} (h : AllAnd cs.tail) : AllAnd (leadWithAnd cs) := by
  cases cs with
  | nil => exact fun _ hc => absurd hc List.not_mem_nil
  | cons c rest => exact (allAnd_cons _ _).mpr ⟨rfl, h⟩

/-- Where the first clause goes, one that was not first leads, and it was and-ed. -/
theorem allAnd_tail_filter {cs : List Clause} (h : AllAnd cs.tail) (p : Clause → Bool) :
    AllAnd (cs.filter p).tail := by
  cases cs with
  | nil => exact h
  | cons c rest =>
      have hrest : AllAnd (rest.filter p) := fun d hd => h d (List.mem_of_mem_filter hd)
      by_cases hc : p c = true
      · rw [List.filter_cons_of_pos hc]
        exact hrest
      · rw [List.filter_cons_of_neg hc]
        exact fun d hd => hrest d (List.mem_of_mem_tail hd)

end Clause

namespace Query

theorem decorrelate_of_uncorrelated {q : Query} (h : Clause.Uncorrelated q.clauses) :
    q.decorrelate = (0, { q with clauses := Clause.leadWithAnd q.clauses }) := by
  have hnone : q.clauses.countP (·.predicate.isCorrelation) = 0 := by
    rw [List.countP_eq_zero]
    intro c hc
    rw [h c hc]
    exact Bool.false_ne_true
  rw [decorrelate_pair, hnone, Clause.loose_eq_self h]

theorem isCorrelated_eq_false_iff {q : Query} :
    q.isCorrelated = false ↔ Clause.Uncorrelated q.clauses := by
  rw [isCorrelated, List.any_eq_false, Clause.Uncorrelated]
  simp only [Bool.not_eq_true]

theorem list_decorrelate (v : Valuation) {q : Query} (h : Clause.AllAnd q.clauses.tail) :
    v.list q.clauses = (v.list q.decorrelate.2.clauses).and
      (.all ((q.clauses.filter (·.predicate.isCorrelation)).map fun c => v.of c.predicate)) := by
  have hkept : Clause.AllAnd (Clause.leadWithAnd (Clause.loose q.clauses)).tail := fun c hc =>
    Clause.allAnd_leadWithAnd (Clause.allAnd_tail_filter h _) c (List.mem_of_mem_tail hc)
  rw [v.list_eq_all h, decorrelate_pair, v.list_eq_all hkept, Clause.map_leadWithAnd,
    Truth.all_map_filter _ fun c : Clause => c.predicate.isCorrelation]
  rfl

/-- Cutting a query loose says how many correlations it had.  It leaves the other clauses in
their order, each as it was, but that the first of them is and-ed; source and projection
stay.  The query left is not correlated, and to cut it again changes nothing.  If no clause
but the first was joined by "or", the clauses had everywhere the value of those that are left
and all the correlations. -/
theorem decorrelate_splits (q : Query) :
    q.decorrelate.1 = q.clauses.countP (·.predicate.isCorrelation) ∧
    (∀ i : Nat, q.decorrelate.2.clauses[i]? =
      (q.clauses.filter fun c => !c.predicate.isCorrelation)[i]?.map fun c =>
        if i = 0 then ⟨.and, c.predicate⟩ else c) ∧
    q.decorrelate.2.source = q.source ∧ q.decorrelate.2.projection = q.projection ∧
    q.decorrelate.2.isCorrelated = false ∧
    q.decorrelate.2.decorrelate = (0, q.decorrelate.2) ∧
    (Clause.AllAnd q.clauses.tail → ∀ (w : World) (env : Env),
      Clause.truth w q.clauses env = (Clause.truth w q.decorrelate.2.clauses env).and
        (.all ((q.clauses.filter (·.predicate.isCorrelation)).map (·.predicate.eval w env)))) := by
  have hloose : Clause.Uncorrelated (Clause.leadWithAnd (Clause.loose q.clauses)) :=
    Clause.uncorrelated_leadWithAnd (Clause.uncorrelated_loose _)
  refine ⟨?_, fun i => ?_, ?_, ?_, ?_, ?_, fun h w env => ?_⟩
  · rw [decorrelate_pair]
  · rw [decorrelate_pair]
    exact Clause.getElem?_leadWithAnd _ i
  · rw [decorrelate_pair]
  · rw [decorrelate_pair]
  · rw [decorrelate_pair]
    exact isCorrelated_eq_false_iff.mpr hloose
  · rw [q.decorrelate_pair, decorrelate_of_uncorrelated hloose, Clause.leadWithAnd_leadWithAnd]
  · rw [Clause.truth_eq_list, Clause.truth_eq_list]
    exact list_decorrelate (w.valuation env) h

end Query

namespace Board

def ofPost : Predicate := .correlate (.qualified "posts" "id") (.qualified "comments" "post_id")

def byAuthor : Predicate :=
  .correlate (.qualified "posts" "author_id") (.qualified "comments" "author_id")

/-- Comments of a post that are approved, by the post's author, and, once more, of the post. -/
def tied : Query where
  source := .ofTable "comments"
  projection := .all
  clauses := [⟨.or, ofPost⟩, ⟨.and, .compare (.bare "approved") .eq (.bool true)⟩, ⟨.and, byAuthor⟩,
    ⟨.and, .group [⟨.and, ofPost⟩]⟩]

/-- An approved comment of a post, and around it the post; neither has an author. -/
def commentOfPost : Env :=
  [("comments", row [("post_id", .int 1), ("approved", .bool true)]),
    ("posts", row [("id", .int 1)])]

/-- Two correlations go, the one in the group stays.  What is left is true, and whether the
comment is by the post's author is not known. -/
theorem decorrelate_splits_tied :
    tied.decorrelate.1 = 2 ∧
      tied.decorrelate.2.clauses[1]? = some ⟨.and, .group [⟨.and, ofPost⟩]⟩ ∧
      Clause.AllAnd tied.clauses.tail ∧
      Clause.truth world tied.decorrelate.2.clauses commentOfPost = .yes ∧
      Clause.truth world tied.clauses commentOfPost = .unknown := by
  obtain ⟨hcount, hclauses, -, -, -, -, hvalue⟩ := tied.decorrelate_splits
  have htail : Clause.AllAnd tied.clauses.tail := by
    intro c hc
    simp only [tied, List.tail_cons, List.mem_cons, List.not_mem_nil, or_false] at hc
    rcases hc with rfl | rfl | rfl <;> rfl
  refine ⟨hcount.trans rfl, (hclauses 1).trans rfl, htail, by decide, ?_⟩
  rw [hvalue htail world commentOfPost]
  decide

end Board
end Semijoin
