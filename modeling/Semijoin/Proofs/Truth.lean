import Semijoin.Sql.Query

/-! # Three-valued truth

A comparison with a missing value is unknown, and so may be what is made of it.
A list of clauses is the "or" of its longest and-ed runs: the first connective
joins nothing, and the empty list is true. -/
set_option autoImplicit false
namespace Semijoin

inductive Truth where
  | yes | no | unknown
deriving DecidableEq, Repr

namespace Truth

def ofBool : Bool → Truth
  | true => yes
  | false => no

def not : Truth → Truth
  | yes => no
  | no => yes
  | unknown => unknown

def and : Truth → Truth → Truth
  | no, _ => no
  | _, no => no
  | yes, yes => yes
  | _, _ => unknown

def or : Truth → Truth → Truth
  | yes, _ => yes
  | _, yes => yes
  | no, no => no
  | _, _ => unknown

def negatedIf (t : Truth) (negated : Bool) : Truth := if negated then t.not else t

/-- An and-ed run so far, and the clauses that follow. -/
def ofRun (run : Truth) : List (Connective × Truth) → Truth
  | [] => run
  | (.and, t) :: rest => ofRun (run.and t) rest
  | (.or, t) :: rest => run.or (ofRun t rest)

def ofClauses : List (Connective × Truth) → Truth
  | [] => yes
  | (_, t) :: rest => ofRun t rest

theorem ofBool_eq_yes (b : Bool) : ofBool b = yes ↔ b = true := by
  cases b with
  | true => exact ⟨fun _ => rfl, fun _ => rfl⟩
  | false => exact ⟨nofun, nofun⟩

theorem not_eq_yes (t : Truth) : t.not = yes ↔ t = no := by
  cases t with
  | yes => exact ⟨nofun, nofun⟩
  | no => exact ⟨fun _ => rfl, fun _ => rfl⟩
  | unknown => exact ⟨nofun, nofun⟩

theorem not_ofBool (b : Bool) : (ofBool b).not = ofBool (!b) := by
  cases b with
  | true => rfl
  | false => rfl

theorem and_eq_yes (a b : Truth) : a.and b = yes ↔ a = yes ∧ b = yes := by
  cases a with
  | yes => cases b <;> simp [and]
  | no => simp [and]
  | unknown => cases b <;> simp [and]

theorem or_eq_yes (a b : Truth) : a.or b = yes ↔ a = yes ∨ b = yes := by
  cases a with
  | yes => simp [or]
  | no => cases b <;> simp [or]
  | unknown => cases b <;> simp [or]

theorem ofRun_allAnd : ∀ (clauses : List (Connective × Truth)) (run : Truth),
    (∀ c ∈ clauses, c.1 = .and) →
      (ofRun run clauses = yes ↔ run = yes ∧ ∀ c ∈ clauses, c.2 = yes) := by
  intro clauses
  induction clauses with
  | nil => intro run _; simp [ofRun]
  | cons c rest ih =>
      intro run hand
      obtain ⟨k, t⟩ := c
      have hk : k = .and := hand (k, t) (List.mem_cons_self ..)
      subst hk
      rw [ofRun, ih (run.and t) fun c hc => hand c (List.mem_cons_of_mem _ hc), and_eq_yes,
        List.forall_mem_cons, and_assoc]

theorem ofClauses_allAnd {clauses : List (Connective × Truth)} (h : ∀ c ∈ clauses, c.1 = .and) :
    ofClauses clauses = yes ↔ ∀ c ∈ clauses, c.2 = yes := by
  cases clauses with
  | nil => simp [ofClauses]
  | cons c rest =>
      obtain ⟨k, t⟩ := c
      rw [ofClauses, ofRun_allAnd rest t fun c hc => h c (List.mem_cons_of_mem _ hc),
        List.forall_mem_cons]

theorem ofRun_append_mono (k : Connective) {t t' : Truth} (h : t = yes → t' = yes) :
    ∀ (clauses : List (Connective × Truth)) (run run' : Truth), (run = yes → run' = yes) →
      ofRun run (clauses ++ [(k, t)]) = yes → ofRun run' (clauses ++ [(k, t')]) = yes := by
  intro clauses
  induction clauses with
  | nil =>
      intro run run' hrun hyes
      cases k with
      | and =>
          simp only [List.nil_append, ofRun, and_eq_yes] at hyes ⊢
          exact ⟨hrun hyes.1, h hyes.2⟩
      | or =>
          simp only [List.nil_append, ofRun, or_eq_yes] at hyes ⊢
          exact hyes.imp hrun h
  | cons c rest ih =>
      intro run run' hrun hyes
      obtain ⟨k', s⟩ := c
      cases k' with
      | and =>
          -- the run goes on, so its verdict may differ in the two lists
          refine ih (run.and s) (run'.and s) ?_ hyes
          rw [and_eq_yes, and_eq_yes]
          exact fun hs => ⟨hrun hs.1, hs.2⟩
      | or =>
          -- the clause starts a run of its own, which is the same in both
          simp only [List.cons_append, ofRun, or_eq_yes] at hyes ⊢
          exact hyes.imp hrun (ih s s id)

/-- A list that is true stays true if its last clause is true in more cases. -/
theorem ofClauses_append_mono (clauses : List (Connective × Truth)) (k : Connective)
    {t t' : Truth} (h : t = yes → t' = yes) (hyes : ofClauses (clauses ++ [(k, t)]) = yes) :
    ofClauses (clauses ++ [(k, t')]) = yes := by
  cases clauses with
  | nil => exact h hyes
  | cons c rest => exact ofRun_append_mono k h rest c.2 c.2 id hyes

end Truth
end Semijoin
