import Semijoin.Sql.Query

/-! # Equality of queries

Queries are compared by structure: the same table under another label, the same
number as another literal, or the same clauses under another connective are
different.  `Query.beq_iff` says the comparison decides equality. -/
set_option autoImplicit false
namespace Semijoin

mutual

def Predicate.beq : Predicate → Predicate → Bool
  | .compare c op v, .compare c' op' v' => c = c' && op = op' && v = v'
  | .isNull c, .isNull c' => c = c'
  | .isNotNull c, .isNotNull c' => c = c'
  | .correlate o i, .correlate o' i' => o = o' && i = i'
  | .existence q n, .existence q' n' => q.beq q' && n = n'
  | .membership c q n, .membership c' q' n' => c = c' && q.beq q' && n = n'
  | .count q t, .count q' t' => q.beq q' && t = t'
  | .group cs, .group cs' => Clause.beqList cs cs'
  | _, _ => false

def Clause.beqList : List Clause → List Clause → Bool
  | [], [] => true
  | ⟨k, p⟩ :: cs, ⟨k', p'⟩ :: cs' => k = k' && p.beq p' && Clause.beqList cs cs'
  | _, _ => false

def Query.beq : Query → Query → Bool
  | ⟨s, p, cs⟩, ⟨s', p', cs'⟩ => s = s' && p = p' && Clause.beqList cs cs'

end

mutual

theorem Predicate.beq_iff : ∀ a b : Predicate, a.beq b = true ↔ a = b
  | .compare .., b => by cases b <;> simp [Predicate.beq, and_assoc]
  | .isNull _, b => by cases b <;> simp [Predicate.beq]
  | .isNotNull _, b => by cases b <;> simp [Predicate.beq]
  | .correlate .., b => by cases b <;> simp [Predicate.beq]
  | .existence q _, b => by cases b <;> simp [Predicate.beq, Query.beq_iff q]
  | .membership _ q _, b => by cases b <;> simp [Predicate.beq, Query.beq_iff q, and_assoc]
  | .count q _, b => by cases b <;> simp [Predicate.beq, Query.beq_iff q]
  | .group cs, b => by cases b <;> simp [Predicate.beq, Clause.beqList_iff cs]

theorem Clause.beqList_iff : ∀ a b : List Clause, Clause.beqList a b = true ↔ a = b
  | [], b => by cases b <;> simp [Clause.beqList]
  | _ :: _, [] => by simp [Clause.beqList]
  | ⟨_, p⟩ :: cs, ⟨_, _⟩ :: _ => by
    simp [Clause.beqList, Predicate.beq_iff p, Clause.beqList_iff cs, and_assoc]

theorem Query.beq_iff : ∀ a b : Query, a.beq b = true ↔ a = b
  | ⟨_, _, cs⟩, ⟨_, _, _⟩ => by simp [Query.beq, Clause.beqList_iff cs, and_assoc]

end

instance : DecidableEq Predicate := fun a b => decidable_of_iff _ (Predicate.beq_iff a b)
instance : DecidableEq Query := fun a b => decidable_of_iff _ (Query.beq_iff a b)

end Semijoin
