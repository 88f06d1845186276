/-! # Ranges of code points

A property of characters as a table of closed ranges, ascending and apart; the
tables are of Unicode 17.  The search in a table stops at the first range that
does not end too early (`inRanges_iff`). -/
set_option autoImplicit false
namespace Semijoin.Text

/-- Whether each range ends before the next one starts, with a gap between. -/
def areApart : List (Nat × Nat) → Bool
  | [] => true
  | r :: rest => r.1 ≤ r.2 && rest.head?.all (r.2 + 1 < ·.1) && areApart rest

def inRanges (ranges : List (Nat × Nat)) (n : Nat) : Bool :=
  (ranges.find? (n ≤ ·.2)).any (·.1 ≤ n)

theorem lt_of_areApart {r : Nat × Nat} {rest : List (Nat × Nat)} (h : areApart (r :: rest) = true) :
    ∀ s ∈ rest, r.2 < s.1 := by
  induction rest generalizing r with
  | nil => intro s hs; cases hs
  | cons q rest ih =>
      intro s hs
      simp only [areApart, List.head?_cons, Option.all_some, Bool.and_eq_true,
        decide_eq_true_eq] at h
      rcases List.mem_cons.mp hs with rfl | hs
      · omega
      · have hq : areApart (q :: rest) = true := by
          simp only [areApart, Bool.and_eq_true, decide_eq_true_eq]
          exact h.2
        have := ih hq s hs
        omega

theorem inRanges_iff {ranges : List (Nat × Nat)} (h : areApart ranges = true) (n : Nat) :
    inRanges ranges n = true ↔ ∃ r ∈ ranges, r.1 ≤ n ∧ n ≤ r.2 := by
  induction ranges with
  | nil => simp [inRanges]
  | cons r rest ih =>
      by_cases hn : n ≤ r.2
      · have first : inRanges (r :: rest) n = decide (r.1 ≤ n) := by simp [inRanges, hn]
        rw [first, decide_eq_true_eq]
        constructor
        · intro hr
          exact ⟨r, List.mem_cons_self, hr, hn⟩
        · rintro ⟨s, hs, hsn, _⟩
          rcases List.mem_cons.mp hs with rfl | hs
          · exact hsn
          · have := lt_of_areApart h s hs
            omega
      · have later : inRanges (r :: rest) n = inRanges rest n := by simp [inRanges, hn]
        have hrest : areApart rest = true := by
          simp only [areApart, Bool.and_eq_true] at h
          exact h.2
        rw [later, ih hrest]
        simp [hn]

end Semijoin.Text
