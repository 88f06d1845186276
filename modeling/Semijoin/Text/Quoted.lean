import Semijoin.Text.Combining
import Semijoin.Text.Unseen

/-! # Quoted text

`quote` writes a text as an SQL string literal: between apostrophes, an
apostrophe inside it twice.  `display` writes a text for a diagnostic: between
double quotes, with backslash escapes for the characters that would break the
line or the quotes and for those that no reader can tell from the text around
them. -/
set_option autoImplicit false
namespace Semijoin.Text

def apostrophe : Char := '\x27'

/-- The body of a string literal: every apostrophe doubled, all else as it is. -/
def double : List Char → List Char
  | [] => []
  | c :: rest => if c = apostrophe then c :: c :: double rest else c :: double rest

def quote (s : String) : String :=
  String.ofList (apostrophe :: double s.toList ++ [apostrophe])

theorem quote_append (s : String) (rest : List Char) :
    (quote s).toList ++ rest = apostrophe :: (double s.toList ++ apostrophe :: rest) := by
  rw [quote, String.toList_ofList, List.cons_append, List.cons_append, List.append_assoc,
    List.singleton_append]

/-- Characters that do not show by themselves are written by number. -/
def escape (c : Char) : List Char :=
  if c = '"' then ['\\', '"']
  else if c = '\\' then ['\\', '\\']
  else if c = '\n' then ['\\', 'n']
  else if c = '\t' then ['\\', 't']
  else if c = '\r' then ['\\', 'r']
  else if c = '\x00' then ['\\', '0']
  else if isUnseen c || isCombining c then
    ['\\', 'u', '\x7b'] ++ Nat.toDigits 16 c.toNat ++ ['\x7d']
  else [c]

/-- A character is left as it is unless it has an escape of its own or is one of those that
no reader can tell from the text around them. -/
theorem escape_eq_self_iff (c : Char) : escape c = [c] ↔
    c ∉ ['"', '\\', '\n', '\t', '\r', '\x00'] ∧
      ∀ r ∈ unseenRanges ++ combiningRanges, ¬ (r.1 ≤ c.toNat ∧ c.toNat ≤ r.2) := by
  have hranges : (isUnseen c || isCombining c) = true ↔
      ∃ r ∈ unseenRanges ++ combiningRanges, r.1 ≤ c.toNat ∧ c.toNat ≤ r.2 := by
    simp only [Bool.or_eq_true, isUnseen_iff, isCombining_iff, List.mem_append, or_and_right,
      exists_or]
  by_cases hown : c ∈ ['"', '\\', '\n', '\t', '\r', '\x00']
  · refine ⟨fun h => ?_, fun h => absurd hown h.1⟩
    simp only [List.mem_cons, List.not_mem_nil, or_false] at hown
    rcases hown with rfl | rfl | rfl | rfl | rfl | rfl <;> cases h
  · have hrest : escape c = if isUnseen c || isCombining c then
        ['\\', 'u', '\x7b'] ++ Nat.toDigits 16 c.toNat ++ ['\x7d'] else [c] := by
      simp only [List.mem_cons, List.not_mem_nil, or_false, not_or] at hown
      obtain ⟨hquote, hbackslash, hnewline, htab, hreturn, hnull⟩ := hown
      rw [escape, if_neg hquote, if_neg hbackslash, if_neg hnewline, if_neg htab, if_neg hreturn,
        if_neg hnull]
    rw [hrest]
    constructor
    · intro h
      refine ⟨hown, fun r hr hin => ?_⟩
      rw [if_pos (hranges.mpr ⟨r, hr, hin⟩)] at h
      cases h
    · rintro ⟨-, hnone⟩
      rw [if_neg]
      intro hhidden
      obtain ⟨r, hr, hin⟩ := hranges.mp hhidden
      exact hnone r hr hin

def display (s : String) : String :=
  String.ofList ('"' :: s.toList.flatMap escape ++ ['"'])

end Semijoin.Text
