import Semijoin.Sql.Literal

/-! # String literals read back

A reader of SQL takes an apostrophe for the start of a string literal, which goes on to
the first apostrophe that is not doubled.  `Literal.text_read_back` says that it reads
every text back from its literal, apostrophes and all, and stops right behind it: so no
text ends its literal early or takes in what follows. -/
set_option autoImplicit false
namespace Semijoin

namespace Text

def readBody : List Char → Option (List Char × List Char)
  | [] => none
  | '\x27' :: '\x27' :: rest => (readBody rest).map fun (body, after) => (apostrophe :: body, after)
  | '\x27' :: rest => some ([], rest)
  | c :: rest => (readBody rest).map fun (body, after) => (c :: body, after)

/-- Reads a string literal off the front of a text: what it stands for, and the rest. -/
def unquote? : List Char → Option (String × List Char)
  | '\x27' :: rest => (readBody rest).map fun (body, after) => (String.ofList body, after)
  | _ => none

theorem readBody_of_ne {c : Char} (h : c ≠ apostrophe) (rest : List Char) :
    readBody (c :: rest) = (readBody rest).map fun (body, after) => (c :: body, after) := by
  rw [readBody]
  · rintro _ rfl
    contradiction
  · exact h

theorem readBody_end {suffix : List Char} (h : suffix.head? ≠ some apostrophe) :
    readBody (apostrophe :: suffix) = some ([], suffix) := by
  rw [apostrophe, readBody]
  rintro rest rfl
  exact h rfl

theorem readBody_double {suffix : List Char} (h : suffix.head? ≠ some apostrophe) :
    ∀ body : List Char, readBody (double body ++ apostrophe :: suffix) = some (body, suffix) := by
  intro body
  induction body with
  | nil => exact readBody_end h
  | cons c body ih =>
      rw [double]
      by_cases hc : c = apostrophe
      · subst hc
        rw [if_pos rfl, List.cons_append, List.cons_append, apostrophe, readBody, ← apostrophe, ih]
        rfl
      · rw [if_neg hc, List.cons_append, readBody_of_ne hc, ih]
        rfl

/-- Nothing else is read as the body of a literal. -/
theorem eq_double_of_readBody {text body suffix : List Char}
    (h : readBody text = some (body, suffix)) :
    text = double body ++ apostrophe :: suffix ∧ suffix.head? ≠ some apostrophe := by
  induction text using readBody.induct generalizing body with
  | case1 => cases h
  | case2 rest ih =>
      rw [readBody, Option.map_eq_some_iff] at h
      obtain ⟨⟨inner, after⟩, hinner, heq⟩ := h
      cases heq
      obtain ⟨hrest, hsuffix⟩ := ih hinner
      refine ⟨?_, hsuffix⟩
      rw [hrest, double, if_pos rfl]
      rfl
  | case3 rest hrest =>
      rw [readBody] at h
      · cases h
        refine ⟨rfl, fun hhead => ?_⟩
        obtain ⟨tail, htail⟩ := List.head?_eq_some_iff.mp hhead
        exact hrest tail htail
      · exact hrest
  | case4 c rest _ hother ih =>
      have hc : c ≠ apostrophe := hother
      rw [readBody_of_ne hc, Option.map_eq_some_iff] at h
      obtain ⟨⟨inner, after⟩, hinner, heq⟩ := h
      cases heq
      obtain ⟨hrest, hsuffix⟩ := ih hinner
      refine ⟨?_, hsuffix⟩
      rw [hrest, double, if_neg hc]
      rfl

theorem unquote?_eq_some_iff {text suffix : List Char} {s : String} :
    unquote? text = some (s, suffix) ↔
      text = (quote s).toList ++ suffix ∧ suffix.head? ≠ some apostrophe := by
  rw [quote_append]
  constructor
  · intro h
    rw [unquote?.eq_def] at h
    split at h
    · rename_i rest
      obtain ⟨⟨body, after⟩, hbody, heq⟩ := Option.map_eq_some_iff.mp h
      cases heq
      obtain ⟨hrest, hsuffix⟩ := eq_double_of_readBody hbody
      rw [String.toList_ofList, hrest]
      exact ⟨rfl, hsuffix⟩
    · cases h
  · rintro ⟨rfl, hsuffix⟩
    rw [apostrophe, unquote?, ← apostrophe, readBody_double hsuffix]
    simp only [Option.map_some, String.ofList_toList]

end Text

/-- The literal of a text, with anything behind it but an apostrophe, is read as that text
and is left where it ends, and no other text reads so; different texts have different
literals. -/
theorem Literal.text_read_back (v w : String) (text suffix : List Char) :
    (Text.unquote? text = some (v, suffix) ↔
      text = (Literal.text v).render.toList ++ suffix ∧
        suffix.head? ≠ some Text.apostrophe) ∧
    ((Literal.text v).render = (Literal.text w).render ↔ v = w) := by
  have hread : ∀ s : String, Text.unquote? (Literal.text s).render.toList = some (s, []) := by
    intro s
    rw [Text.unquote?_eq_some_iff, List.append_nil]
    exact ⟨rfl, nofun⟩
  refine ⟨Text.unquote?_eq_some_iff, fun h => ?_, ?_⟩
  · have hv := hread v
    rw [h, hread w] at hv
    cases hv
    rfl
  · rintro rfl
    rfl

/-- A text that looks like the end of its literal and more of the query. -/
example : Text.unquote? "'it'' OR ''1''=''1' OR x = 1".toList =
    some ("it' OR '1'='1", " OR x = 1".toList) := by decide

end Semijoin
