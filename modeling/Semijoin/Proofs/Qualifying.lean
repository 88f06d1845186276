import Semijoin.Sql.Column

/-! # Columns read back

A text is read as a column by its last dot, if it has one (`Text.LastDot`).  Whatever is
read prints as the text it was read from, but not every column is read back from its print:
`Column.text_read_exact` tells which texts are read as qualified, and which columns their
texts stand for (`Column.IsSpelled`). -/
set_option autoImplicit false
namespace Semijoin

/-! ## The last dot of a text -/

namespace Text

variable {sep : Char}

theorem splitLast_of_notMem : ∀ {cs : List Char}, sep ∉ cs → splitLast sep cs = none := by
  intro cs
  induction cs with
  | nil => intro _; rfl
  | cons c rest ih =>
      intro h
      rw [List.mem_cons, not_or] at h
      obtain ⟨hc, hrest⟩ := h
      rw [splitLast, ih hrest]
      exact if_neg (Ne.symm hc)

theorem splitLast_append {after : List Char} (h : sep ∉ after) :
    ∀ before : List Char, splitLast sep (before ++ sep :: after) = some (before, after) := by
  intro before
  induction before with
  | nil =>
      rw [List.nil_append, splitLast, splitLast_of_notMem h]
      exact if_pos rfl
  | cons c before ih => rw [List.cons_append, splitLast, ih]

/-- What is split is split at a separator with none behind it, and what is not split has
none. -/
theorem splitLast_verdict (sep : Char) : ∀ cs : List Char,
    match splitLast sep cs with
    | some (before, after) => cs = before ++ sep :: after ∧ sep ∉ after
    | none => sep ∉ cs := by
  intro cs
  induction cs with
  | nil => exact List.not_mem_nil
  | cons c rest ih =>
      rw [splitLast]
      cases hrest : splitLast sep rest with
      | some parts =>
          rw [hrest] at ih
          obtain ⟨hsplit, hafter⟩ := ih
          exact ⟨by rw [hsplit, List.cons_append], hafter⟩
      | none =>
          rw [hrest] at ih
          by_cases hc : c = sep
          · simp only [if_pos hc]
            exact ⟨by rw [hc, List.nil_append], ih⟩
          · simp only [if_neg hc]
            rw [List.mem_cons, not_or]
            exact ⟨Ne.symm hc, ih⟩

/-- The text has a dot, `before` is what stands before its last one and `after` what stands
behind. -/
def LastDot (text before after : String) : Prop :=
  text = before ++ "." ++ after ∧ '.' ∉ after.toList

theorem eq_append_dot_iff {text before after : String} :
    text = before ++ "." ++ after ↔ text.toList = before.toList ++ '.' :: after.toList := by
  rw [← String.toList_inj, String.toList_append, String.toList_append, List.append_assoc]
  rfl

theorem lastDot_iff {text before after : String} :
    LastDot text before after ↔
      splitLast '.' text.toList = some (before.toList, after.toList) := by
  rw [LastDot, eq_append_dot_iff]
  constructor
  · rintro ⟨htext, hafter⟩
    rw [htext, splitLast_append hafter]
  · intro h
    have hverdict := splitLast_verdict '.' text.toList
    rw [h] at hverdict
    exact hverdict

theorem LastDot.unique {text before after before' after' : String}
    (h : LastDot text before after) (h' : LastDot text before' after') :
    before = before' ∧ after = after' := by
  rw [lastDot_iff] at h h'
  rw [h, Option.some.injEq, Prod.mk.injEq, String.toList_inj, String.toList_inj] at h'
  exact h'

theorem exists_lastDot_iff {text : String} :
    (∃ before after, LastDot text before after) ↔ '.' ∈ text.toList := by
  constructor
  · rintro ⟨before, after, htext, -⟩
    rw [eq_append_dot_iff.mp htext]
    exact List.mem_append_right _ (List.mem_cons_self ..)
  · intro hdot
    have hverdict := splitLast_verdict '.' text.toList
    cases hsplit : splitLast '.' text.toList with
    | none =>
        rw [hsplit] at hverdict
        exact absurd hdot hverdict
    | some parts =>
        refine ⟨String.ofList parts.1, String.ofList parts.2, lastDot_iff.mpr ?_⟩
        rw [hsplit, String.toList_ofList, String.toList_ofList]

end Text

/-! ## What a text is read as -/

namespace Column

open Text

variable {text table name : String}

theorem ofString_eq_qualified_of_lastDot (h : LastDot text table name) (htable : table ≠ "")
    (hname : name ≠ "") : ofString text = qualified table name := by
  have hlist : ∀ s : String, s ≠ "" → s.toList ≠ [] := fun s hs hnil =>
    hs (String.toList_injective hnil)
  obtain ⟨c, before, hbefore⟩ := List.exists_cons_of_ne_nil (hlist table htable)
  obtain ⟨d, after, hafter⟩ := List.exists_cons_of_ne_nil (hlist name hname)
  have hsplit := lastDot_iff.mp h
  rw [hbefore, hafter] at hsplit
  rw [ofString, hsplit]
  simp only [← hbefore, ← hafter, String.ofList_toList]

theorem ofString_eq_bare_of_not_lastDot
    (h : ¬ ∃ before after, LastDot text before after ∧ before ≠ "" ∧ after ≠ "") :
    ofString text = bare text := by
  rw [ofString]
  split
  · rename_i c before d after hsplit
    have hcons : ∀ (c : Char) (cs : List Char), String.ofList (c :: cs) ≠ "" := fun c cs hempty =>
      List.cons_ne_nil c cs (String.ofList_injective hempty)
    refine absurd ⟨String.ofList (c :: before), String.ofList (d :: after), ?_, hcons _ _,
      hcons _ _⟩ h
    rw [lastDot_iff, hsplit, String.toList_ofList, String.toList_ofList]
  · rfl

theorem ofString_eq_qualified_iff :
    ofString text = qualified table name ↔ LastDot text table name ∧ table ≠ "" ∧ name ≠ "" := by
  constructor
  · intro h
    by_cases hdot : ∃ before after, LastDot text before after ∧ before ≠ "" ∧ after ≠ ""
    · obtain ⟨before, after, hlast, hbefore, hafter⟩ := hdot
      rw [ofString_eq_qualified_of_lastDot hlast hbefore hafter] at h
      cases h
      exact ⟨hlast, hbefore, hafter⟩
    · rw [ofString_eq_bare_of_not_lastDot hdot] at h
      cases h
  · rintro ⟨hlast, htable, hname⟩
    exact ofString_eq_qualified_of_lastDot hlast htable hname

theorem ofString_eq_bare_iff :
    ofString text = bare text ↔
      ¬ ∃ before after, LastDot text before after ∧ before ≠ "" ∧ after ≠ "" := by
  refine ⟨?_, ofString_eq_bare_of_not_lastDot⟩
  rintro h ⟨before, after, hlast, hbefore, hafter⟩
  rw [ofString_eq_qualified_of_lastDot hlast hbefore hafter] at h
  cases h

/-- A text is read whole or in two parts. -/
theorem ofString_cases (text : String) : ofString text = bare text ∨
    ∃ table name, ofString text = qualified table name := by
  by_cases hdot : ∃ before after, LastDot text before after ∧ before ≠ "" ∧ after ≠ ""
  · obtain ⟨before, after, hlast⟩ := hdot
    exact .inr ⟨before, after, ofString_eq_qualified_iff.mpr hlast⟩
  · exact .inl (ofString_eq_bare_iff.mpr hdot)

theorem render_ofString (text : String) : (ofString text).render = text := by
  rcases ofString_cases text with h | ⟨table, name, h⟩
  · rw [h]
    rfl
  · rw [h]
    obtain ⟨⟨htext, -⟩, -⟩ := ofString_eq_qualified_iff.mp h
    exact htext.symm

theorem isQualified_ofString_iff (text : String) : (ofString text).isQualified = true ↔
    ∃ before after, LastDot text before after ∧ before ≠ "" ∧ after ≠ "" := by
  constructor
  · intro h
    rcases ofString_cases text with hbare | ⟨table, name, hqualified⟩
    · rw [hbare] at h
      cases h
    · exact ⟨table, name, ofString_eq_qualified_iff.mp hqualified⟩
  · rintro ⟨before, after, hlast⟩
    rw [ofString_eq_qualified_iff.mpr hlast]
    rfl

/-! ## Columns and their own texts -/

/-- The text of the column stands for the column: qualified, it has two parts and the last
dot is the one between them; bare, it has no dot or its last one is at an end. -/
def IsSpelled (c : Column) : Prop :=
  match c.table with
  | some table => table ≠ "" ∧ c.name ≠ "" ∧ '.' ∉ c.name.toList
  | none => '.' ∉ c.name.toList ∨ (∃ after, LastDot c.name "" after) ∨
      ∃ before, LastDot c.name before ""

theorem ofString_render_qualified_iff :
    ofString (qualified table name).render = qualified table name ↔
      table ≠ "" ∧ name ≠ "" ∧ '.' ∉ name.toList := by
  rw [ofString_eq_qualified_iff, LastDot]
  constructor
  · rintro ⟨⟨-, hdot⟩, htable, hname⟩
    exact ⟨htable, hname, hdot⟩
  · rintro ⟨htable, hname, hdot⟩
    exact ⟨⟨rfl, hdot⟩, htable, hname⟩

theorem ofString_eq_bare_iff_ends :
    ofString name = bare name ↔ '.' ∉ name.toList ∨ (∃ after, LastDot name "" after) ∨
      ∃ before, LastDot name before "" := by
  rw [ofString_eq_bare_iff]
  constructor
  · intro hends
    by_cases hdot : '.' ∈ name.toList
    · obtain ⟨before, after, hlast⟩ := exists_lastDot_iff.mpr hdot
      by_cases hbefore : before = ""
      · exact .inr (.inl ⟨after, hbefore ▸ hlast⟩)
      · by_cases hafter : after = ""
        · exact .inr (.inr ⟨before, hafter ▸ hlast⟩)
        · exact absurd ⟨before, after, hlast, hbefore, hafter⟩ hends
    · exact .inl hdot
  · rintro hends ⟨before, after, hlast, hbefore, hafter⟩
    rcases hends with hdot | ⟨after', hstart⟩ | ⟨before', hfinish⟩
    · exact hdot (exists_lastDot_iff.mp ⟨before, after, hlast⟩)
    · exact hbefore (hlast.unique hstart).1
    · exact hafter (hlast.unique hfinish).2

theorem ofString_render_iff (c : Column) : ofString c.render = c ↔ c.IsSpelled := by
  obtain ⟨table, name⟩ := c
  cases table with
  | some table => exact ofString_render_qualified_iff
  | none => exact ofString_eq_bare_iff_ends

/-- Whatever a text is read as prints as the text, and it is read as qualified exactly if
its last dot has text on both sides.  A column is read back from its print exactly if it is
qualified, neither part is empty and the name has no dot, or if it is bare and its name has
no dot, or the last one at the start or at the end. -/
theorem text_read_exact :
    (∀ text, (ofString text).render = text ∧ ((ofString text).isQualified = true ↔
      ∃ before after, LastDot text before after ∧ before ≠ "" ∧ after ≠ "")) ∧
    ∀ c : Column, ofString c.render = c ↔ c.IsSpelled :=
  ⟨fun text => ⟨render_ofString text, isQualified_ofString_iff text⟩, ofString_render_iff⟩

/-- A column of a table whose name has a dot is read back, a column with a dot in its own
name is not. -/
example : ofString (qualified "app.posts" "id").render = qualified "app.posts" "id" ∧
    ofString (qualified "app" "posts.id").render = qualified "app.posts" "id" := by decide

end Column
end Semijoin
