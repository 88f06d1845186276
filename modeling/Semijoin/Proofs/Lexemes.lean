import Semijoin.Sql.Printer

/-! # Lexemes of SQL text

Text falls into lexemes: names, quoted texts, brackets, commas, and symbols, which are
the words that are no names.  `Text.lexemes` finds them without knowing what the text
stands for.  `Query.lexemes_render` says which ones it finds in the text of a query
whose names are names, wherever the query stands: a quoted text is one lexeme,
whatever syntax it holds. -/
set_option autoImplicit false
namespace Semijoin

/-! ## Names -/

namespace Text

/-- Words that are no names. -/
def reserved : List String :=
  ["SELECT", "FROM", "WHERE", "AS", "AND", "OR", "NOT", "EXISTS", "IN", "IS", "NULL", "COUNT",
    "true", "false"]

def isNameChar (c : Char) : Bool := c.isAlphanum || c == '_'

structure IsName (name : String) : Prop where
  nonempty : name.toList ≠ []
  chars : name.toList.all isNameChar = true
  start : name.toList.head?.any Char.isDigit = false
  free : name ∉ reserved

instance (name : String) : Decidable (IsName name) :=
  decidable_of_iff (name.toList ≠ [] ∧ name.toList.all isNameChar = true ∧
      name.toList.head?.any Char.isDigit = false ∧ name ∉ reserved)
    ⟨fun ⟨h₁, h₂, h₃, h₄⟩ => ⟨h₁, h₂, h₃, h₄⟩, fun h => ⟨h.nonempty, h.chars, h.start, h.free⟩⟩

end Text

def Column.names (c : Column) : List String := c.table.toList ++ [c.name]

theorem Column.forall_names {c : Column} {p : String → Prop} :
    (∀ name ∈ c.names, p name) ↔ (∀ table ∈ c.table, p table) ∧ p c.name := by
  simp only [names, List.forall_mem_append, List.forall_mem_singleton, Option.mem_toList,
    Option.mem_def]

def Source.names (s : Source) : List String := s.table :: s.label.toList

def Projection.names : Projection → List String
  | .columns cols => cols.flatMap Column.names
  | .all | .rowCount => []

mutual

/-- All names in a predicate, those in nested queries too. -/
def Predicate.names : Predicate → List String
  | .compare c _ _ | .isNull c | .isNotNull c => c.names
  | .correlate outer inner => outer.names ++ inner.names
  | .existence q _ | .count q _ => q.names
  | .membership c q _ => c.names ++ q.names
  | .group cs => Clause.namesAll cs

def Clause.namesAll : List Clause → List String
  | [] => []
  | ⟨_, p⟩ :: rest => p.names ++ Clause.namesAll rest

def Query.names : Query → List String
  | ⟨source, projection, clauses⟩ => projection.names ++ source.names ++ Clause.namesAll clauses

end

/-! ## Reading lexemes -/

inductive Lexeme where
  /-- A name, or a name qualified by another. -/
  | name (spelling : String)
  | symbol (spelling : String)
  | text (value : String)
  | opening
  | closing
  | comma
deriving DecidableEq, Repr

namespace Text

/-- Reads as a reference to a column or a source. -/
structure IsReference (word : String) : Prop where
  chars : word.toList.all (fun c => isNameChar c || c == '.') = true
  start : word.toList.head?.any Char.isDigit = false
  free : word ∉ reserved

instance (word : String) : Decidable (IsReference word) :=
  decidable_of_iff (word.toList.all (fun c => isNameChar c || c == '.') = true ∧
      word.toList.head?.any Char.isDigit = false ∧ word ∉ reserved)
    ⟨fun ⟨h₁, h₂, h₃⟩ => ⟨h₁, h₂, h₃⟩, fun h => ⟨h.chars, h.start, h.free⟩⟩

def lexemeOf (word : String) : Lexeme := if IsReference word then .name word else .symbol word

/-- What has been read of a lexeme that may go on.  A quoted text that does not end is
no lexeme. -/
inductive Scan where
  | nothing
  | word (soFar : List Char)
  | quoted (soFar : List Char)
  /-- Behind an apostrophe in a quoted text, which ends it unless it is doubled. -/
  | quote (soFar : List Char)

/-- No part of a word. -/
def isBreak (c : Char) : Bool := [' ', '(', ')', ',', apostrophe].contains c

namespace Scan

/-- The lexeme, if it ends here. -/
def finish : Scan → List Lexeme
  | nothing | quoted _ => []
  | word soFar => [lexemeOf (String.ofList soFar)]
  | quote soFar => [.text (String.ofList soFar)]

/-- What a character between lexemes is, and what it begins. -/
def start (c : Char) : List Lexeme × Scan :=
  if c = ' ' then ([], nothing)
  else if c = '(' then ([.opening], nothing)
  else if c = ')' then ([.closing], nothing)
  else if c = ',' then ([.comma], nothing)
  else if c = apostrophe then ([], quoted [])
  else ([], word [c])

/-- The lexemes a character completes, and what is read behind it. -/
def next : Scan → Char → List Lexeme × Scan
  | nothing, c => start c
  | word soFar, c =>
    if isBreak c then ((word soFar).finish ++ (start c).1, (start c).2)
    else ([], word (soFar ++ [c]))
  | quoted soFar, c => if c = apostrophe then ([], quote soFar) else ([], quoted (soFar ++ [c]))
  | quote soFar, c =>
    if c = apostrophe then ([], quoted (soFar ++ [c]))
    else ((quote soFar).finish ++ (start c).1, (start c).2)

def run : Scan → List Char → List Lexeme
  | σ, [] => σ.finish
  | σ, c :: rest => (σ.next c).1 ++ run (σ.next c).2 rest

end Scan

def lexemes (text : List Char) : List Lexeme := Scan.run .nothing text

/-- A word or a quoted text before such a text ends before it. -/
def Parted (text : List Char) : Prop := ∀ c ∈ text.head?, isBreak c = true ∧ c ≠ apostrophe

variable {t : List Char}

theorem parted_nil : Parted [] := by
  rintro c ⟨⟩

theorem parted_cons {c : Char} (h : isBreak c = true ∧ c ≠ apostrophe) : Parted (c :: t) := by
  rintro d ⟨⟩
  exact h

theorem Scan.run_of_parted (σ : Scan) (hσ : ∀ soFar, σ ≠ .quoted soFar) (h : Parted t) :
    σ.run t = σ.finish ++ lexemes t := by
  cases t with
  | nil =>
      rw [run, lexemes, run, finish, List.append_nil]
  | cons c rest =>
      obtain ⟨hbreak, hquote⟩ := h c rfl
      rw [lexemes, run, run, next]
      cases σ with
      | nothing => rfl
      | word soFar => rw [next, if_pos hbreak, List.append_assoc]
      | quoted soFar => exact absurd rfl (hσ soFar)
      | quote soFar => rw [next, if_neg hquote, List.append_assoc]

theorem Scan.run_word : ∀ (w soFar : List Char), w.any isBreak = false →
    (Scan.word soFar).run (w ++ t) = (Scan.word (soFar ++ w)).run t := by
  intro w
  induction w with
  | nil => intro soFar _; rw [List.append_nil, List.nil_append]
  | cons c w ih =>
      intro soFar h
      obtain ⟨hc, hw⟩ := Bool.or_eq_false_iff.mp (List.any_cons.symm.trans h)
      rw [List.cons_append, run, next, if_neg (by rw [hc]; nofun), List.nil_append, ih _ hw,
        List.append_assoc, List.singleton_append]

theorem Scan.run_quoted : ∀ s soFar : List Char,
    (Scan.quoted soFar).run (double s ++ t) = (Scan.quoted (soFar ++ s)).run t := by
  intro s
  induction s with
  | nil => intro soFar; rw [List.append_nil]; rfl
  | cons c s ih =>
      intro soFar
      rw [double]
      by_cases hc : c = apostrophe
      · rw [if_pos hc, List.cons_append, List.cons_append, run, next, if_pos hc, run, next,
          if_pos hc, List.nil_append, List.nil_append, ih, List.append_assoc, List.singleton_append]
      · rw [if_neg hc, List.cons_append, run, next, if_neg hc, List.nil_append, ih,
          List.append_assoc, List.singleton_append]

theorem Scan.start_of_isBreak_false {c : Char} (h : isBreak c = false) :
    start c = ([], .word [c]) := by
  simp only [isBreak, List.contains_cons, List.contains_nil, Bool.or_false, Bool.or_eq_false_iff,
    beq_eq_false_iff_ne, ne_eq] at h
  obtain ⟨hspace, hopening, hclosing, hcomma, hquote⟩ := h
  rw [start, if_neg hspace, if_neg hopening, if_neg hclosing, if_neg hcomma, if_neg hquote]

theorem lexemes_word {w : String} (hne : w.toList ≠ []) (hw : w.toList.any isBreak = false)
    (h : Parted t) : lexemes (w.toList ++ t) = lexemeOf w :: lexemes t := by
  cases hlist : w.toList with
  | nil => exact absurd hlist hne
  | cons c rest =>
      rw [hlist, List.any_cons, Bool.or_eq_false_iff] at hw
      obtain ⟨hc, hrest⟩ := hw
      rw [List.cons_append, lexemes, Scan.run, Scan.next, Scan.start_of_isBreak_false hc,
        List.nil_append, Scan.run_word rest [c] hrest, List.singleton_append, ← hlist,
        Scan.run_of_parted (.word w.toList) nofun h, Scan.finish, List.singleton_append,
        String.ofList_toList]

/-- A quoted text is read back, apostrophes and all. -/
theorem lexemes_quote (s : String) (h : Parted t) :
    lexemes ((quote s).toList ++ t) = .text s :: lexemes t := by
  have hrun : lexemes (apostrophe :: (double s.toList ++ apostrophe :: t)) =
      (Scan.quoted []).run (double s.toList ++ apostrophe :: t) := rfl
  rw [quote_append, hrun, Scan.run_quoted, List.nil_append, Scan.run, Scan.next, if_pos rfl,
    List.nil_append, Scan.run_of_parted (.quote s.toList) nofun h, Scan.finish,
    String.ofList_toList, List.singleton_append]

/-! ## Names and numbers -/

theorem isBreak_of_isNameChar {c : Char} (h : isNameChar c = true) : isBreak c = false := by
  rw [Bool.eq_false_iff]
  intro hbreak
  rw [isBreak, List.contains_iff_mem] at hbreak
  simp only [List.mem_cons, List.not_mem_nil, or_false] at hbreak
  rcases hbreak with rfl | rfl | rfl | rfl | rfl <;> cases h

theorem isNameChar_of_isDigit {c : Char} (h : c.isDigit = true) : isNameChar c = true := by
  rw [isNameChar, Char.isAlphanum, h, Bool.or_true, Bool.true_or]

/-- A number begins with a digit or a minus, as no name does. -/
theorem toList_number (n : Int) : ∃ c rest, (toString n).toList = c :: rest ∧
    (c.isDigit = true ∨ c = '-') ∧ ∀ d ∈ rest, d.isDigit = true := by
  have hdigits : ∀ m : Nat, ∃ c rest, (toString m).toList = c :: rest ∧
      ∀ d ∈ c :: rest, d.isDigit = true := by
    intro m
    have hlist : (toString m).toList = Nat.toDigits 10 m := Nat.toList_repr
    rw [hlist]
    cases hcases : Nat.toDigits 10 m with
    | nil => exact absurd hcases Nat.toDigits_ne_nil
    | cons c rest =>
        refine ⟨c, rest, rfl, fun d hd => ?_⟩
        rw [← hcases] at hd
        exact Nat.isDigit_of_mem_toDigits (by decide) (by decide) hd
  cases n with
  | ofNat m =>
      obtain ⟨c, rest, hlist, hall⟩ := hdigits m
      obtain ⟨hc, hrest⟩ := List.forall_mem_cons.mp hall
      exact ⟨c, rest, hlist, .inl hc, hrest⟩
  | negSucc m =>
      obtain ⟨c, rest, hlist, hall⟩ := hdigits (m + 1)
      refine ⟨'-', c :: rest, ?_, .inr rfl, hall⟩
      rw [← hlist]
      exact String.toList_append

theorem lexemes_number (n : Int) (h : Parted t) :
    lexemes ((toString n).toList ++ t) = .symbol (toString n) :: lexemes t := by
  obtain ⟨c, rest, hlist, hc, hrest⟩ := toList_number n
  have hbreak : (toString n).toList.any isBreak = false := by
    rw [hlist, List.any_cons, Bool.or_eq_false_iff, List.any_eq_false]
    constructor
    · rcases hc with hc | rfl
      · exact isBreak_of_isNameChar (isNameChar_of_isDigit hc)
      · rfl
    · intro d hd
      rw [isBreak_of_isNameChar (isNameChar_of_isDigit (hrest d hd))]
      nofun
  have hreference : ¬ IsReference (toString n) := by
    intro hreference
    have hchars := hreference.chars
    have hstart := hreference.start
    rw [hlist] at hchars hstart
    rcases hc with hc | rfl
    · rw [List.head?_cons, Option.any_some, hc] at hstart
      cases hstart
    · rw [List.all_cons] at hchars
      cases hchars
  rw [lexemes_word (by rw [hlist]; nofun) hbreak h, lexemeOf, if_neg hreference]

end Text

variable {t : List Char}

open Text

theorem Column.toList_render_qualified (table name : String) :
    (Column.qualified table name).render.toList = table.toList ++ '.' :: name.toList := by
  rw [qualified, render, String.toList_append, String.toList_append, List.append_assoc]
  rfl

theorem Text.IsName.isReference {name : String} (h : IsName name) : IsReference name where
  chars := by
    rw [List.all_eq_true]
    intro c hc
    rw [List.all_eq_true.mp h.chars c hc, Bool.true_or]
  start := h.start
  free := h.free

theorem Column.isReference_render {c : Column} (hc : ∀ name ∈ c.names, IsName name) :
    c.render.toList ≠ [] ∧ IsReference c.render := by
  obtain ⟨htable, hname⟩ := forall_names.mp hc
  obtain ⟨table, name⟩ := c
  cases table with
  | none => exact ⟨hname.nonempty, hname.isReference⟩
  | some table =>
      have htable : IsName table := htable table rfl
      have hlist := toList_render_qualified table name
      have hdots : ∀ word ∈ reserved, '.' ∉ word.toList := by decide
      obtain ⟨first, rest, hfirst⟩ := List.exists_cons_of_ne_nil htable.nonempty
      rw [qualified] at hlist
      refine ⟨?_, ?_, ?_, fun hreserved => hdots _ hreserved ?_⟩
      · rw [hlist, hfirst]
        nofun
      · rw [hlist, List.all_append, List.all_cons, htable.isReference.chars, hname.isReference.chars]
        rfl
      · have hstart := htable.start
        rw [hfirst] at hstart
        rw [hlist, hfirst]
        exact hstart
      · rw [hlist]
        exact List.mem_append_right _ (List.mem_cons_self ..)

/-- The text of a column with names is one name. -/
theorem Column.lexemes_render {c : Column} (hc : ∀ name ∈ c.names, IsName name) (h : Parted t) :
    lexemes (c.render.toList ++ t) = .name c.render :: lexemes t := by
  obtain ⟨hne, hreference⟩ := isReference_render hc
  have hbreak : c.render.toList.any isBreak = false := by
    rw [List.any_eq_false]
    intro d hd
    rw [Bool.not_eq_true]
    rcases Bool.or_eq_true_iff.mp (List.all_eq_true.mp hreference.chars d hd) with hd | hd
    · exact isBreak_of_isNameChar hd
    · rw [beq_iff_eq.mp hd]
      rfl
  rw [lexemes_word hne hbreak h, lexemeOf, if_pos hreference]

/-- A name alone reads as a bare column. -/
theorem Text.IsName.lexemes {name : String} (hname : IsName name) (h : Parted t) :
    lexemes (name.toList ++ t) = .name name :: lexemes t :=
  Column.lexemes_render (c := .bare name) (Column.forall_names.mpr ⟨nofun, hname⟩) h

/-! ## Lexemes of a query -/

def Column.lexeme (c : Column) : Lexeme := .name c.render

def Literal.lexeme : Literal → Lexeme
  | .text value => .text value
  | v => .symbol v.render

def Threshold.lexemes (t : Threshold) : List Lexeme :=
  [.symbol (spelling t.bound), .symbol (toString t.count.toNat)]

def Source.lexemes (s : Source) : List Lexeme :=
  .name s.table :: match s.label with
    | some label => [.symbol "AS", .name label]
    | none => []

/-- Columns that follow others. -/
def Column.lexemesRest (cols : List Column) : List Lexeme :=
  cols.flatMap fun c => [.comma, c.lexeme]

def Column.lexemesList : List Column → List Lexeme
  | [] => []
  | c :: rest => c.lexeme :: lexemesRest rest

def Projection.lexemes : Projection → List Lexeme
  | .all => [.symbol "*"]
  | .columns cols => Column.lexemesList cols
  | .rowCount => [.symbol "COUNT", .opening, .symbol "*", .closing]

/-- What stands before the clauses of a query. -/
def Clause.lexemesWhere : List Clause → List Lexeme
  | [] => []
  | _ :: _ => [.symbol "WHERE"]

mutual

def Predicate.lexemes : Predicate → List Lexeme
  | .compare c op v => [c.lexeme, .symbol (spelling op), v.lexeme]
  | .isNull c => [c.lexeme, .symbol "IS", .symbol "NULL"]
  | .isNotNull c => [c.lexeme, .symbol "IS", .symbol "NOT", .symbol "NULL"]
  | .correlate outer inner => [outer.lexeme, .symbol "=", inner.lexeme]
  | .existence q negated =>
    (if negated then [.symbol "NOT"] else []) ++ .symbol "EXISTS" :: .opening :: q.lexemes ++
      [.closing]
  | .membership c q negated =>
    c.lexeme :: (if negated then [.symbol "NOT"] else []) ++ .symbol "IN" :: .opening :: q.lexemes ++
      [.closing]
  | .count q t => .opening :: q.lexemes ++ .closing :: t.lexemes
  | .group cs => .opening :: Clause.lexemesList cs ++ [.closing]

def Clause.lexemesList : List Clause → List Lexeme
  | [] => []
  | ⟨_, p⟩ :: rest => p.lexemes ++ Clause.lexemesRest rest

def Clause.lexemesRest : List Clause → List Lexeme
  | [] => []
  | ⟨k, p⟩ :: rest => .symbol k.render :: p.lexemes ++ Clause.lexemesRest rest

def Query.lexemes : Query → List Lexeme
  | ⟨source, projection, clauses⟩ =>
    .symbol "SELECT" :: projection.lexemes ++ .symbol "FROM" :: source.lexemes ++
      Clause.lexemesWhere clauses ++ Clause.lexemesList clauses

end

theorem Literal.lexemes_render (v : Literal) (h : Parted t) :
    lexemes (v.render.toList ++ t) = v.lexeme :: lexemes t := by
  cases v with
  | null => exact lexemes_word (w := "NULL") (by decide) (by decide) h
  | bool value =>
      cases value with
      | true => exact lexemes_word (w := "true") (by decide) (by decide) h
      | false => exact lexemes_word (w := "false") (by decide) (by decide) h
  | int n => exact lexemes_number n.toInt h
  | uint n => exact lexemes_number n.toNat h
  | text value => exact lexemes_quote value h

theorem Bound.lexemes_spelling (b : Bound) (t : List Char) :
    lexemes ((spelling b).toList ++ (" ".toList ++ t)) = .symbol (spelling b) :: lexemes t := by
  cases b <;> rfl

theorem Comparison.lexemes_spelling (op : Comparison) (t : List Char) :
    lexemes ((spelling op).toList ++ (" ".toList ++ t)) = .symbol (spelling op) :: lexemes t := by
  cases op <;> rfl

theorem Connective.lexemes_render (k : Connective) (t : List Char) :
    lexemes (" ".toList ++ (k.render.toList ++ (" ".toList ++ t))) =
      .symbol k.render :: lexemes t := by
  cases k <;> rfl

theorem Threshold.lexemes_render (threshold : Threshold) (h : Parted t) :
    Text.lexemes (threshold.render.toList ++ t) = threshold.lexemes ++ Text.lexemes t := by
  have hcount := lexemes_number threshold.count.toNat h
  rw [render, String.toList_append, String.toList_append, List.append_assoc, List.append_assoc,
    Bound.lexemes_spelling]
  exact congrArg (List.cons (.symbol (spelling threshold.bound))) hcount

theorem Source.lexemes_render {s : Source} (hs : ∀ name ∈ s.names, IsName name) (h : Parted t) :
    Text.lexemes (s.render.toList ++ t) = s.lexemes ++ Text.lexemes t := by
  obtain ⟨table, label⟩ := s
  have htable : IsName table := hs table (List.mem_cons_self ..)
  cases label with
  | none => exact htable.lexemes h
  | some label =>
      have hlabel : IsName label := hs label (List.mem_cons_of_mem _ (List.mem_singleton_self _))
      have hspace : Parted (" AS ".toList ++ (label.toList ++ t)) := parted_cons (by decide)
      rw [render, String.toList_append, String.toList_append, List.append_assoc, List.append_assoc,
        htable.lexemes hspace]
      exact congrArg (fun rest => .name table :: .symbol "AS" :: rest) (hlabel.lexemes h)

theorem Column.lexemes_intercalate : ∀ {cols : List Column},
    (∀ name ∈ cols.flatMap Column.names, IsName name) → Parted t →
    Text.lexemes ((", ".intercalate (cols.map Column.render)).toList ++ t) =
      lexemesList cols ++ Text.lexemes t
  | [], _, _ => rfl
  | [c], hcols, h => by
    have hc : ∀ name ∈ c.names, IsName name := by
      intro name hname
      exact hcols name (List.mem_append_left _ hname)
    exact c.lexemes_render hc h
  | c :: d :: rest, hcols, h => by
    rw [List.flatMap_cons, List.forall_mem_append] at hcols
    have hcomma : Parted (", ".toList ++
        ((", ".intercalate ((d :: rest).map Column.render)).toList ++ t)) := parted_cons (by decide)
    have hrest := lexemes_intercalate hcols.2 h
    have htext : (", ".intercalate ((c :: d :: rest).map Column.render)).toList =
        c.render.toList ++ (", ".toList ++
          (", ".intercalate ((d :: rest).map Column.render)).toList) := by
      simp only [List.map_cons, String.toList_intercalate, List.intercalate_cons_cons,
        List.append_assoc]
    rw [htext, List.append_assoc, List.append_assoc, c.lexemes_render hcols.1 hcomma]
    exact congrArg (fun rest => c.lexeme :: .comma :: rest) hrest

theorem Projection.lexemes_render {p : Projection} (hp : ∀ name ∈ p.names, IsName name)
    (h : Parted t) : Text.lexemes (p.render.toList ++ t) = p.lexemes ++ Text.lexemes t := by
  cases p with
  | all => exact lexemes_word (w := "*") (by decide) (by decide) h
  | columns cols => exact Column.lexemes_intercalate hp h
  | rowCount => rfl

/-- The text of a query up to its clauses. -/
theorem Query.lexemes_renderHead {source : Source} {projection : Projection}
    (hprojection : ∀ name ∈ projection.names, IsName name)
    (hsource : ∀ name ∈ source.names, IsName name) (h : Parted t) :
    Text.lexemes (("SELECT " ++ projection.render ++ " FROM " ++ source.render).toList ++ t) =
      .symbol "SELECT" :: projection.lexemes ++ .symbol "FROM" :: source.lexemes ++
        Text.lexemes t := by
  have hrest := projection.lexemes_render (t := " FROM ".toList ++ (source.render.toList ++ t))
    hprojection (parted_cons (by decide))
  have hfrom : Text.lexemes (" FROM ".toList ++ (source.render.toList ++ t)) =
      .symbol "FROM" :: Text.lexemes (source.render.toList ++ t) := rfl
  rw [hfrom, source.lexemes_render hsource h] at hrest
  simp only [String.toList_append, List.append_assoc]
  exact congrArg (List.cons (.symbol "SELECT")) hrest

theorem Clause.parted_renderRest (cs : List Clause) (h : Parted t) :
    Parted ((Clause.renderRest cs).toList ++ t) := by
  cases cs with
  | nil => exact h
  | cons c rest =>
      obtain ⟨k, p⟩ := c
      simp only [renderRest, String.toList_append, List.append_assoc]
      exact parted_cons (by decide)

/-! Every part is read in front of any text that parts: the text behind it in the query
it belongs to, as far as there is one, begins with a space or a closing bracket. -/

mutual

theorem Predicate.lexemes_render : ∀ (p : Predicate) {t : List Char},
    (∀ name ∈ p.names, IsName name) → Parted t →
    Text.lexemes (p.render.toList ++ t) = p.lexemes ++ Text.lexemes t
  | .compare c op v, t, hp, h => by
    have hv := v.lexemes_render h
    simp only [Predicate.render, String.toList_append, List.append_assoc]
    refine (c.lexemes_render hp (parted_cons (by decide))).trans ?_
    refine congrArg (List.cons c.lexeme) ((Comparison.lexemes_spelling op _).trans ?_)
    exact congrArg (List.cons (.symbol (spelling op))) hv
  | .isNull c, t, hp, h => by
    have hnull := Literal.null.lexemes_render h
    rw [Predicate.render, String.toList_append, List.append_assoc]
    refine (c.lexemes_render hp (parted_cons (by decide))).trans ?_
    exact congrArg (fun rest => c.lexeme :: .symbol "IS" :: rest) hnull
  | .isNotNull c, t, hp, h => by
    have hnull := Literal.null.lexemes_render h
    rw [Predicate.render, String.toList_append, List.append_assoc]
    refine (c.lexemes_render hp (parted_cons (by decide))).trans ?_
    exact congrArg (fun rest => c.lexeme :: .symbol "IS" :: .symbol "NOT" :: rest) hnull
  | .correlate outer inner, t, hp, h => by
    obtain ⟨houter, hinner⟩ := List.forall_mem_append.mp hp
    simp only [Predicate.render, String.toList_append, List.append_assoc]
    refine (outer.lexemes_render houter (parted_cons (by decide))).trans ?_
    exact congrArg (fun rest => outer.lexeme :: .symbol "=" :: rest)
      (inner.lexemes_render hinner h)
  | .existence q negated, t, hp, _ => by
    have hq := q.lexemes_render (t := ")".toList ++ t) hp (parted_cons (by decide))
    cases negated with
    | false =>
        simp only [Predicate.render, Predicate.lexemes, String.toList_append, List.append_assoc]
        exact congrArg (fun rest => .symbol "EXISTS" :: .opening :: rest) hq
    | true =>
        simp only [Predicate.render, Predicate.lexemes, String.toList_append, List.append_assoc]
        exact congrArg (fun rest => .symbol "NOT" :: .symbol "EXISTS" :: .opening :: rest) hq
  | .membership c q negated, t, hp, _ => by
    obtain ⟨hc, hq⟩ := List.forall_mem_append.mp hp
    have hq := q.lexemes_render (t := ")".toList ++ t) hq (parted_cons (by decide))
    cases negated with
    | false =>
        simp only [Predicate.render, Predicate.lexemes, String.toList_append, List.append_assoc]
        refine (c.lexemes_render hc (parted_cons (by decide))).trans ?_
        exact congrArg (fun rest => c.lexeme :: .symbol "IN" :: .opening :: rest) hq
    | true =>
        simp only [Predicate.render, Predicate.lexemes, String.toList_append, List.append_assoc]
        refine (c.lexemes_render hc (parted_cons (by decide))).trans ?_
        exact congrArg
          (fun rest => c.lexeme :: .symbol "NOT" :: .symbol "IN" :: .opening :: rest) hq
  | .count q threshold, t, hp, h => by
    have hthreshold := threshold.lexemes_render h
    have hq := q.lexemes_render (t := ") ".toList ++ (threshold.render.toList ++ t)) hp
      (parted_cons (by decide))
    have hclosing : Text.lexemes (") ".toList ++ (threshold.render.toList ++ t)) =
        .closing :: Text.lexemes (threshold.render.toList ++ t) := rfl
    rw [hclosing, hthreshold] at hq
    simp only [Predicate.render, Predicate.lexemes, String.toList_append, List.append_assoc]
    exact congrArg (List.cons .opening) hq
  | .group cs, t, hp, _ => by
    have hcs := Clause.lexemes_renderList cs (t := ")".toList ++ t) hp (parted_cons (by decide))
    simp only [Predicate.render, Predicate.lexemes, String.toList_append, List.append_assoc]
    exact congrArg (List.cons .opening) hcs

theorem Clause.lexemes_renderList : ∀ (cs : List Clause) {t : List Char},
    (∀ name ∈ Clause.namesAll cs, IsName name) → Parted t →
    Text.lexemes ((Clause.renderList cs).toList ++ t) = Clause.lexemesList cs ++ Text.lexemes t
  | [], _, _, _ => rfl
  | ⟨_, p⟩ :: rest, t, hcs, h => by
    obtain ⟨hp, hrest⟩ := List.forall_mem_append.mp hcs
    have hparted : Parted ((Clause.renderRest rest).toList ++ t) := Clause.parted_renderRest rest h
    rw [Clause.renderList, Clause.lexemesList, String.toList_append, List.append_assoc,
      p.lexemes_render hp hparted, Clause.lexemes_renderRest rest hrest h, List.append_assoc]

theorem Clause.lexemes_renderRest : ∀ (cs : List Clause) {t : List Char},
    (∀ name ∈ Clause.namesAll cs, IsName name) → Parted t →
    Text.lexemes ((Clause.renderRest cs).toList ++ t) = Clause.lexemesRest cs ++ Text.lexemes t
  | [], _, _, _ => rfl
  | ⟨k, p⟩ :: rest, t, hcs, h => by
    obtain ⟨hp, hrest⟩ := List.forall_mem_append.mp hcs
    have hparted : Parted ((Clause.renderRest rest).toList ++ t) := Clause.parted_renderRest rest h
    simp only [Clause.renderRest, Clause.lexemesRest, String.toList_append, List.append_assoc]
    rw [k.lexemes_render, p.lexemes_render hp hparted, Clause.lexemes_renderRest rest hrest h,
      List.cons_append]

theorem Query.lexemes_render : ∀ (q : Query) {t : List Char},
    (∀ name ∈ q.names, IsName name) → Parted t →
    Text.lexemes (q.render.toList ++ t) = q.lexemes ++ Text.lexemes t
  | ⟨source, projection, []⟩, t, hq, h => by
    obtain ⟨hhead, -⟩ := List.forall_mem_append.mp hq
    obtain ⟨hprojection, hsource⟩ := List.forall_mem_append.mp hhead
    rw [Query.render, Query.lexemes, String.toList_append, List.append_assoc, Clause.lexemesWhere,
      Clause.lexemesList, List.append_nil, List.append_nil]
    exact Query.lexemes_renderHead hprojection hsource h
  | ⟨source, projection, c :: rest⟩, t, hq, h => by
    obtain ⟨hhead, hclauses⟩ := List.forall_mem_append.mp hq
    obtain ⟨hprojection, hsource⟩ := List.forall_mem_append.mp hhead
    have htext : (" WHERE " ++ Clause.renderList (c :: rest)).toList ++ t =
        " WHERE ".toList ++ ((Clause.renderList (c :: rest)).toList ++ t) := by
      rw [String.toList_append, List.append_assoc]
    have hparted : Parted (" WHERE ".toList ++ ((Clause.renderList (c :: rest)).toList ++ t)) :=
      parted_cons (by decide)
    have hwhere : Text.lexemes (" WHERE ".toList ++ ((Clause.renderList (c :: rest)).toList ++ t)) =
        .symbol "WHERE" :: Text.lexemes ((Clause.renderList (c :: rest)).toList ++ t) := rfl
    simp only [Query.render, Query.lexemes]
    rw [String.toList_append, List.append_assoc, htext,
      Query.lexemes_renderHead hprojection hsource hparted, hwhere,
      Clause.lexemes_renderList (c :: rest) hclauses h]
    simp only [Clause.lexemesWhere, List.append_assoc, List.cons_append, List.nil_append]

end

end Semijoin
