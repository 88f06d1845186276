import Semijoin.Proofs.Lexemes
import Semijoin.Proofs.Qualifying
import Semijoin.Sql.Equality
import Std.Data.String.ToInt

/-! # Queries and their texts

Two things of a query do not show in its text: the connective of the first clause of a
list, and whether a number that could be signed or unsigned is the one or the other.
`Query.render_unambiguous` says that they are the only ones, for queries whose names
are names: the first lexemes of a predicate tell its form (`Form.read?`), and from left
to right each part ends where the lexemes say it does. -/
set_option autoImplicit false
namespace Semijoin

open Text

/-! ## What the text shows -/

/-- The literal for the same number, signed where one is. -/
def Literal.canonical : Literal → Literal
  | .uint n => (ofInt? n.toNat).getD (.uint n)
  | v => v

mutual

/-- The same predicate, but that each list of clauses begins with `and` and each
number is signed where it fits. -/
def Predicate.canonical : Predicate → Predicate
  | .compare c op v => .compare c op v.canonical
  | .isNull c => .isNull c
  | .isNotNull c => .isNotNull c
  | .correlate outer inner => .correlate outer inner
  | .existence q negated => .existence q.canonical negated
  | .membership c q negated => .membership c q.canonical negated
  | .count q t => .count q.canonical t
  | .group cs => .group (Clause.canonicalList cs)

def Clause.canonicalList : List Clause → List Clause
  | [] => []
  | ⟨_, p⟩ :: rest => ⟨.and, p.canonical⟩ :: Clause.canonicalRest rest

def Clause.canonicalRest : List Clause → List Clause
  | [] => []
  | ⟨k, p⟩ :: rest => ⟨k, p.canonical⟩ :: Clause.canonicalRest rest

def Query.canonical : Query → Query
  | ⟨source, projection, clauses⟩ => ⟨source, projection, Clause.canonicalList clauses⟩

end

namespace Literal

theorem ofInt?_toInt (n : Int64) : ofInt? n.toInt = some (.int n) := by
  rw [ofInt?, if_pos ⟨n.minValue_le_toInt, n.toInt_le⟩, Int64.ofInt_toInt]

theorem ofInt?_toNat (n : UInt64) : ofInt? n.toNat = some (Literal.uint n).canonical := by
  have hsize : (n.toNat : Int) < UInt64.size := Int.ofNat_lt.mpr n.toNat_lt
  rw [canonical, ofInt?]
  split
  · rfl
  · rw [if_pos ⟨Int.natCast_nonneg _, hsize⟩]
    rfl

theorem render_ofInt? {n : Int} {v : Literal} (h : ofInt? n = some v) : v.render = toString n := by
  rw [ofInt?] at h
  split at h
  · rename_i hrange
    cases h
    rw [render, Int64.toInt_ofInt_of_le hrange.1 (Int.lt_of_le_of_lt hrange.2 (by decide))]
  · split at h
    · rename_i hrange
      cases h
      have hlt : n.toNat < UInt64.size := (Int.toNat_lt hrange.1).mpr hrange.2
      have hnumber : toString n = toString n.toNat :=
        congrArg toString (Int.toNat_of_nonneg hrange.1).symm
      rw [render, UInt64.toNat_ofNat_of_lt' hlt, hnumber]
    · cases h

theorem render_canonical (v : Literal) : v.canonical.render = v.render := by
  cases v with
  | uint n => exact render_ofInt? (ofInt?_toNat n)
  | _ => rfl

/-- The literal that a lexeme is, signed where it can be. -/
def ofLexeme? : Lexeme → Option Literal
  | .text value => some (.text value)
  | .symbol word =>
    if word = "NULL" then some .null
    else if word = "true" then some (.bool true)
    else if word = "false" then some (.bool false)
    else word.toInt?.bind ofInt?
  | _ => none

theorem ofLexeme?_number (n : Int) : ofLexeme? (.symbol (toString n)) = ofInt? n := by
  obtain ⟨c, rest, hlist, hc, -⟩ := toList_number n
  have hne : ∀ word ∈ ["NULL", "true", "false"], toString n ≠ word := by
    intro word hword heq
    rw [heq] at hlist
    simp only [List.mem_cons, List.not_mem_nil, or_false] at hword
    rcases hword with rfl | rfl | rfl <;> cases hlist <;> rcases hc with hc | hc <;> cases hc
  have hread : (toString n).toInt? = some n := Int.toInt?_repr n
  rw [ofLexeme?, if_neg (hne _ (by decide)), if_neg (hne _ (by decide)),
    if_neg (hne _ (by decide)), hread, Option.bind_some]

theorem ofLexeme?_lexeme (v : Literal) : ofLexeme? v.lexeme = some v.canonical := by
  cases v with
  | bool value => cases value <;> rfl
  | int n => exact (ofLexeme?_number n.toInt).trans (ofInt?_toInt n)
  | uint n => exact (ofLexeme?_number n.toNat).trans (ofInt?_toNat n)
  | _ => rfl

theorem canonical_of_lexeme {v v' : Literal} (h : v.lexeme = v'.lexeme) :
    v.canonical = v'.canonical := by
  have hread := congrArg ofLexeme? h
  rw [ofLexeme?_lexeme, ofLexeme?_lexeme] at hread
  exact Option.some.inj hread

end Literal

/-! ## The parts that hold no queries -/

theorem Text.IsName.notMem_dot {name : String} (h : IsName name) : '.' ∉ name.toList := by
  intro hdot
  cases List.all_eq_true.mp h.chars '.' hdot

theorem Text.IsName.ne_empty {name : String} (h : IsName name) : name ≠ "" := by
  rintro rfl
  exact h.nonempty rfl

/-- A column with names is read back from its text. -/
theorem Column.ofString_render {c : Column} (hc : ∀ name ∈ c.names, IsName name) :
    ofString c.render = c := by
  obtain ⟨htable, hname⟩ := forall_names.mp hc
  obtain ⟨table, name⟩ := c
  rw [ofString_render_iff]
  cases table with
  | none => exact .inl hname.notMem_dot
  | some table => exact ⟨(htable table rfl).ne_empty, hname.ne_empty, hname.notMem_dot⟩

theorem Column.eq_of_lexeme {c c' : Column} (hc : ∀ name ∈ c.names, IsName name)
    (hc' : ∀ name ∈ c'.names, IsName name) (h : c.lexeme = c'.lexeme) : c = c' := by
  have hrender : c.render = c'.render := Lexeme.name.inj h
  rw [← ofString_render hc, hrender, ofString_render hc']

theorem Comparison.eq_of_spelling : ∀ {op op' : Comparison}, spelling op = spelling op' →
    op = op' := by
  intro op op'
  cases op <;> cases op' <;> decide

theorem Bound.eq_of_spelling : ∀ {b b' : Bound}, spelling b = spelling b' → b = b' := by
  intro b b'
  cases b <;> cases b' <;> decide

theorem Connective.eq_of_render : ∀ {k k' : Connective}, k.render = k'.render → k = k' := by
  intro k k'
  cases k <;> cases k' <;> decide

theorem Threshold.eq_of_lexemes {s s' : Threshold} {t t' : List Lexeme}
    (h : s.lexemes ++ t = s'.lexemes ++ t') : s = s' ∧ t = t' := by
  obtain ⟨bound, count⟩ := s
  obtain ⟨bound', count'⟩ := s'
  simp only [lexemes, List.cons_append, List.nil_append, List.cons.injEq, Lexeme.symbol.injEq] at h
  obtain ⟨hbound, hcount, ht⟩ := h
  have hnumber : (count.toNat : Int) = count'.toNat := Int.repr_injective hcount
  rw [Bound.eq_of_spelling hbound, UInt64.toNat_inj.mp (Int.ofNat_inj.mp hnumber)]
  exact ⟨rfl, ht⟩

/-- The lexemes behind a source do not label it. -/
theorem Source.eq_of_lexemes {s s' : Source} {t t' : List Lexeme}
    (ht : t.head? ≠ some (.symbol "AS")) (ht' : t'.head? ≠ some (.symbol "AS"))
    (h : s.lexemes ++ t = s'.lexemes ++ t') : s = s' ∧ t = t' := by
  obtain ⟨table, label⟩ := s
  obtain ⟨table', label'⟩ := s'
  obtain ⟨htable, hrest⟩ := List.cons.inj h
  cases Lexeme.name.inj htable
  cases label with
  | none =>
      cases label' with
      | none => exact ⟨rfl, hrest⟩
      | some label' =>
          have hhead : t.head? = some (.symbol "AS") := congrArg List.head? hrest
          exact absurd hhead ht
  | some label =>
      cases label' with
      | none =>
          have hhead : t'.head? = some (.symbol "AS") := congrArg List.head? hrest.symm
          exact absurd hhead ht'
      | some label' =>
          obtain ⟨hlabel, heq⟩ := List.cons.inj (List.cons.inj hrest).2
          exact ⟨congrArg (labelled table) (Lexeme.name.inj hlabel), heq⟩

theorem Column.eq_of_lexemesRest : ∀ {cols cols' : List Column} {t t' : List Lexeme},
    (∀ name ∈ cols.flatMap names, IsName name) → (∀ name ∈ cols'.flatMap names, IsName name) →
    lexemesRest cols ++ .symbol "FROM" :: t = lexemesRest cols' ++ .symbol "FROM" :: t' →
    cols = cols' ∧ t = t' := by
  intro cols
  induction cols with
  | nil =>
      intro cols' t t' _ _ h
      cases cols' with
      | nil => exact ⟨rfl, (List.cons.inj h).2⟩
      | cons c' rest' => cases h
  | cons c rest ih =>
      intro cols' t t' hcols hcols' h
      cases cols' with
      | nil => cases h
      | cons c' rest' =>
          obtain ⟨hc, hrest⟩ := List.forall_mem_append.mp hcols
          obtain ⟨hc', hrest'⟩ := List.forall_mem_append.mp hcols'
          obtain ⟨hlexeme, h⟩ := List.cons.inj (List.cons.inj h).2
          obtain ⟨heq, ht⟩ := ih hrest hrest' h
          exact ⟨by rw [eq_of_lexeme hc hc' hlexeme, heq], ht⟩

theorem Column.eq_of_lexemesList {cols cols' : List Column} {t t' : List Lexeme}
    (hcols : ∀ name ∈ cols.flatMap names, IsName name)
    (hcols' : ∀ name ∈ cols'.flatMap names, IsName name)
    (h : lexemesList cols ++ .symbol "FROM" :: t = lexemesList cols' ++ .symbol "FROM" :: t') :
    cols = cols' ∧ t = t' := by
  cases cols with
  | nil =>
      cases cols' with
      | nil => exact ⟨rfl, (List.cons.inj h).2⟩
      | cons c' rest' => cases h
  | cons c rest =>
      cases cols' with
      | nil => cases h
      | cons c' rest' =>
          exact eq_of_lexemesRest hcols hcols' (congrArg (List.cons Lexeme.comma) h)

theorem Projection.eq_of_lexemes {p p' : Projection} {t t' : List Lexeme}
    (hp : ∀ name ∈ p.names, IsName name) (hp' : ∀ name ∈ p'.names, IsName name)
    (h : p.lexemes ++ .symbol "FROM" :: t = p'.lexemes ++ .symbol "FROM" :: t') :
    p = p' ∧ t = t' := by
  have hhead := congrArg List.head? h
  cases p with
  | all =>
      cases p' with
      | all => exact ⟨rfl, (List.cons.inj (List.cons.inj h).2).2⟩
      | columns cols' => cases cols' <;> simp [lexemes, Column.lexemesList, Column.lexeme] at hhead
      | rowCount => simp [lexemes] at hhead
  | columns cols =>
      cases p' with
      | all => cases cols <;> simp [lexemes, Column.lexemesList, Column.lexeme] at hhead
      | columns cols' =>
          obtain ⟨heq, ht⟩ := Column.eq_of_lexemesList hp hp' h
          exact ⟨congrArg columns heq, ht⟩
      | rowCount => cases cols <;> simp [lexemes, Column.lexemesList, Column.lexeme] at hhead
  | rowCount =>
      cases p' with
      | all => simp [lexemes] at hhead
      | columns cols' => cases cols' <;> simp [lexemes, Column.lexemesList, Column.lexeme] at hhead
      | rowCount => exact ⟨rfl, by simpa [lexemes] using h⟩

/-! ## The form of a predicate -/

/-- What is told by the first lexemes of a predicate. -/
inductive Form where
  | compare
  | isNull
  | isNotNull
  | correlate
  | existence (negated : Bool)
  | membership (negated : Bool)
  | count
  | group

/-- A bracket opens a query or a group, `NOT` comes before `EXISTS` or, behind a column,
before `IN`, and `=` stands before a literal or, in a correlation, before a column. -/
def Form.read? : List Lexeme → Option Form
  | .opening :: .symbol "SELECT" :: _ => some count
  | .opening :: _ => some group
  | .symbol "EXISTS" :: _ => some (existence false)
  | .symbol "NOT" :: _ => some (existence true)
  | .name _ :: .symbol "IS" :: .symbol "NULL" :: _ => some isNull
  | .name _ :: .symbol "IS" :: _ => some isNotNull
  | .name _ :: .symbol "IN" :: _ => some (membership false)
  | .name _ :: .symbol "NOT" :: _ => some (membership true)
  | .name _ :: _ :: .name _ :: _ => some correlate
  | .name _ :: _ => some compare
  | _ => none

def Predicate.form : Predicate → Form
  | .compare .. => .compare
  | .isNull _ => .isNull
  | .isNotNull _ => .isNotNull
  | .correlate .. => .correlate
  | .existence _ negated => .existence negated
  | .membership _ _ negated => .membership negated
  | .count .. => .count
  | .group _ => .group

theorem Predicate.read?_form (p : Predicate) (t : List Lexeme) :
    Form.read? (p.lexemes ++ t) = some p.form := by
  cases p with
  | compare c op v => cases op <;> cases v <;> rfl
  | isNull c => rfl
  | isNotNull c => rfl
  | correlate outer inner => rfl
  | existence q negated => cases negated <;> rfl
  | membership c q negated => cases negated <;> rfl
  | count q threshold =>
      obtain ⟨source, projection, clauses⟩ := q
      rfl
  | group cs =>
      cases cs with
      | nil => rfl
      | cons first rest =>
          -- no clause begins like a query
          obtain ⟨k, p⟩ := first
          cases p with
          | existence q negated => cases negated <;> rfl
          | membership c q negated => cases negated <;> rfl
          | _ => rfl

theorem Predicate.form_eq_of_lexemes {p p' : Predicate} {t t' : List Lexeme}
    (h : p.lexemes ++ t = p'.lexemes ++ t') : p.form = p'.form := by
  have hread := congrArg Form.read? h
  rw [p.read?_form, p'.read?_form] at hread
  exact Option.some.inj hread

/-- Nothing follows, or a closing bracket. -/
def Closed (t : List Lexeme) : Prop := ∀ l ∈ t.head?, l = .closing

theorem Closed.nil : Closed [] := by
  rintro l ⟨⟩

theorem Closed.closing (t : List Lexeme) : Closed (.closing :: t) := by
  rintro l ⟨⟩
  rfl

theorem Closed.head?_ne {t : List Lexeme} (h : Closed t) (word : String) :
    t.head? ≠ some (.symbol word) := by
  intro hhead
  cases h _ hhead

/-- No predicate stands before what closes. -/
theorem Closed.ne_lexemes {t : List Lexeme} (h : Closed t) (p : Predicate) (u : List Lexeme) :
    t ≠ p.lexemes ++ u := by
  intro heq
  have hread := congrArg Form.read? heq
  rw [p.read?_form] at hread
  cases t with
  | nil => cases hread
  | cons l rest =>
      cases h l rfl
      cases hread

/-- The lexemes of clauses, before what closes, are no label. -/
theorem Clause.head?_lexemesWhere_ne (cs : List Clause) {t : List Lexeme} (h : Closed t) :
    (lexemesWhere cs ++ (lexemesList cs ++ t)).head? ≠ some (.symbol "AS") := by
  cases cs with
  | nil => exact h.head?_ne "AS"
  | cons c rest => simp [lexemesWhere]

theorem Clause.eq_of_lexemesWhere {cs cs' : List Clause} {t t' : List Lexeme} (ht : Closed t)
    (ht' : Closed t') (h : lexemesWhere cs ++ (lexemesList cs ++ t) =
      lexemesWhere cs' ++ (lexemesList cs' ++ t')) :
    lexemesList cs ++ t = lexemesList cs' ++ t' := by
  have hhead := congrArg List.head? h
  cases cs with
  | nil =>
      cases cs' with
      | nil => exact h
      | cons c' rest' => exact absurd hhead (ht.head?_ne "WHERE")
  | cons c rest =>
      cases cs' with
      | nil => exact absurd hhead.symm (ht'.head?_ne "WHERE")
      | cons c' rest' => exact (List.cons.inj h).2

/-! ## Unique reading -/

mutual

/-- Of two predicates that begin the same lexemes, each ends where the other does. -/
theorem Predicate.canonical_of_lexemes : ∀ (p : Predicate) {p' : Predicate} {t t' : List Lexeme},
    (∀ name ∈ p.names, IsName name) → (∀ name ∈ p'.names, IsName name) →
    p.lexemes ++ t = p'.lexemes ++ t' → p.canonical = p'.canonical ∧ t = t'
  | .compare c op v, p', t, t', hp, hp', h => by
    cases p' with
    | compare c' op' v' =>
        obtain ⟨hc, h⟩ := List.cons.inj h
        obtain ⟨hop, h⟩ := List.cons.inj h
        obtain ⟨hv, ht⟩ := List.cons.inj h
        rw [Predicate.canonical, Predicate.canonical, Column.eq_of_lexeme hp hp' hc,
          Comparison.eq_of_spelling (Lexeme.symbol.inj hop), Literal.canonical_of_lexeme hv]
        exact ⟨rfl, ht⟩
    | _ => cases Predicate.form_eq_of_lexemes h
  | .isNull c, p', t, t', hp, hp', h => by
    cases p' with
    | isNull c' =>
        obtain ⟨hc, h⟩ := List.cons.inj h
        rw [Column.eq_of_lexeme hp hp' hc]
        exact ⟨rfl, (List.cons.inj (List.cons.inj h).2).2⟩
    | _ => cases Predicate.form_eq_of_lexemes h
  | .isNotNull c, p', t, t', hp, hp', h => by
    cases p' with
    | isNotNull c' =>
        obtain ⟨hc, h⟩ := List.cons.inj h
        rw [Column.eq_of_lexeme hp hp' hc]
        exact ⟨rfl, (List.cons.inj (List.cons.inj (List.cons.inj h).2).2).2⟩
    | _ => cases Predicate.form_eq_of_lexemes h
  | .correlate outer inner, p', t, t', hp, hp', h => by
    cases p' with
    | correlate outer' inner' =>
        obtain ⟨houter, hinner⟩ := List.forall_mem_append.mp hp
        obtain ⟨houter', hinner'⟩ := List.forall_mem_append.mp hp'
        obtain ⟨ho, h⟩ := List.cons.inj h
        obtain ⟨hi, ht⟩ := List.cons.inj (List.cons.inj h).2
        rw [Column.eq_of_lexeme houter houter' ho, Column.eq_of_lexeme hinner hinner' hi]
        exact ⟨rfl, ht⟩
    | _ => cases Predicate.form_eq_of_lexemes h
  | .existence q negated, p', t, t', hp, hp', h => by
    cases p' with
    | existence q' negated' =>
        cases Predicate.form_eq_of_lexemes h
        simp only [Predicate.lexemes, List.append_assoc, List.cons_append,
          List.append_cancel_left_eq, List.cons.injEq, true_and] at h
        obtain ⟨hq, ht⟩ := Query.canonical_of_lexemes q hp hp' (.closing t) (.closing t') h
        rw [Predicate.canonical, Predicate.canonical, hq]
        exact ⟨rfl, (List.cons.inj ht).2⟩
    | _ => cases Predicate.form_eq_of_lexemes h
  | .membership c q negated, p', t, t', hp, hp', h => by
    cases p' with
    | membership c' q' negated' =>
        obtain ⟨hc, hq⟩ := List.forall_mem_append.mp hp
        obtain ⟨hc', hq'⟩ := List.forall_mem_append.mp hp'
        cases Predicate.form_eq_of_lexemes h
        simp only [Predicate.lexemes, List.append_assoc, List.cons_append,
          List.append_cancel_left_eq, List.cons.injEq, true_and] at h
        obtain ⟨hq, ht⟩ := Query.canonical_of_lexemes q hq hq' (.closing t) (.closing t') h.2
        rw [Predicate.canonical, Predicate.canonical, hq, Column.eq_of_lexeme hc hc' h.1]
        exact ⟨rfl, (List.cons.inj ht).2⟩
    | _ => cases Predicate.form_eq_of_lexemes h
  | .count q threshold, p', t, t', hp, hp', h => by
    cases p' with
    | count q' threshold' =>
        simp only [Predicate.lexemes, List.append_assoc, List.cons_append, List.cons.injEq,
          true_and] at h
        obtain ⟨hq, h⟩ := Query.canonical_of_lexemes q hp hp' (.closing _) (.closing _) h
        obtain ⟨hthreshold, ht⟩ := Threshold.eq_of_lexemes (List.cons.inj h).2
        rw [Predicate.canonical, Predicate.canonical, hq, hthreshold]
        exact ⟨rfl, ht⟩
    | _ => cases Predicate.form_eq_of_lexemes h
  | .group cs, p', t, t', hp, hp', h => by
    cases p' with
    | group cs' =>
        simp only [Predicate.lexemes, List.append_assoc, List.cons_append, List.cons.injEq,
          true_and] at h
        obtain ⟨hcs, ht⟩ := Clause.canonicalList_of_lexemes cs hp hp' (.closing t) (.closing t') h
        rw [Predicate.canonical, Predicate.canonical, hcs]
        exact ⟨rfl, (List.cons.inj ht).2⟩
    | _ => cases Predicate.form_eq_of_lexemes h

theorem Clause.canonicalList_of_lexemes : ∀ (cs : List Clause) {cs' : List Clause}
    {t t' : List Lexeme},
    (∀ name ∈ Clause.namesAll cs, IsName name) → (∀ name ∈ Clause.namesAll cs', IsName name) →
    Closed t → Closed t' → Clause.lexemesList cs ++ t = Clause.lexemesList cs' ++ t' →
    Clause.canonicalList cs = Clause.canonicalList cs' ∧ t = t'
  | [], [], _, _, _, _, _, _, h => ⟨rfl, h⟩
  | [], ⟨_, p'⟩ :: rest', t, t', _, _, ht, _, h => by
    rw [Clause.lexemesList, Clause.lexemesList, List.append_assoc] at h
    exact absurd h (ht.ne_lexemes p' _)
  | ⟨_, p⟩ :: rest, [], t, t', _, _, _, ht', h => by
    rw [Clause.lexemesList, Clause.lexemesList, List.append_assoc] at h
    exact absurd h.symm (ht'.ne_lexemes p _)
  | ⟨_, p⟩ :: rest, ⟨_, p'⟩ :: rest', t, t', hcs, hcs', ht, ht', h => by
    obtain ⟨hp, hrest⟩ := List.forall_mem_append.mp hcs
    obtain ⟨hp', hrest'⟩ := List.forall_mem_append.mp hcs'
    rw [Clause.lexemesList, Clause.lexemesList, List.append_assoc, List.append_assoc] at h
    obtain ⟨hp, h⟩ := Predicate.canonical_of_lexemes p hp hp' h
    obtain ⟨hrest, ht⟩ := Clause.canonicalRest_of_lexemes rest hrest hrest' ht ht' h
    rw [Clause.canonicalList, Clause.canonicalList, hp, hrest]
    exact ⟨rfl, ht⟩

theorem Clause.canonicalRest_of_lexemes : ∀ (cs : List Clause) {cs' : List Clause}
    {t t' : List Lexeme},
    (∀ name ∈ Clause.namesAll cs, IsName name) → (∀ name ∈ Clause.namesAll cs', IsName name) →
    Closed t → Closed t' → Clause.lexemesRest cs ++ t = Clause.lexemesRest cs' ++ t' →
    Clause.canonicalRest cs = Clause.canonicalRest cs' ∧ t = t'
  | [], [], _, _, _, _, _, _, h => ⟨rfl, h⟩
  | [], ⟨k', _⟩ :: _, t, t', _, _, ht, _, h =>
    absurd (congrArg List.head? h) (ht.head?_ne k'.render)
  | ⟨k, _⟩ :: _, [], t, t', _, _, _, ht', h =>
    absurd (congrArg List.head? h.symm) (ht'.head?_ne k.render)
  | ⟨k, p⟩ :: rest, ⟨k', p'⟩ :: rest', t, t', hcs, hcs', ht, ht', h => by
    obtain ⟨hp, hrest⟩ := List.forall_mem_append.mp hcs
    obtain ⟨hp', hrest'⟩ := List.forall_mem_append.mp hcs'
    rw [Clause.lexemesRest, Clause.lexemesRest, List.append_assoc, List.append_assoc] at h
    obtain ⟨hk, h⟩ := List.cons.inj h
    obtain ⟨hp, h⟩ := Predicate.canonical_of_lexemes p hp hp' h
    obtain ⟨hrest, ht⟩ := Clause.canonicalRest_of_lexemes rest hrest hrest' ht ht' h
    rw [Clause.canonicalRest, Clause.canonicalRest, hp, hrest,
      Connective.eq_of_render (Lexeme.symbol.inj hk)]
    exact ⟨rfl, ht⟩

theorem Query.canonical_of_lexemes : ∀ (q : Query) {q' : Query} {t t' : List Lexeme},
    (∀ name ∈ q.names, IsName name) → (∀ name ∈ q'.names, IsName name) →
    Closed t → Closed t' →
    q.lexemes ++ t = q'.lexemes ++ t' → q.canonical = q'.canonical ∧ t = t'
  | ⟨source, projection, clauses⟩, ⟨source', projection', clauses'⟩, t, t', hq, hq', ht, ht', h => by
    obtain ⟨hhead, hclauses⟩ := List.forall_mem_append.mp hq
    obtain ⟨hhead', hclauses'⟩ := List.forall_mem_append.mp hq'
    obtain ⟨hprojection, -⟩ := List.forall_mem_append.mp hhead
    obtain ⟨hprojection', -⟩ := List.forall_mem_append.mp hhead'
    simp only [Query.lexemes, List.append_assoc, List.cons_append, List.cons.injEq, true_and] at h
    obtain ⟨hp, h⟩ := Projection.eq_of_lexemes hprojection hprojection' h
    obtain ⟨hs, h⟩ := Source.eq_of_lexemes (Clause.head?_lexemesWhere_ne clauses ht)
      (Clause.head?_lexemesWhere_ne clauses' ht') h
    obtain ⟨hcs, ht⟩ := Clause.canonicalList_of_lexemes clauses hclauses hclauses' ht ht'
      (Clause.eq_of_lexemesWhere ht ht' h)
    rw [Query.canonical, Query.canonical, hp, hs, hcs]
    exact ⟨rfl, ht⟩

end

/-! ## Texts of queries -/

mutual

theorem Predicate.render_canonical : ∀ p : Predicate, p.canonical.render = p.render
  | .compare c op v => by
    rw [Predicate.canonical, Predicate.render, Predicate.render, v.render_canonical]
  | .isNull _ => rfl
  | .isNotNull _ => rfl
  | .correlate .. => rfl
  | .existence q negated => by
    rw [Predicate.canonical, Predicate.render, Predicate.render, q.render_canonical]
  | .membership c q negated => by
    rw [Predicate.canonical, Predicate.render, Predicate.render, q.render_canonical]
  | .count q threshold => by
    rw [Predicate.canonical, Predicate.render, Predicate.render, q.render_canonical]
  | .group cs => by
    rw [Predicate.canonical, Predicate.render, Predicate.render, Clause.renderList_canonical cs]

theorem Clause.renderList_canonical : ∀ cs : List Clause,
    Clause.renderList (Clause.canonicalList cs) = Clause.renderList cs
  | [] => rfl
  | ⟨_, p⟩ :: rest => by
    rw [Clause.canonicalList, Clause.renderList, Clause.renderList, p.render_canonical,
      Clause.renderRest_canonical rest]

theorem Clause.renderRest_canonical : ∀ cs : List Clause,
    Clause.renderRest (Clause.canonicalRest cs) = Clause.renderRest cs
  | [] => rfl
  | ⟨_, p⟩ :: rest => by
    rw [Clause.canonicalRest, Clause.renderRest, Clause.renderRest, p.render_canonical,
      Clause.renderRest_canonical rest]

theorem Query.render_canonical : ∀ q : Query, q.canonical.render = q.render
  | ⟨_, _, []⟩ => rfl
  | ⟨_, _, ⟨k, p⟩ :: rest⟩ => by
    have hcs := Clause.renderList_canonical (⟨k, p⟩ :: rest)
    rw [Clause.canonicalList] at hcs
    simp only [Query.canonical, Clause.canonicalList, Query.render, hcs]

end

/-- Queries whose names are names have the same text just if they are the same, but for
the connectives that begin a list of clauses and the sort of a number. -/
theorem Query.render_unambiguous {q q' : Query} (h : ∀ name ∈ q.names, IsName name)
    (h' : ∀ name ∈ q'.names, IsName name) :
    q.render = q'.render ↔ q.canonical = q'.canonical := by
  constructor
  · intro hrender
    have hlexemes := q.lexemes_render h parted_nil
    rw [hrender, q'.lexemes_render h' parted_nil] at hlexemes
    exact (Query.canonical_of_lexemes q h h' .nil .nil hlexemes.symm).1
  · intro hcanonical
    rw [← q.render_canonical, hcanonical, q'.render_canonical]

namespace Board

/-- Posts by their score or their title, with few comments. -/
def popular (first : Connective) (score : Literal) (titles : List Clause) : Query where
  source := .labelled "posts" "p"
  projection := .columns [.bare "id", .qualified "p" "title"]
  clauses := ⟨first, .compare (.bare "score") .ge score⟩ :: titles ++
    [⟨.and, .count (.ofTable "comments") ⟨.fewerThan, 10⟩⟩, ⟨.or, .group []⟩]

def orTitled (title : String) : Clause := ⟨.or, .compare (.bare "title") .eq (.text title)⟩

/-- A text that holds what looks like another clause is not two clauses. -/
theorem render_unambiguous_popular :
    let q := popular .or (.uint 5) [orTitled "a' OR title = 'b"]
    let same := popular .and (.int 5) [orTitled "a' OR title = 'b"]
    let other := popular .and (.int 5) [orTitled "a", orTitled "b"]
    (∀ name ∈ q.names, IsName name) ∧ (∀ name ∈ same.names, IsName name) ∧
      (∀ name ∈ other.names, IsName name) ∧ q.render = same.render ∧ q.render ≠ other.render := by
  intro q same other
  have hq : ∀ name ∈ q.names, IsName name := by decide
  have hsame : ∀ name ∈ same.names, IsName name := by decide
  have hother : ∀ name ∈ other.names, IsName name := by decide
  refine ⟨hq, hsame, hother, (Query.render_unambiguous hq hsame).mpr rfl, fun hrender => ?_⟩
  have hcanonical := (Query.render_unambiguous hq hother).mp hrender
  revert hcanonical
  decide

end Board
end Semijoin
