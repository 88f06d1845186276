import Semijoin.Proofs.Walk

/-! # Segments of a path

A text names a path if it is not empty, neither begins nor ends with a dot and has no two
dots in a row (`Path.IsPathText`).  `Path.parse_exact` says that exactly these are parsed,
that parsing and printing undo each other on segments without dots, and that compiling may
go through a path by index: it reads a segment at every index it comes to, and comes to all
of them, in order, unless a hop fails. -/
set_option autoImplicit false
namespace Semijoin

/-! ## Splitting and joining -/

namespace Text

variable {sep : Char}

theorem intercalate_splitAll (sep : Char) (text : List Char) :
    [sep].intercalate ((splitAll sep text).1 :: (splitAll sep text).2) = text := by
  induction text with
  | nil => rfl
  | cons c rest ih =>
      rw [splitAll]
      by_cases hc : c = sep
      · simp only [if_pos hc]
        rw [List.intercalate_cons_cons, ih, hc]
        rfl
      · simp only [if_neg hc]
        cases hothers : (splitAll sep rest).2 with
        | nil =>
            rw [hothers, List.intercalate_singleton] at ih
            rw [List.intercalate_singleton, ih]
        | cons next others =>
            rw [hothers, List.intercalate_cons_cons] at ih
            rw [List.intercalate_cons_cons, List.cons_append, List.cons_append, ih]

theorem notMem_of_mem_splitAll (sep : Char) (text : List Char) :
    ∀ piece ∈ (splitAll sep text).1 :: (splitAll sep text).2, sep ∉ piece := by
  induction text with
  | nil => simp [splitAll]
  | cons c rest ih =>
      rw [splitAll]
      by_cases hc : c = sep
      · simp only [if_pos hc]
        rw [List.forall_mem_cons]
        exact ⟨List.not_mem_nil, ih⟩
      · simp only [if_neg hc]
        rw [List.forall_mem_cons] at ih ⊢
        refine ⟨fun hmem => ?_, ih.2⟩
        rcases List.mem_cons.mp hmem with hsep | hmem
        · exact hc hsep.symm
        · exact ih.1 hmem

/-- Pieces without the separator are the pieces of the text they are joined to. -/
theorem splitAll_intercalate {pieces : List (List Char)} (hne : pieces ≠ [])
    (h : ∀ piece ∈ pieces, sep ∉ piece) :
    (splitAll sep ([sep].intercalate pieces)).1 :: (splitAll sep ([sep].intercalate pieces)).2 =
      pieces := by
  have hsplit := List.splitOn_intercalate sep
    (notMem_of_mem_splitAll sep ([sep].intercalate pieces)) (List.cons_ne_nil _ _)
  rw [intercalate_splitAll, List.splitOn_intercalate sep h hne] at hsplit
  exact hsplit.symm

theorem splitAll_fst_eq_nil_iff (text : List Char) :
    (splitAll sep text).1 = [] ↔ text = [] ∨ text.head? = some sep := by
  cases text with
  | nil => simp [splitAll]
  | cons c rest =>
      by_cases hc : c = sep
      · simp [splitAll, hc]
      · simp [splitAll, hc]

theorem pair_infix_cons_iff {c : Char} {rest : List Char} : [sep, sep] <:+: c :: rest ↔
    (sep = c ∧ rest.head? = some sep) ∨ [sep, sep] <:+: rest := by
  rw [List.infix_cons_iff, List.cons_prefix_cons, List.singleton_prefix_iff_head?_eq_some]

/-- A piece behind a separator is empty where the text ends or the next separator stands. -/
theorem splitAll_snd_nonempty_iff (text : List Char) :
    (∀ piece ∈ (splitAll sep text).2, piece ≠ []) ↔
      text.getLast? ≠ some sep ∧ ¬ [sep, sep] <:+: text := by
  induction text with
  | nil => simp [splitAll]
  | cons c rest ih =>
      rw [splitAll, pair_infix_cons_iff]
      by_cases hc : c = sep
      · simp only [if_pos hc]
        rw [List.forall_mem_cons, ih, Ne, splitAll_fst_eq_nil_iff]
        cases rest with
        | nil => simp [hc]
        | cons d rest => simp [hc, and_left_comm]
      · simp only [if_neg hc]
        rw [ih]
        cases rest with
        | nil => simp [hc]
        | cons d rest => simp [Ne.symm hc]

end Text

/-! ## Parsing -/

namespace Path

structure IsPathText (text : String) : Prop where
  nonempty : text ≠ ""
  start : text.toList.head? ≠ some '.'
  finish : text.toList.getLast? ≠ some '.'
  apart : ¬ ['.', '.'] <:+: text.toList

/-- What stands between the dots of a text. -/
def pieces (text : String) : List String :=
  ((Text.splitAll '.' text.toList).1 :: (Text.splitAll '.' text.toList).2).map String.ofList

theorem intercalate_pieces (text : String) : ".".intercalate (pieces text) = text := by
  apply String.toList_injective
  rw [String.toList_intercalate, pieces, List.map_map]
  have hid : String.toList ∘ String.ofList = id := funext fun _ => String.toList_ofList
  rw [hid, List.map_id]
  exact Text.intercalate_splitAll '.' text.toList

theorem notMem_of_mem_pieces (text : String) : ∀ piece ∈ pieces text, '.' ∉ piece.toList := by
  rw [pieces, List.forall_mem_map]
  intro piece hpiece
  rw [String.toList_ofList]
  exact Text.notMem_of_mem_splitAll '.' text.toList piece hpiece

theorem pieces_intercalate {segments : List String} (hne : segments ≠ [])
    (h : ∀ segment ∈ segments, '.' ∉ segment.toList) :
    pieces (".".intercalate segments) = segments := by
  have hlists : segments.map String.toList ≠ [] := by rwa [Ne, List.map_eq_nil_iff]
  have hdots : ∀ piece ∈ segments.map String.toList, '.' ∉ piece := by rwa [List.forall_mem_map]
  have hsplit := Text.splitAll_intercalate hlists hdots
  have hdot : ".".toList = ['.'] := rfl
  rw [pieces, String.toList_intercalate, hdot, hsplit, List.map_map]
  have hid : String.ofList ∘ String.toList = id := funext fun _ => String.ofList_toList
  rw [hid, List.map_id]

theorem pieces_nonempty_iff (text : String) :
    (∀ piece ∈ pieces text, piece ≠ "") ↔ IsPathText text := by
  have hempty : ∀ piece : List Char, String.ofList piece ≠ "" ↔ piece ≠ [] := by
    intro piece
    rw [Ne, ← String.toList_inj, String.toList_ofList]
    rfl
  have htext : text.toList = [] ↔ text = "" := by
    rw [← String.toList_inj]
    rfl
  rw [pieces, List.forall_mem_map]
  simp only [hempty]
  rw [List.forall_mem_cons, Ne, Text.splitAll_fst_eq_nil_iff, Text.splitAll_snd_nonempty_iff, htext,
    not_or]
  constructor
  · rintro ⟨⟨hne, hstart⟩, hfinish, hapart⟩
    exact ⟨hne, hstart, hfinish, hapart⟩
  · rintro ⟨hne, hstart, hfinish, hapart⟩
    exact ⟨⟨hne, hstart⟩, hfinish, hapart⟩

theorem ofSegments_eq_ok_iff {segments : List String} {p : Path} :
    ofSegments segments = .ok p ↔ p.segments = segments := by
  obtain ⟨first, rest, hnonempty⟩ := p
  cases segments with
  | nil =>
      rw [ofSegments]
      simp only [Path.segments, reduceCtorEq]
  | cons head tail =>
      rw [ofSegments, Path.segments]
      split
      · simp only [Except.ok.injEq, mk.injEq, List.cons.injEq]
        exact and_congr eq_comm eq_comm
      · rename_i hempty
        constructor
        · intro hok
          cases hok
        · intro heq
          rw [heq] at hnonempty
          contradiction

theorem ofSegments_segments (p : Path) : ofSegments p.segments = .ok p :=
  ofSegments_eq_ok_iff.mpr rfl

/-- A text is parsed as its pieces are put together, and refused under the same name. -/
theorem parse_eq_ofSegments (text : String) : parse text = ofSegments (pieces text) := by
  have htext := intercalate_pieces text
  rw [pieces, List.map_cons] at htext
  rw [parse, pieces, List.map_cons, ofSegments, htext]
  rfl

theorem parse_intercalate {segments : List String}
    (h : ∀ segment ∈ segments, '.' ∉ segment.toList) :
    parse (".".intercalate segments) = ofSegments segments := by
  by_cases hne : segments = []
  · subst hne
    rfl
  · rw [parse_eq_ofSegments, pieces_intercalate hne h]

theorem parse_eq_ok_iff {text : String} {p : Path} :
    parse text = .ok p ↔ p.render = text ∧ ∀ segment ∈ p.segments, '.' ∉ segment.toList := by
  rw [parse_eq_ofSegments, ofSegments_eq_ok_iff]
  constructor
  · intro h
    rw [render, h]
    exact ⟨intercalate_pieces text, notMem_of_mem_pieces text⟩
  · rintro ⟨rfl, h⟩
    exact (pieces_intercalate (List.cons_ne_nil _ _) h).symm

theorem exists_parse_iff (text : String) : (∃ p, parse text = .ok p) ↔ IsPathText text := by
  rw [← pieces_nonempty_iff, parse_eq_ofSegments]
  constructor
  · rintro ⟨p, hp⟩
    rw [← ofSegments_eq_ok_iff.mp hp]
    exact p.nonempty
  · intro h
    rw [pieces, List.map_cons] at h ⊢
    exact ⟨⟨_, _, h⟩, dif_pos h⟩

theorem endsAt_iff (p : Path) (index : Nat) :
    p.endsAt index = true ↔ index + 1 = p.segments.length := by
  rw [endsAt, beq_iff_eq, lastHop, segments, List.length_cons]
  omega

/-- Where a path goes on with a segment, it has that segment at the index, and ends there if
it goes on with no other. -/
theorem segment_of_drop {p : Path} {index : Nat} {segment : String} {rest : List String}
    (h : p.segments.drop index = segment :: rest) :
    ∃ hindex : index < p.segments.length, p.segments[index] = segment ∧
      p.segments.drop (index + 1) = rest ∧ (p.endsAt index = true ↔ rest = []) := by
  have hlength := congrArg List.length h
  rw [List.length_drop, List.length_cons] at hlength
  have hindex : index < p.segments.length := by omega
  rw [List.drop_eq_getElem_cons hindex] at h
  obtain ⟨hread, hrest⟩ := List.cons.inj h
  refine ⟨hindex, hread, hrest, ?_⟩
  rw [endsAt_iff, ← List.length_eq_zero_iff]
  omega

end Path

/-! ## Going by index -/

/-- A walk over a path by index: the indices at which it read a segment, in order, and what
it came to, which is nothing if there was no segment to read. -/
structure Indexed where
  visited : List Nat
  result : Option (Except FilterError Compiled)

/-- The walk came to `result` and read each of the `left` segments from `index` on, in
order, or, if it failed, the first of them. -/
def Indexed.Covers (walk : Indexed) (index left : Nat) (result : Except FilterError Compiled) :
    Prop :=
  walk.result = some result ∧
    ∃ n ≤ left, walk.visited = List.range' index n ∧ (result.isOk = true → n = left)

theorem Indexed.covers_error {walk : Indexed} {index left n : Nat} {e : FilterError}
    (hresult : walk.result = some (.error e)) (hn : n ≤ left)
    (hvisited : walk.visited = List.range' index n) : walk.Covers index left (.error e) := by
  refine ⟨hresult, n, hn, hvisited, fun hok => ?_⟩
  cases hok

namespace Graph

/-- Compiles the hops from `index` on by index: the segment is read off the path, and the
path is asked whether it is the last. -/
def compileAt (g : Graph) (c : Condition) (mode : Mode) (index : Nat) (model : String)
    (outer : Source) : Indexed :=
  if hindex : index < c.path.segments.length then
    match g.hop index model outer c.path.segments[index] with
    | .error e => ⟨[index], some (.error e)⟩
    | .ok h =>
      if c.path.endsAt index then ⟨[index], some (.ok (h.last mode c))⟩
      else
        let inner := g.compileAt c mode (index + 1) h.related.name h.source
        ⟨index :: inner.visited, inner.result.map (·.map (h.around mode))⟩
  else ⟨[index], none⟩
termination_by c.path.segments.length - index

theorem compileAt_covers (g : Graph) (c : Condition) (mode : Mode) :
    ∀ (rest : List String) (index : Nat) (segment model : String) (outer : Source),
      c.path.segments.drop index = segment :: rest →
      (g.compileAt c mode index model outer).Covers index (rest.length + 1)
        (g.compileFrom c mode index model outer segment rest) := by
  -- the index counts up while the path that is left gets shorter: the induction is on that
  intro rest
  induction rest with
  | nil =>
      intro index segment model outer hdrop
      obtain ⟨hindex, hread, -, hends⟩ := Path.segment_of_drop hdrop
      rw [compileAt, dif_pos hindex, hread, compileFrom]
      cases g.hop index model outer segment with
      | error e => exact Indexed.covers_error rfl (Nat.le_refl 1) rfl
      | ok h =>
          simp only [if_pos (hends.mpr rfl)]
          exact ⟨rfl, 1, Nat.le_refl _, rfl, fun _ => rfl⟩
  | cons next rest ih =>
      intro index segment model outer hdrop
      obtain ⟨hindex, hread, hrest, hends⟩ := Path.segment_of_drop hdrop
      rw [compileAt, dif_pos hindex, hread, compileFrom]
      cases g.hop index model outer segment with
      | error e => exact Indexed.covers_error rfl (Nat.le_add_left 1 _) rfl
      | ok h =>
          obtain ⟨hresult, n, hn, hvisited, hok⟩ :=
            ih (index + 1) next h.related.name h.source hrest
          have hgoes : ¬ c.path.endsAt index = true := fun h => List.cons_ne_nil _ _ (hends.mp h)
          simp only [if_neg hgoes, bind, Except.bind]
          rw [Indexed.Covers, hresult, hvisited, List.length_cons]
          cases hinner : g.compileFrom c mode (index + 1) h.related.name h.source next rest with
          | error e => exact Indexed.covers_error rfl (Nat.succ_le_succ hn) rfl
          | ok inner =>
              rw [hinner] at hok
              exact ⟨rfl, n + 1, by omega, rfl, fun _ => congrArg (· + 1) (hok rfl)⟩

end Graph

/-- Exactly the texts that name a path are parsed, and a refused text is reported as it is.
What is parsed has segments without dots and prints as the text, and every path of such
segments is parsed from its print; segments without dots are put together or refused as
their join is.  A path has a segment, and its last hop is the one index that it ends at; so
compiling by index finds a segment wherever it reads, and reads at each index once, in
order, up to the end or to the hop that fails. -/
theorem Path.parse_exact :
    (∀ text, (∃ p, parse text = .ok p) ↔ IsPathText text) ∧
    (∀ text p, parse text = .ok p ↔
      p.render = text ∧ ∀ segment ∈ p.segments, '.' ∉ segment.toList) ∧
    (∀ text e, parse text = .error e → e = .invalidPath text) ∧
    (∀ segments : List String, (∀ segment ∈ segments, '.' ∉ segment.toList) →
      ofSegments segments = parse (".".intercalate segments)) ∧
    (∀ p : Path, ofSegments p.segments = .ok p ∧ (∀ segment ∈ p.segments, segment ≠ "") ∧
      p.lastHop + 1 = p.segments.length ∧
      ∀ index, p.endsAt index = true ↔ index + 1 = p.segments.length) ∧
    ∀ (g : Graph) (model : String) (outer : Source) (c : Condition) (mode : Mode),
      (g.compileAt c mode 0 model outer).result = some (g.compile model outer c mode) ∧
      ∃ n ≤ c.path.segments.length,
        (g.compileAt c mode 0 model outer).visited = List.range n ∧
        ((g.compile model outer c mode).isOk = true → n = c.path.segments.length) := by
  refine ⟨exists_parse_iff, fun _ _ => parse_eq_ok_iff, fun _ _ => eq_invalidPath_of_parse,
    fun _ h => (parse_intercalate h).symm, fun p => ?_, fun g model outer c mode => ?_⟩
  · exact ⟨p.ofSegments_segments, p.nonempty, rfl, p.endsAt_iff⟩
  · obtain ⟨hresult, n, hn, hvisited, hok⟩ :=
      g.compileAt_covers c mode c.path.rest 0 c.path.first model outer rfl
    rw [← List.range_eq_range'] at hvisited
    exact ⟨hresult, n, hn, hvisited, hok⟩

/-- Segments with an empty one among them, and a path of two hops. -/
theorem Board.parse_exact_replies :
    (∀ segment ∈ ["comments", "", "replies"], '.' ∉ segment.toList) ∧
    Path.ofSegments ["comments", "", "replies"] = Path.parse "comments..replies" ∧
    Path.parse "comments.replies" = .ok path ∧
    (schema.graph.compile "post" (.ofTable "posts") (asks .none) .membership).isOk = true ∧
    (schema.graph.compileAt (asks .none) .membership 0 "post" (.ofTable "posts")).visited =
      [0, 1] := by
  obtain ⟨-, hparse, -, hsegments, -, hcompile⟩ := Path.parse_exact
  have hdots : ∀ segment ∈ ["comments", "", "replies"], '.' ∉ segment.toList := by decide
  have hok : (schema.graph.compile "post" (.ofTable "posts") (asks .none) .membership).isOk =
      true := rfl
  obtain ⟨-, n, -, hvisited, hlength⟩ :=
    hcompile schema.graph "post" (.ofTable "posts") (asks .none) .membership
  refine ⟨hdots, hsegments _ hdots, (hparse _ path).mpr ⟨rfl, by decide⟩, hok, ?_⟩
  rw [hvisited, hlength hok]
  rfl

end Semijoin
