import Semijoin.Proofs.Declared
import Semijoin.Proofs.Depth
import Semijoin.Proofs.Segments

/-! # Relations asked for by name

A declaration may call a relation anything, but a request reads the name as a path.
`SchemaDecl.asked_by_name_iff` says that asking by the name of a declared relation is asking
over that relation exactly if the name is not empty and has no dot.  An empty name is
refused, and one with a dot leads over other relations, if it leads anywhere. -/
set_option autoImplicit false
namespace Semijoin

namespace Path

theorem parse_of_notMem_dot {name : String} (hne : name ≠ "") (hdot : '.' ∉ name.toList) :
    ∃ p, parse name = .ok p ∧ p.segments = [name] := by
  have hsegments : ∀ segment ∈ [name], segment ≠ "" := by
    intro segment hsegment
    rwa [List.mem_singleton.mp hsegment]
  refine ⟨⟨name, [], hsegments⟩, parse_eq_ok_iff.mpr ⟨rfl, ?_⟩, rfl⟩
  intro segment hsegment
  rwa [List.mem_singleton.mp hsegment]

/-- A text with a dot is a path of more than one hop, if it is a path. -/
theorem rest_ne_nil_of_parse {name : String} {p : Path} (h : parse name = .ok p)
    (hdot : '.' ∈ name.toList) : p.rest ≠ [] := by
  obtain ⟨hrender, hsegments⟩ := parse_eq_ok_iff.mp h
  intro hrest
  have hname : p.first = name := by
    rw [← hrender, render, segments, hrest]
    rfl
  rw [← hname] at hdot
  exact hsegments p.first (List.mem_cons_self ..) hdot

end Path

/-! ## One hop and more -/

theorem Graph.walk_single {g : Graph} {model segment : String} {r : Relation} {related : Model}
    (hr : g.relation model segment = .ok r) (hk : r.kind.hasKeyPair = true)
    (hm : g.model? r.related = some related) : g.walk model [segment] = .ok [⟨r, related⟩] := by
  rw [walk, step_of_found hr hk hm]
  rfl

/-- What a declaration demands of related rows compares columns with values. -/
theorem RelationDecl.not_tests_constraints (r : RelationDecl) :
    ¬ Clause.Tests (Clause.merged r.relation.constraints) := by
  apply Clause.not_tests_merged
  rintro ⟨clause, hclause, htests⟩
  obtain ⟨decl, -, rfl⟩ := List.mem_map.mp hclause
  cases htests

/-- Over a relation as it was declared, one hop that asks nothing more is no nest of several. -/
theorem RelationDecl.filter_ne_nest (r : RelationDecl) (related : Model) (mode mode' : Mode)
    (t : Threshold) (c : Condition) (outer outer' : Source) (i i' : Nat) (st next : Step)
    (rest : List Step) :
    (Step.filter ⟨r.relation, related⟩ mode t outer i []).predicate ≠
      (Step.nest mode' c outer' i' st (next :: rest)).predicate := by
  intro heq
  have hqueries := congrArg Predicate.subquery? heq
  rw [Filter.predicate_subquery, Filter.predicate_subquery, Option.some.injEq] at hqueries
  have hdepth := congrArg Query.depth hqueries
  have hlast : (st :: next :: rest).getLast? = some _ :=
    List.getLast?_eq_some_getLast (List.cons_ne_nil _ _)
  rw [Step.depth_filter, List.nil_append,
    Clause.chainDepth_of_not_tests r.not_tests_constraints, Step.depth_nest _ _ _ _ _ _ _ hlast,
    List.length_cons] at hdepth
  omega

/-! ## Asking -/

theorem Query.conjoin_inj {q : Query} {p p' : Predicate} :
    q.conjoin p = q.conjoin p' ↔ p = p' := by
  simp [conjoin, push]

theorem Request.condition_path (request : Request) (p : Path) : (request.condition p).path = p := by
  cases request with
  | _ => rfl

namespace Selection

variable {sel : Selection} {s : Schema} {name : String}

/-- The selection with one clause more: so many rows are related by the one hop. -/
def overHop (sel : Selection) (s : Schema) (st : Step) (t : Threshold) : Selection :=
  { sel with
    query := sel.query.conjoin
      (st.filter (sel.currentMode s) t sel.query.source 0 []).predicate }

theorem call_of_parse {p : Path} (h : Path.parse name = .ok p) (request : Request) :
    sel.call s (.request name request) = sel.filterBy s (request.condition p) :=
  call_of_condition (by rw [Call.condition?, h]; rfl)

theorem walk_of_call {request : Request}
    (hok : (sel.call s (.request name request)).error? = none) :
    ∃ p st later, Path.parse name = .ok p ∧
      s.graph.walk sel.model p.segments = .ok (st :: later) := by
  cases hparse : Path.parse name with
  | error e =>
      rw [call_of_malformed (by rw [Call.condition?, hparse]; rfl)] at hok
      cases hok
  | ok p =>
      rw [call_of_parse hparse] at hok
      obtain ⟨st, later, hwalk⟩ := Graph.walk_of_attach hok
      rw [Request.condition_path] at hwalk
      exact ⟨p, st, later, rfl, hwalk⟩

theorem has_of_walk {p : Path} {st : Step} {later : List Step} (h : Path.parse name = .ok p)
    (hwalk : s.graph.walk sel.model p.segments = .ok (st :: later)) (t : Threshold) :
    (sel.call s (.request name (.has t))).error? = none ∧
      (sel.call s (.request name (.has t))).target = { sel with
        query := sel.query.conjoin (Step.nest (sel.currentMode s) { path := p, threshold := t }
          sel.query.source 0 st later).predicate } := by
  obtain ⟨herror, htarget⟩ := Graph.attach_of_walk (c := { path := p, threshold := t }) hwalk
    sel.query sel.query.source (sel.currentMode s)
  rw [call_of_parse h]
  exact ⟨herror, congrArg (fun query => { sel with query }) htarget⟩

/-- A name with a dot leads over two hops or more, if anywhere, and never just where the one
hop over a declared relation leads. -/
theorem has_of_mem_dot (hdot : '.' ∈ name.toList) (t : Threshold) (r : RelationDecl)
    (related : Model) (hok : (sel.call s (.request name (.has t))).error? = none) :
    (sel.call s (.request name (.has t))).target ≠ sel.overHop s ⟨r.relation, related⟩ t := by
  obtain ⟨p, st, later, hparse, hwalk⟩ := walk_of_call hok
  obtain ⟨segment, segments, hrest⟩ := List.exists_cons_of_ne_nil
    (Path.rest_ne_nil_of_parse hparse hdot)
  have htwo := hwalk
  rw [Path.segments, hrest] at htwo
  obtain ⟨_, steps, -, hlater, hsteps⟩ := Graph.walk_cons_ok htwo
  obtain ⟨next, rest, -, -, rfl⟩ := Graph.walk_cons_ok hlater
  cases hsteps
  rw [(has_of_walk hparse hwalk t).2, overHop]
  intro heq
  have hqueries := congrArg Selection.query heq
  rw [Query.conjoin_inj] at hqueries
  exact r.filter_ne_nest _ _ _ _ _ _ _ _ _ _ _ _ hqueries.symm

end Selection

/-- In what is built from a declaration, a request by the name of a declared relation, of a
kind with a key pair, succeeds for every number of rows asked, and adds the one hop over that
relation, if the name is not empty and has no dot; and only then, whatever number is asked. -/
theorem SchemaDecl.asked_by_name_iff {s : SchemaDecl} {d : Declared} (h : s.build = .ok d)
    {name : String} {m : ModelDecl} (hm : s.models[name]? = some m) {r : RelationDecl}
    (hr : r ∈ m.relations) (hk : r.kind.hasKeyPair = true) :
    ∃ related, d.schema.model? r.related = some related ∧
      ∀ (sel : Selection) (t : Threshold), sel.model = name →
        ((sel.call d.schema (.request r.name (.has t))).error? = none ∧
          (sel.call d.schema (.request r.name (.has t))).target =
            sel.overHop d.schema ⟨r.relation, related⟩ t ↔
          r.name ≠ "" ∧ '.' ∉ r.name.toList) := by
  have hrelation : d.schema.relation name r.name = .ok r.relation :=
    (holds_of_build h).relation name m hm r hr
  obtain ⟨hsound, -⟩ := schema_of_build h
  obtain ⟨related, hrelated⟩ := ((holds_of_build h).names r.related).mpr (hsound.declared hm r hr)
  refine ⟨related, hrelated, ?_⟩
  rintro sel t rfl
  constructor
  · rintro ⟨hok, htarget⟩
    refine ⟨fun hempty => ?_, fun hdot => ?_⟩
    · obtain ⟨p, -, -, hparse, -⟩ := Selection.walk_of_call hok
      rw [hempty] at hparse
      cases hparse
    · exact Selection.has_of_mem_dot hdot t r related hok htarget
  · rintro ⟨hne, hdot⟩
    obtain ⟨p, hparse, hsegments⟩ := Path.parse_of_notMem_dot hne hdot
    have hwalk := Graph.walk_single hrelation hk hrelated
    rw [← hsegments] at hwalk
    exact Selection.has_of_walk hparse hwalk t

/-! ## Names that are no segments

Posts declare their comments by a name that can be asked for, and, elsewhere, by two that
cannot. -/

namespace Board

theorem asked_by_name_comments :
    ∃ d, declaration.build = .ok d ∧ declaration.models["post"]? = some postDecl ∧
      commentsDecl ∈ postDecl.relations ∧ commentsDecl.kind.hasKeyPair = true ∧
      titled.model = "post" ∧
      ∃ related, d.schema.model? "comment" = some related ∧
        (titled.call d.schema (.request "comments" (.has ⟨.moreThan, 3⟩))).error? = none ∧
        (titled.call d.schema (.request "comments" (.has ⟨.moreThan, 3⟩))).target =
          titled.overHop d.schema ⟨commentsDecl.relation, related⟩ ⟨.moreThan, 3⟩ := by
  have hpost : declaration.models["post"]? = some postDecl := rfl
  have hcomments : commentsDecl ∈ postDecl.relations := List.mem_singleton_self _
  refine ⟨_, rfl, hpost, hcomments, rfl, rfl, ?_⟩
  obtain ⟨related, hrelated, hasked⟩ := SchemaDecl.asked_by_name_iff (s := declaration) rfl hpost
    hcomments rfl
  exact ⟨related, hrelated, (hasked titled ⟨.moreThan, 3⟩ rfl).mpr (by decide)⟩

def topDecl : RelationDecl where
  name := "top.comment"
  kind := .belongsTo
  related := "comment"
  parentKey := "top_comment_id"
  relatedKey := "id"

def namelessDecl : RelationDecl where
  name := ""
  kind := .hasOneOrMany
  related := "comment"
  parentKey := "id"
  relatedKey := "post_id"

def oddPostDecl : ModelDecl := ⟨"posts", none, [topDecl, namelessDecl]⟩

def oddDeclaration : SchemaDecl where
  models := .ofList [("post", oddPostDecl), ("comment", ⟨"comments", none, []⟩)]

/-- The declaration has no fault, but a post that is asked for its top comment is asked for
the relation "top" of posts first, which there is none. -/
theorem top_comment_not_asked :
    ¬ ∀ (s : SchemaDecl) (d : Declared) (name : String) (m : ModelDecl) (r : RelationDecl)
        (sel : Selection) (t : Threshold), s.build = .ok d → s.models[name]? = some m →
      r ∈ m.relations → r.kind.hasKeyPair = true → Selection.ofModel d.schema name = .ok sel →
      (sel.call d.schema (.request r.name (.has t))).error? = none := by
  intro hall
  have htop := hall oddDeclaration _ "post" oddPostDecl topDecl _ .any rfl rfl
    (List.mem_cons_self ..) rfl rfl
  cases htop

end Board
end Semijoin
