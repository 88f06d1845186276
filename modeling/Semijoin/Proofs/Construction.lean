import Semijoin.Proofs.Walk
import Std.Data.TreeMap

/-! # Schemas as they were put together

A model is put together from relations and a schema from models, and what is given later
replaces what has its name.  `Schema.assemble_exact` says what a schema answers then,
whatever was given in whatever order: the last record of the name that is asked for, or
which name was not given.  So the compiler may go on by the name of the related model: it
goes on in the model that the relation leads to (`Graph.compileIn`). -/
set_option autoImplicit false
namespace Semijoin

universe u v

/-! ## The last record of a name -/

/-- Of the records called `name`, `a` comes last. -/
def LastNamed {α : Type u} (key : α → String) (records : List α) (name : String) (a : α) : Prop :=
  ∃ before after, records = before ++ a :: after ∧ key a = name ∧ ∀ b ∈ after, key b ≠ name

theorem lastNamed_map_iff {α : Type u} {β : Type v} {key : β → String} {f : α → β}
    {records : List α} {name : String} {b : β} :
    LastNamed key (records.map f) name b ↔
      ∃ a, LastNamed (fun a => key (f a)) records name a ∧ f a = b := by
  constructor
  · rintro ⟨before, after, hrecords, hname, hafter⟩
    obtain ⟨front, back, rfl, -, hback⟩ := List.map_eq_append_iff.mp hrecords
    obtain ⟨a, rest, rfl, rfl, rfl⟩ := List.map_eq_cons_iff.mp hback
    rw [List.forall_mem_map] at hafter
    exact ⟨a, ⟨front, rest, rfl, hname, hafter⟩, rfl⟩
  · rintro ⟨a, ⟨before, after, rfl, hname, hafter⟩, rfl⟩
    refine ⟨before.map f, after.map f, ?_, hname, ?_⟩
    · rw [List.map_append, List.map_cons]
    · rwa [List.forall_mem_map]

namespace Catalog

variable {α : Type u} {key : α → String} {records : List α} {name : String}

theorem find?_ofList_iff_lastNamed {a : α} :
    (ofList records : Catalog α key).find? name = some a ↔ LastNamed key records name a := by
  rw [find?_ofList, List.find?_eq_some_iff_append, beq_iff_eq]
  have hother : ∀ b : α, (!key b == name) = true ↔ key b ≠ name := fun b => by simp
  constructor
  · rintro ⟨hkey, after, before, hreverse, hafter⟩
    refine ⟨before.reverse, after.reverse, ?_, hkey, fun b hb => ?_⟩
    · rw [List.reverse_eq_append_iff.mp hreverse, List.reverse_cons, List.append_assoc]
      rfl
    · exact (hother b).mp (hafter b (List.mem_reverse.mp hb))
  · rintro ⟨before, after, rfl, hkey, hafter⟩
    refine ⟨hkey, after.reverse, before.reverse, ?_, fun b hb => ?_⟩
    · rw [List.reverse_append, List.reverse_cons, List.append_assoc]
      rfl
    · exact (hother b).mpr (hafter b (List.mem_reverse.mp hb))

theorem find?_ofList_eq_none_iff :
    (ofList records : Catalog α key).find? name = none ↔ ∀ a ∈ records, key a ≠ name := by
  rw [find?_ofList, List.find?_eq_none]
  simp only [List.mem_reverse, beq_iff_eq, ne_eq]

/-- The records in a map that keeps the keys apart from them. -/
def keyed (key : α → String) (records : List α) : Std.TreeMap String α :=
  records.foldl (fun map a => map.insert (key a) a) ∅

/-- A record inserted into a map and a catalog that answer alike leaves them so. -/
theorem getElem?_insert_eq {map : Std.TreeMap String α} {c : Catalog α key}
    (h : ∀ name, map[name]? = c.find? name) (a : α) (name : String) :
    (map.insert (key a) a)[name]? = (c.insert a).find? name := by
  rw [Std.TreeMap.getElem?_insert, find?_insert, h]
  simp only [Std.compare_eq_iff_eq, @eq_comm _ name]

/-- The keys never part from the names: under every key the map has what the catalog finds
by its name. -/
theorem getElem?_keyed (records : List α) (name : String) :
    (keyed key records)[name]? = (ofList records : Catalog α key).find? name := by
  have hrun : ∀ (records : List α) (map : Std.TreeMap String α) (c : Catalog α key),
      (∀ name, map[name]? = c.find? name) → ∀ name,
        (records.foldl (fun map a => map.insert (key a) a) map)[name]? =
          (records.foldl insert c).find? name := by
    intro records
    induction records with
    | nil => intro map c h; exact h
    | cons a rest ih =>
        intro map c h
        exact ih _ _ (getElem?_insert_eq h a)
  exact hrun records ∅ ∅ (fun name => Std.TreeMap.getElem?_emptyc) name

end Catalog

/-! ## Putting models and schemas together -/

/-- What a model is given while it is put together. -/
inductive Model.Part where
  | relation (r : Relation)
  | mode (mode : Mode)

def Model.Part.relation? : Model.Part → Option Relation
  | relation r => some r
  | mode _ => none

def Model.give (m : Model) : Model.Part → Model
  | .relation r => m.declare r
  | .mode mode => m.inMode mode

/-- A model by what it was given, in order. -/
structure Draft where
  name : String
  table : String
  parts : List Model.Part

namespace Draft

def relations (d : Draft) : List Relation := d.parts.filterMap Model.Part.relation?

def model (d : Draft) : Model := d.parts.foldl Model.give (.ofTable d.name d.table)

end Draft

theorem Model.foldl_give (parts : List Part) : ∀ m : Model,
    (parts.foldl give m).name = m.name ∧ (parts.foldl give m).relations =
      (parts.filterMap Part.relation?).foldl Catalog.insert m.relations := by
  induction parts with
  | nil => intro m; exact ⟨rfl, rfl⟩
  | cons part rest ih =>
      intro m
      cases part with
      | relation r => exact ih (m.declare r)
      | mode mode => exact ih (m.inMode mode)

namespace Draft

theorem name_model (d : Draft) : d.model.name = d.name :=
  (Model.foldl_give d.parts (.ofTable d.name d.table)).1

theorem relations_model (d : Draft) : d.model.relations = .ofList d.relations :=
  (Model.foldl_give d.parts (.ofTable d.name d.table)).2

theorem relation?_model_iff {d : Draft} {name : String} {r : Relation} :
    d.model.relation? name = some r ↔ LastNamed Relation.name d.relations name r := by
  rw [Model.relation?, relations_model, Catalog.find?_ofList_iff_lastNamed]

theorem relation?_model_eq_none_iff {d : Draft} {name : String} :
    d.model.relation? name = none ↔ ∀ r ∈ d.relations, r.name ≠ name := by
  rw [Model.relation?, relations_model, Catalog.find?_ofList_eq_none_iff]

end Draft

/-- A model put into a schema, with or without the question which one it replaces. -/
inductive Insertion where
  | insert (d : Draft)
  | replace (d : Draft)

def Insertion.draft : Insertion → Draft
  | insert d => d
  | replace d => d

namespace Schema

def put (s : Schema) : Insertion → Schema
  | .insert d => s.insert d.model
  | .replace d => (s.replace d.model).2

def assemble (insertions : List Insertion) : Schema := insertions.foldl put empty

theorem put_eq (s : Schema) (i : Insertion) : s.put i = s.insert i.draft.model := by
  cases i with
  | insert d => rfl
  | replace d => rfl

theorem models_assemble (insertions : List Insertion) :
    (assemble insertions).models = .ofList ((insertions.map Insertion.draft).map Draft.model) := by
  have hrun : ∀ (insertions : List Insertion) (s : Schema), (insertions.foldl put s).models =
      ((insertions.map Insertion.draft).map Draft.model).foldl Catalog.insert s.models := by
    intro insertions
    induction insertions with
    | nil => intro s; rfl
    | cons i rest ih =>
        intro s
        rw [List.foldl_cons, ih, put_eq]
        rfl
  exact hrun insertions empty

/-! ## What a schema answers -/

/-- The schema answers by the models it was given: what it finds is the last of the name,
and what it does not find was not given. -/
structure Answers (s : Schema) (given : List Draft) : Prop where
  model : ∀ name m, s.model? name = some m ↔
    ∃ d, LastNamed Draft.name given name d ∧ d.model = m
  modelName : ∀ name m, s.model? name = some m → m.name = name
  noModel : ∀ name e, s.model name = .error e ↔
    e = .unknownModel name ∧ ∀ d ∈ given, d.name ≠ name
  relation : ∀ model name r, s.relation model name = .ok r ↔
    ∃ d, LastNamed Draft.name given model d ∧ LastNamed Relation.name d.relations name r
  relationName : ∀ model name r, s.relation model name = .ok r → r.name = name
  noRelation : ∀ model name e, s.relation model name = .error e ↔
    (e = .unknownModel model ∧ ∀ d ∈ given, d.name ≠ model) ∨
      (e = .unknownRelation model name ∧ ∃ d, LastNamed Draft.name given model d ∧
        ∀ r ∈ d.relations, r.name ≠ name)

variable {s : Schema} {name : String}

theorem model?_assemble_iff {insertions : List Insertion} {m : Model} :
    (assemble insertions).model? name = some m ↔
      ∃ d, LastNamed Draft.name (insertions.map Insertion.draft) name d ∧ d.model = m := by
  rw [model?, models_assemble, Catalog.find?_ofList_iff_lastNamed, lastNamed_map_iff]
  simp only [Draft.name_model]

theorem model?_assemble_eq_none_iff {insertions : List Insertion} :
    (assemble insertions).model? name = none ↔
      ∀ d ∈ insertions.map Insertion.draft, d.name ≠ name := by
  rw [model?, models_assemble, Catalog.find?_ofList_eq_none_iff, List.forall_mem_map]
  simp only [Draft.name_model]

theorem exists_model?_assemble_iff {insertions : List Insertion} {p : Model → Prop} :
    (∃ m, (assemble insertions).model? name = some m ∧ p m) ↔
      ∃ d, LastNamed Draft.name (insertions.map Insertion.draft) name d ∧ p d.model := by
  constructor
  · rintro ⟨m, hm, hp⟩
    obtain ⟨d, hd, rfl⟩ := model?_assemble_iff.mp hm
    exact ⟨d, hd, hp⟩
  · rintro ⟨d, hd, hp⟩
    exact ⟨d.model, model?_assemble_iff.mpr ⟨d, hd, rfl⟩, hp⟩

theorem answers_assemble (insertions : List Insertion) :
    (assemble insertions).Answers (insertions.map Insertion.draft) where
  model _ _ := model?_assemble_iff
  modelName _ _ h := Catalog.key_of_find? h
  noModel name e := by rw [Graph.model_eq_error_iff, graph_model?, model?_assemble_eq_none_iff]
  relation model name r := by
    simp only [Graph.relation_eq_ok_iff, graph_model?, exists_model?_assemble_iff]
    simp only [Draft.relation?_model_iff]
  relationName model name r h := by
    obtain ⟨m, -, hr⟩ := Graph.relation_eq_ok_iff.mp h
    exact Catalog.key_of_find? hr
  noRelation model name e := by
    rw [Graph.relation_eq_error_iff, graph_model?, model?_assemble_eq_none_iff,
      exists_model?_assemble_iff]
    simp only [Draft.relation?_model_eq_none_iff]

/-! ## Going on in the related model -/

end Schema

namespace Graph

/-- One hop from a model itself: only the related model is looked up. -/
def hopIn (g : Graph) (index : Nat) (m : Model) (outer : Source) (segment : String) :
    Except FilterError Hop :=
  match m.relation? segment with
  | none => .error (.unknownRelation m.name segment)
  | some relation => do
    let (parentKey, relatedKey) ← relation.keys
    let related ← g.model relation.related
    let source := outer.nested related.table index
    return { index, relation, related, source,
             join := ⟨outer.column parentKey, source.column relatedKey⟩ }

/-- Compiles the hops from `segment` on, each from the very model that the relation before
it leads to. -/
def compileIn (g : Graph) (c : Condition) (mode : Mode) (index : Nat) (m : Model)
    (outer : Source) (segment : String) : List String → Except FilterError Compiled
  | [] => do
    let h ← g.hopIn index m outer segment
    return h.last mode c
  | next :: rest => do
    let h ← g.hopIn index m outer segment
    let inner ← g.compileIn c mode (index + 1) h.related h.source next rest
    return h.around mode inner

variable {g : Graph}

/-- A hop leads to the model of the name that its relation gives, and that model is found by
its own name. -/
theorem related_of_hop (hg : g.KeepsNames) {index : Nat} {model segment : String} {outer : Source}
    {h : Hop} (hh : g.hop index model outer segment = .ok h) :
    h.related.name = h.relation.related ∧ g.model? h.related.name = some h.related := by
  rw [hop] at hh
  obtain ⟨relation, -, hh⟩ := bind_ok hh
  obtain ⟨keys, -, hh⟩ := bind_ok hh
  obtain ⟨related, hrelated, hh⟩ := bind_ok hh
  cases hh
  have hfound := model_eq_ok_iff.mp hrelated
  have hname : related.name = relation.related := hg _ _ hfound
  refine ⟨hname, ?_⟩
  rw [hname]
  exact hfound

theorem hop_eq_hopIn {m : Model} (hm : g.model? m.name = some m) (index : Nat) (outer : Source)
    (segment : String) : g.hop index m.name outer segment = g.hopIn index m outer segment := by
  rw [hop, hopIn, relation, hm]
  cases hr : m.relation? segment with
  | none =>
      simp only [hr]
      rfl
  | some r =>
      simp only [hr]
      rfl

/-- Going on by the name of the related model is going on in that model. -/
theorem compileFrom_eq_compileIn (hg : g.KeepsNames) (c : Condition) (mode : Mode) :
    ∀ (rest : List String) (index : Nat) (m : Model) (outer : Source) (segment : String),
      g.model? m.name = some m →
      g.compileFrom c mode index m.name outer segment rest =
        g.compileIn c mode index m outer segment rest := by
  -- a model that is found by its own name is what every hop starts from and leads to
  intro rest
  induction rest with
  | nil =>
      intro index m outer segment hm
      rw [compileFrom, compileIn, hop_eq_hopIn hm]
  | cons next rest ih =>
      intro index m outer segment hm
      rw [compileFrom, compileIn, ← hop_eq_hopIn hm]
      cases hh : g.hop index m.name outer segment with
      | error e => rfl
      | ok h =>
          obtain ⟨-, hrelated⟩ := related_of_hop hg hh
          simp only [bind, Except.bind, ih (index + 1) h.related h.source next hrelated]

theorem compile_eq_compileIn (hg : g.KeepsNames) (model : String) (outer : Source) (c : Condition)
    (mode : Mode) : g.compile model outer c mode =
      g.model model >>= fun m => g.compileIn c mode 0 m outer c.path.first c.path.rest := by
  cases hm : g.model model with
  | ok m =>
      have hfound := model_eq_ok_iff.mp hm
      have hname : m.name = model := hg _ _ hfound
      subst hname
      exact compileFrom_eq_compileIn hg c mode c.path.rest 0 m outer c.path.first hfound
  | error e =>
      obtain ⟨rfl, hnone⟩ := model_eq_error_iff.mp hm
      have hhop : g.hop 0 model outer c.path.first = .error (.unknownModel model) := by
        rw [hop, relation, hnone]
        rfl
      rw [compile]
      -- the root is looked up by the first hop, whether or not there is another
      cases c.path.rest with
      | _ =>
          rw [compileFrom, hhop]
          rfl

end Graph

namespace Schema

/-- A schema answers by the models it was given, and so does a map that keeps its keys apart
from the records.  An insertion answers with the model it replaces, the last one given of
its name, and leaves the answers to all other names.  A hop leads to the model that is given
last of the name in its relation, and to compile a path by the names of the models on it is
to look the first of them up and to go on from each to the next. -/
theorem assemble_exact (insertions : List Insertion) :
    (assemble insertions).Answers (insertions.map Insertion.draft) ∧
    (∀ name, (Catalog.keyed Model.name ((insertions.map Insertion.draft).map Draft.model))[name]? =
      (assemble insertions).model? name) ∧
    (∀ (d : Draft) name, (Catalog.keyed Relation.name d.relations)[name]? =
      d.model.relation? name) ∧
    (∀ d : Draft,
      (∀ old, ((assemble insertions).replace d.model).1 = some old ↔
        ∃ d', LastNamed Draft.name (insertions.map Insertion.draft) d.name d' ∧ d'.model = old) ∧
      ∀ name, ((assemble insertions).replace d.model).2.model? name =
        if name = d.name then some d.model else (assemble insertions).model? name) ∧
    (∀ index model outer segment (h : Hop),
      (assemble insertions).graph.hop index model outer segment = .ok h →
        h.related.name = h.relation.related ∧
          (assemble insertions).model? h.related.name = some h.related) ∧
    ∀ model outer (c : Condition) mode, (assemble insertions).graph.compile model outer c mode =
      (assemble insertions).model model >>= fun m =>
        (assemble insertions).graph.compileIn c mode 0 m outer c.path.first c.path.rest := by
  refine ⟨answers_assemble insertions, fun name => ?_, fun d name => ?_, fun d => ⟨fun old => ?_,
    fun name => ?_⟩, fun _ _ _ _ _ => Graph.related_of_hop (keepsNames _),
    fun model outer c mode => ?_⟩
  · rw [Catalog.getElem?_keyed, model?, models_assemble]
  · rw [Catalog.getElem?_keyed, Model.relation?, d.relations_model]
  · rw [replace, ← model?, d.name_model]
    exact model?_assemble_iff
  · rw [replace, insert, model?, Catalog.find?_insert, d.name_model]
    rfl
  · exact Graph.compile_eq_compileIn (keepsNames _) model outer c mode

end Schema

/-! ## A board put together anew

Posts are given twice, and the second time their comments are. -/

namespace Board

def firstPostDraft : Draft := ⟨"post", "drafts", []⟩

def commentDraft : Draft := ⟨"comment", "comments", [.relation replies]⟩

def postDraft : Draft where
  name := "post"
  table := "posts"
  parts := [.relation (.hasMany "comments" "post" "parent_id" "id"), .mode .membership,
    .relation comments]

def insertions : List Insertion :=
  [.insert firstPostDraft, .insert commentDraft, .replace postDraft]

theorem assemble_exact_comments :
    (Schema.assemble insertions).relation "post" "comments" = .ok comments ∧
    ((Schema.assemble insertions).replace firstPostDraft.model).1 = some postDraft.model ∧
    ∃ h, (Schema.assemble insertions).graph.hop 0 "post" (.ofTable "posts") "comments" = .ok h ∧
      h.related.name = h.relation.related ∧
      (Schema.assemble insertions).model? h.related.name = some h.related := by
  obtain ⟨hanswers, -, -, hreplace, hhop, -⟩ := Schema.assemble_exact insertions
  have hpost : LastNamed Draft.name (insertions.map Insertion.draft) "post" postDraft :=
    ⟨[firstPostDraft, commentDraft], [], rfl, rfl, nofun⟩
  have hcomments : LastNamed Relation.name postDraft.relations "comments" comments :=
    ⟨[.hasMany "comments" "post" "parent_id" "id"], [], rfl, rfl, nofun⟩
  obtain ⟨hold, -⟩ := hreplace firstPostDraft
  exact ⟨(hanswers.relation "post" "comments" comments).mpr ⟨postDraft, hpost, hcomments⟩,
    (hold postDraft.model).mpr ⟨postDraft, hpost, rfl⟩, _, rfl,
    hhop 0 "post" (.ofTable "posts") "comments" _ rfl⟩

end Board
end Semijoin
