import Mathlib.Data.List.Nodup
import Semijoin.Declaration.Build
import Semijoin.Proofs.Refusal

/-! # Schemas as they were declared

A declaration has no fault exactly if it is sound: no model declares a relation
twice, and every relation leads to a declared model (`SchemaDecl.fault?_eq_none_iff`).
So what is built from it holds every record under its own name, and no relation
leads out of it (`Graph.Closed`).  `SchemaDecl.build_holds` puts this together:
the schema is the declaration, and a path can fail in it only for a relation that
was not declared or has no key pair. -/
set_option autoImplicit false
namespace Semijoin

universe u

/-- With keys of their own, exactly the listed records are found. -/
theorem Catalog.find?_ofList_iff {α : Type u} {key : α → String} {records : List α}
    (hnodup : (records.map key).Nodup) {name : String} {a : α} :
    (Catalog.ofList records : Catalog α key).find? name = some a ↔ a ∈ records ∧ key a = name := by
  constructor
  · intro h
    have hkey : key a = name := key_of_find? h
    rw [find?_ofList] at h
    exact ⟨List.mem_reverse.mp (List.mem_of_find?_eq_some h), hkey⟩
  · rintro ⟨ha, rfl⟩
    cases hfound : (Catalog.ofList records : Catalog α key).find? (key a) with
    | none =>
        rw [find?_ofList, List.find?_eq_none] at hfound
        exact absurd (beq_self_eq_true (key a)) (hfound a (List.mem_reverse.mpr ha))
    | some b =>
        have hkey : key b = key a := key_of_find? hfound
        rw [find?_ofList] at hfound
        have hb : b ∈ records := List.mem_reverse.mp (List.mem_of_find?_eq_some hfound)
        rw [List.inj_on_of_nodup_map hnodup hb ha hkey]

/-! ## Sound declarations -/

theorem RelationDecl.fault?_eq_none_iff {known : String → Bool} {model : String} :
    ∀ {relations : List RelationDecl} {seen : List String},
      fault? known model seen relations = none ↔
        (relations.map RelationDecl.name).Nodup ∧ (∀ r ∈ relations, r.name ∉ seen) ∧
          ∀ r ∈ relations, known r.related = true := by
  intro relations
  induction relations with
  | nil => intro seen; simp [fault?]
  | cons r rest ih =>
      intro seen
      rw [fault?, List.map_cons, List.nodup_cons, List.forall_mem_cons, List.forall_mem_cons]
      by_cases hseen : r.name ∈ seen
      · simp [hseen]
      · by_cases hknown : known r.related = true
        · rw [if_neg hseen, if_pos hknown, ih]
          -- the name that is seen from now on is one that the rest may not have
          simp only [List.mem_cons, not_or, List.mem_map, not_exists, not_and]
          constructor
          · rintro ⟨hnodup, hfresh, hrest⟩
            exact ⟨⟨fun d hd hname => (hfresh d hd).1 hname, hnodup⟩,
              ⟨hseen, fun d hd => (hfresh d hd).2⟩, hknown, hrest⟩
          · rintro ⟨⟨hother, hnodup⟩, ⟨-, hfresh⟩, -, hrest⟩
            exact ⟨hnodup, fun d hd => ⟨hother d hd, hfresh d hd⟩, hrest⟩
        · simp [hseen, hknown]

namespace SchemaDecl

structure Sound (s : SchemaDecl) : Prop where
  once {name : String} {m : ModelDecl} : s.models[name]? = some m →
    (m.relations.map RelationDecl.name).Nodup
  declared {name : String} {m : ModelDecl} : s.models[name]? = some m →
    ∀ r ∈ m.relations, r.related ∈ s.models

theorem fault?_eq_none_iff {s : SchemaDecl} : s.fault? = none ↔ s.Sound := by
  have hmodel : ∀ (name : String) (m : ModelDecl),
      RelationDecl.fault? s.models.contains name [] m.relations = none ↔
        (m.relations.map RelationDecl.name).Nodup ∧ ∀ r ∈ m.relations, r.related ∈ s.models := by
    intro name m
    rw [RelationDecl.fault?_eq_none_iff]
    simp only [List.not_mem_nil, not_false_eq_true, implies_true, true_and,
      Std.TreeMap.contains_iff_mem]
  rw [fault?, List.findSome?_eq_none_iff]
  constructor
  · intro h
    have hfound : ∀ {name : String} {m : ModelDecl}, s.models[name]? = some m →
        (m.relations.map RelationDecl.name).Nodup ∧ ∀ r ∈ m.relations, r.related ∈ s.models :=
      fun hm => (hmodel _ _).mp (h _ (Std.TreeMap.mem_toList_iff_getElem?_eq_some.mpr hm))
    exact ⟨fun hm => (hfound hm).1, fun hm => (hfound hm).2⟩
  · rintro hsound ⟨name, m⟩ hm
    have hm := Std.TreeMap.mem_toList_iff_getElem?_eq_some.mp hm
    exact (hmodel name m).mpr ⟨hsound.once hm, hsound.declared hm⟩

theorem mem_modelList {s : SchemaDecl} {model : Model} :
    model ∈ s.modelList ↔
      ∃ m, s.models[model.name]? = some m ∧ model = m.model model.name s.defaultMode := by
  simp only [modelList, List.mem_map, Prod.exists, Std.TreeMap.mem_toList_iff_getElem?_eq_some]
  constructor
  · rintro ⟨name, m, hm, rfl⟩
    exact ⟨m, hm, rfl⟩
  · rintro ⟨m, hm, hmodel⟩
    exact ⟨model.name, m, hm, hmodel.symm⟩

theorem nodup_modelList (s : SchemaDecl) : (s.modelList.map Model.name).Nodup := by
  have hnames : s.modelList.map Model.name = s.models.keys := by
    rw [modelList, List.map_map, ← Std.TreeMap.map_fst_toList_eq_keys]
    rfl
  rw [hnames]
  exact Std.TreeMap.nodup_keys

variable {s : SchemaDecl} {d : Declared}

theorem schema_of_build (h : s.build = .ok d) : s.Sound ∧ d.schema = ⟨.ofList s.modelList⟩ := by
  rw [build] at h
  cases hfault : s.fault? with
  | some e => rw [hfault] at h; cases h
  | none =>
      rw [hfault] at h
      cases h
      exact ⟨fault?_eq_none_iff.mp hfault, rfl⟩

/-- The models are found as they were declared, and no others. -/
theorem model?_of_build (h : s.build = .ok d) (name : String) :
    d.schema.model? name = s.models[name]?.map (·.model name s.defaultMode) := by
  obtain ⟨-, hschema⟩ := schema_of_build h
  apply Option.ext
  intro model
  rw [hschema, Schema.model?, Catalog.find?_ofList_iff s.nodup_modelList, mem_modelList,
    Option.map_eq_some_iff]
  constructor
  · rintro ⟨⟨m, hm, hmodel⟩, rfl⟩
    exact ⟨m, hm, hmodel.symm⟩
  · rintro ⟨m, hm, rfl⟩
    exact ⟨⟨m, hm, rfl⟩, rfl⟩

end SchemaDecl

/-- The relations of a model are found as they were declared, and no others. -/
theorem ModelDecl.relation?_iff {m : ModelDecl} (hnodup : (m.relations.map RelationDecl.name).Nodup)
    {name segment : String} {mode : Option Mode} {relation : Relation} :
    (m.model name mode).relation? segment = some relation ↔
      ∃ r ∈ m.relations, r.name = segment ∧ relation = r.relation := by
  have hnames : (m.relations.map RelationDecl.relation).map Relation.name =
      m.relations.map RelationDecl.name := by
    rw [List.map_map]
    rfl
  rw [Model.relation?, ModelDecl.model, Catalog.find?_ofList_iff (by rw [hnames]; exact hnodup)]
  constructor
  · rintro ⟨hmem, rfl⟩
    obtain ⟨r, hr, rfl⟩ := List.mem_map.mp hmem
    exact ⟨r, hr, rfl, rfl⟩
  · rintro ⟨r, hr, rfl, rfl⟩
    exact ⟨List.mem_map_of_mem hr, rfl⟩

/-! ## Closed graphs -/

namespace Graph

/-- Every relation of the graph leads to one of its models. -/
def Closed (g : Graph) : Prop :=
  ∀ (name segment : String) (m : Model) (r : Relation), g.model? name = some m →
    m.relation? segment = some r → ∃ next, g.model? r.related = some next

theorem Follows.model? {g : Graph} (hg : g.KeepsNames) {model reached : String}
    {segments : List String} (h : g.Follows model segments reached) :
    (∃ m, g.model? model = some m) → ∃ m, g.model? reached = some m := by
  induction h with
  | here model => exact id
  | hop hleads _ ih =>
      intro _
      obtain ⟨m, r, -, -, -, hnext⟩ := hleads
      have hname := hg _ _ hnext
      apply ih
      rw [hname]
      exact ⟨_, hnext⟩

/-- In a closed graph a path that starts at a model stops only at a model that
lacks the relation, or at a relation without a key pair. -/
theorem Closed.of_failsAt {g : Graph} (hclosed : g.Closed) (hg : g.KeepsNames) {model : String}
    (hmodel : ∃ m, g.model? model = some m) {segments : List String} {e : FilterError}
    (h : g.FailsAt model segments e) :
    ∃ reached m segment, g.model? reached = some m ∧
      ((m.relation? segment = none ∧ e = .unknownRelation reached segment) ∨
        ∃ r, m.relation? segment = some r ∧ r.kind.hasKeyPair = false ∧
          e = .unsupportedKind r.name r.kind) := by
  obtain ⟨before, segment, after, reached, -, hfollows, hstops⟩ := h
  obtain ⟨found, hfound⟩ := hfollows.model? hg hmodel
  cases hstops with
  | noModel hm => rw [hfound] at hm; cases hm
  | noRelation hm hr => exact ⟨reached, _, segment, hm, .inl ⟨hr, rfl⟩⟩
  | noKeyPair hm hr hk => exact ⟨reached, _, segment, hm, .inr ⟨_, hr, hk, rfl⟩⟩
  | noRelated hm hr _ hn =>
      obtain ⟨next, hnext⟩ := hclosed reached segment _ _ hm hr
      rw [hnext] at hn
      cases hn

end Graph

theorem SchemaDecl.closed_of_build {s : SchemaDecl} {d : Declared} (h : s.build = .ok d) :
    d.schema.graph.Closed := by
  obtain ⟨hsound, -⟩ := schema_of_build h
  intro name segment model relation hmodel hrelation
  rw [Schema.graph_model?, model?_of_build h, Option.map_eq_some_iff] at hmodel
  obtain ⟨m, hm, rfl⟩ := hmodel
  obtain ⟨r, hr, -, rfl⟩ := (ModelDecl.relation?_iff (hsound.once hm)).mp hrelation
  have hrelated : r.related ∈ s.models := hsound.declared hm r hr
  obtain ⟨target, htarget⟩ :=
    Option.isSome_iff_exists.mp (Std.TreeMap.mem_iff_isSome_getElem?.mp hrelated)
  exact ⟨_, (model?_of_build h r.related).trans (congrArg _ htarget)⟩

/-! ## The schema is the declaration -/

/-- The schema has the models and relations of the declaration, each as it was
declared, and no others. -/
structure SchemaDecl.Holds (s : SchemaDecl) (schema : Schema) : Prop where
  names : ∀ name, (∃ model, schema.model? name = some model) ↔ name ∈ s.models
  model : ∀ name m, s.models[name]? = some m → ∃ model, schema.model? name = some model ∧
    model.name = name ∧ model.table = m.table ∧ model.mode = m.mode.or s.defaultMode
  relation : ∀ name m, s.models[name]? = some m → ∀ r ∈ m.relations,
    schema.relation name r.name = .ok {
      name := r.name
      kind := r.kind
      related := r.related
      parentKey := r.parentKey
      relatedKey := r.relatedKey
      constraints := r.constraints.map fun c =>
        ⟨c.connective, .compare (.ofString c.column) c.op c.value⟩ }
  unknown : ∀ name m, s.models[name]? = some m → ∀ other, other ∉ m.relations.map (·.name) →
    schema.relation name other = .error (.unknownRelation name other)

theorem SchemaDecl.holds_of_build {s : SchemaDecl} {d : Declared} (h : s.build = .ok d) :
    s.Holds d.schema := by
  obtain ⟨hsound, -⟩ := schema_of_build h
  have hmodel : ∀ {name : String} {m : ModelDecl}, s.models[name]? = some m →
      d.schema.model? name = some (m.model name s.defaultMode) := by
    intro name m hm
    rw [model?_of_build h, hm]
    rfl
  refine ⟨fun name => ?_, fun name m hm => ?_, fun name m hm r hr => ?_, fun name m hm other ho => ?_⟩
  · rw [Std.TreeMap.mem_iff_isSome_getElem?, ← Option.isSome_iff_exists, model?_of_build h,
      Option.isSome_map]
  · exact ⟨_, hmodel hm, rfl, rfl, rfl⟩
  · have hr : (m.model name s.defaultMode).relation? r.name = some r.relation :=
      (ModelDecl.relation?_iff (hsound.once hm)).mpr ⟨r, hr, rfl, rfl⟩
    exact Graph.relation_eq_ok_iff.mpr ⟨_, hmodel hm, hr⟩
  · have hnone : (m.model name s.defaultMode).relation? other = none := by
      rw [Option.eq_none_iff_forall_ne_some]
      intro relation hrelation
      obtain ⟨r, hr, hname, -⟩ := (ModelDecl.relation?_iff (hsound.once hm)).mp hrelation
      exact ho (List.mem_map.mpr ⟨r, hr, hname⟩)
    exact Graph.relation_eq_error_iff.mpr (.inr ⟨rfl, _, hmodel hm, hnone⟩)

/-- What is built from a declaration holds what was declared, and a condition on
one of its models is refused only for a relation that its model does not declare,
or for a declared one without a key pair: never for a missing model. -/
theorem SchemaDecl.build_holds {s : SchemaDecl} {d : Declared} (h : s.build = .ok d) :
    s.Holds d.schema ∧
    ∀ {τ : Type u} [Filterable τ] (target : τ) (model : String) (outer : Source) (c : Condition)
      (mode : Mode) (e : FilterError), model ∈ s.models →
      (d.schema.attach target model outer c mode).error? = some e →
      ∃ reached m, s.models[reached]? = some m ∧
        ((∃ segment, segment ∉ m.relations.map (·.name) ∧ e = .unknownRelation reached segment) ∨
          ∃ r ∈ m.relations, r.kind.hasKeyPair = false ∧ e = .unsupportedKind r.name r.kind) := by
  have hholds := holds_of_build h
  obtain ⟨hsound, -⟩ := schema_of_build h
  refine ⟨hholds, ?_⟩
  intro τ _ target model outer c mode e hmodel herror
  have hfails := (Graph.attach_error?_iff target outer c mode).mp herror
  obtain ⟨reached, found, segment, hfound, hwhy⟩ :=
    (closed_of_build h).of_failsAt d.schema.keepsNames ((hholds.names model).mpr hmodel) hfails
  rw [Schema.graph_model?, model?_of_build h, Option.map_eq_some_iff] at hfound
  obtain ⟨m, hm, rfl⟩ := hfound
  have hnodup := hsound.once hm
  refine ⟨reached, m, hm, ?_⟩
  rcases hwhy with ⟨hnone, he⟩ | ⟨relation, hrelation, hkind, he⟩
  · left
    refine ⟨segment, fun hdeclared => ?_, he⟩
    obtain ⟨r, hr, hname⟩ := List.mem_map.mp hdeclared
    have hsome : (m.model reached s.defaultMode).relation? segment = some r.relation :=
      (ModelDecl.relation?_iff hnodup).mpr ⟨r, hr, hname, rfl⟩
    rw [hnone] at hsome
    cases hsome
  · right
    obtain ⟨r, hr, -, rfl⟩ := (ModelDecl.relation?_iff hnodup).mp hrelation
    exact ⟨r, hr, hkind, he⟩

namespace Board

def commentsDecl : RelationDecl where
  name := "comments"
  kind := .hasOneOrMany
  related := "comment"
  parentKey := "id"
  relatedKey := "post_id"
  constraints := [⟨"comments.approved", .eq, .bool true, .and⟩]

def tagsDecl : RelationDecl where
  name := "tags"
  kind := .belongsToMany
  related := "post"
  parentKey := "id"
  relatedKey := "id"

def postDecl : ModelDecl := ⟨"posts", some .existence, [commentsDecl]⟩

def commentDecl : ModelDecl := ⟨"comments", none, [tagsDecl]⟩

/-- Posts have a mode of their own, comments get the default one. -/
def declaration : SchemaDecl where
  defaultMode := some .membership
  models := .ofList [("post", postDecl), ("comment", commentDecl)]

theorem build_holds_board :
    ∃ d, declaration.build = .ok d ∧
      (∃ model, d.schema.model? "comment" = some model ∧ model.name = "comment" ∧
        model.table = "comments" ∧ model.mode = some .membership) ∧
      d.schema.relation "post" "comments" = .ok {
        name := "comments"
        kind := .hasOneOrMany
        related := "comment"
        parentKey := "id"
        relatedKey := "post_id"
        constraints := [⟨.and, .compare (.qualified "comments" "approved") .eq (.bool true)⟩] } ∧
      "post" ∈ declaration.models ∧
      (d.schema.attach (Query.ofTable "posts") "post" (.ofTable "posts") asksTags
        .existence).error? = some (.unsupportedKind "tags" .belongsToMany) ∧
      ∃ reached m, declaration.models[reached]? = some m ∧
        ((∃ segment, segment ∉ m.relations.map (·.name) ∧
            FilterError.unsupportedKind "tags" .belongsToMany = .unknownRelation reached segment) ∨
          ∃ r ∈ m.relations, r.kind.hasKeyPair = false ∧
            FilterError.unsupportedKind "tags" .belongsToMany = .unsupportedKind r.name r.kind) := by
  refine ⟨_, rfl, ?_⟩
  obtain ⟨hholds, hrefused⟩ := SchemaDecl.build_holds (s := declaration) rfl
  have hpost : "post" ∈ declaration.models := by decide
  exact ⟨hholds.model "comment" commentDecl rfl,
    hholds.relation "post" postDecl rfl commentsDecl (by decide), hpost, rfl,
    hrefused (Query.ofTable "posts") "post" (.ofTable "posts") asksTags .existence
      (.unsupportedKind "tags" .belongsToMany) hpost rfl⟩

end Board
end Semijoin
