import Semijoin.Proofs.Declared

/-! # The fault that is reported

A relation is at fault if its name stands before it in its model, or else if it
leads to no declared model (`RelationDecl.FaultAt`).  The two loops, over models and
over the relations of each, stop at the first fault; `SchemaDecl.build_error_first`
says that this is the least place with a fault, by the model's name and then by the
index, and that a declaration without a fault is built. -/
set_option autoImplicit false
namespace Semijoin

namespace RelationDecl

/-- What is wrong with the relation at index `i` of a model. -/
inductive FaultAt (known : String → Bool) (model : String) (relations : List RelationDecl)
    (i : Nat) : DeclError → Prop where
  | duplicate {r : RelationDecl} : relations[i]? = some r →
      r.name ∈ (relations.take i).map RelationDecl.name →
      FaultAt known model relations i (.duplicateRelation model r.name)
  | unknown {r : RelationDecl} : relations[i]? = some r →
      r.name ∉ (relations.take i).map RelationDecl.name → known r.related = false →
      FaultAt known model relations i (.unknownRelated model r.name r.related)

variable {known : String → Bool} {model : String} {relations : List RelationDecl} {i : Nat}
  {e e' : DeclError}

theorem FaultAt.unique (h : FaultAt known model relations i e)
    (h' : FaultAt known model relations i e') : e = e' := by
  cases h with
  | duplicate hr hname =>
      cases h' with
      | duplicate hr' _ => cases hr.symm.trans hr'; rfl
      | unknown hr' hnew _ => cases hr.symm.trans hr'; exact absurd hname hnew
  | unknown hr hnew _ =>
      cases h' with
      | duplicate hr' hname => cases hr.symm.trans hr'; exact absurd hname hnew
      | unknown hr' _ _ => cases hr.symm.trans hr'; rfl

theorem not_faultAt {r : RelationDecl} (hr : relations[i]? = some r)
    (hnew : r.name ∉ (relations.take i).map RelationDecl.name) (hknown : known r.related = true) :
    ¬ FaultAt known model relations i e := by
  intro h
  cases h with
  | duplicate hr' hname => cases hr.symm.trans hr'; exact hnew hname
  | unknown hr' _ hunknown =>
      cases hr.symm.trans hr'
      rw [hknown] at hunknown
      cases hunknown

/-- A name that stands before a relation of that name stands twice. -/
theorem two_le_count {r : RelationDecl} (hr : relations[i]? = some r)
    (hname : r.name ∈ (relations.take i).map RelationDecl.name) :
    2 ≤ (relations.map RelationDecl.name).count r.name := by
  have hdrop : relations.drop i = r :: relations.drop (i + 1) :=
    List.drop_eq_getElem?_toList_append.trans (by rw [hr]; rfl)
  have hbefore : 0 < ((relations.take i).map RelationDecl.name).count r.name :=
    List.count_pos_iff.mpr hname
  rw [← List.take_append_drop i relations, List.map_append, List.count_append, hdrop,
    List.map_cons, List.count_cons_self]
  omega

/-- The answer is the first fault from an index on, and `none` if there is none. -/
def FirstFrom (known : String → Bool) (model : String) (relations : List RelationDecl) (n : Nat) :
    Option DeclError → Prop
  | none => ∀ i e, n ≤ i → ¬ FaultAt known model relations i e
  | some e => ∃ i, n ≤ i ∧ FaultAt known model relations i e ∧
      ∀ j e', n ≤ j → FaultAt known model relations j e' → i ≤ j

theorem FirstFrom.here {n : Nat} (h : FaultAt known model relations n e) :
    FirstFrom known model relations n (some e) :=
  ⟨n, Nat.le_refl n, h, fun _ _ hj _ => hj⟩

theorem FirstFrom.later {n : Nat} {answer : Option DeclError}
    (hfree : ∀ e, ¬ FaultAt known model relations n e)
    (h : FirstFrom known model relations (n + 1) answer) :
    FirstFrom known model relations n answer := by
  have hlater : ∀ {i e}, n ≤ i → FaultAt known model relations i e → n + 1 ≤ i := by
    intro i e hi hat
    refine Nat.lt_of_le_of_ne hi ?_
    rintro rfl
    exact hfree e hat
  cases answer with
  | none => exact fun i e hi hat => h i e (hlater hi hat) hat
  | some e =>
      obtain ⟨i, hi, hat, hleast⟩ := h
      exact ⟨i, Nat.le_of_succ_le hi, hat, fun j e' hj hat' => hleast j e' (hlater hj hat') hat'⟩

theorem firstFrom_end (known : String → Bool) (model : String) (relations : List RelationDecl) :
    FirstFrom known model relations relations.length none := by
  intro i e hi h
  have hnone : relations[i]? = none := List.getElem?_eq_none hi
  cases h with
  | duplicate hr _ => rw [hnone] at hr; cases hr
  | unknown hr _ _ => rw [hnone] at hr; cases hr

/-- Behind the relations that have been looked at, whose names were seen, the loop
finds the first fault. -/
theorem fault?_first (known : String → Bool) (model : String) :
    ∀ (rest before : List RelationDecl) (seen : List String),
      (∀ name, name ∈ seen ↔ name ∈ before.map RelationDecl.name) →
      FirstFrom known model (before ++ rest) before.length (fault? known model seen rest) := by
  intro rest
  induction rest with
  | nil =>
      intro before seen _
      rw [List.append_nil, fault?]
      exact firstFrom_end known model before
  | cons r rest ih =>
      intro before seen hseen
      have hr : (before ++ r :: rest)[before.length]? = some r := by simp
      have hnames : ((before ++ r :: rest).take before.length).map RelationDecl.name =
          before.map RelationDecl.name := by simp
      rw [fault?]
      by_cases hold : r.name ∈ seen
      · rw [if_pos hold]
        rw [hseen, ← hnames] at hold
        exact .here (.duplicate hr hold)
      · rw [if_neg hold]
        rw [hseen, ← hnames] at hold
        cases hknown : known r.related with
        | false => exact .here (.unknown hr hold hknown)
        | true =>
            have hseen' : ∀ name, name ∈ r.name :: seen ↔
                name ∈ (before ++ [r]).map RelationDecl.name := by
              intro name
              rw [List.map_append, List.mem_append, ← hseen, List.mem_cons, or_comm,
                List.map_singleton, List.mem_singleton]
            have hrest := ih (before ++ [r]) (r.name :: seen) hseen'
            rw [List.append_assoc, List.singleton_append, List.length_append,
              List.length_singleton] at hrest
            rw [if_pos rfl]
            exact .later (fun e => not_faultAt hr hold hknown) hrest

theorem faultAt_of_fault? (h : fault? known model [] relations = some e) :
    ∃ i, FaultAt known model relations i e ∧
      ∀ j e', FaultAt known model relations j e' → i ≤ j := by
  have hfirst := fault?_first known model relations [] [] fun _ => Iff.rfl
  rw [h] at hfirst
  obtain ⟨i, -, hat, hleast⟩ := hfirst
  exact ⟨i, hat, fun j e' => hleast j e' (Nat.zero_le j)⟩

theorem not_faultAt_of_fault? (h : fault? known model [] relations = none) (i : Nat)
    (e : DeclError) : ¬ FaultAt known model relations i e := by
  have hfirst := fault?_first known model relations [] [] fun _ => Iff.rfl
  rw [h] at hfirst
  exact hfirst i e (Nat.zero_le i)

end RelationDecl

namespace SchemaDecl

/-- What is wrong with the relation at index `i` of the model of a name. -/
def FaultAt (s : SchemaDecl) (name : String) (i : Nat) (e : DeclError) : Prop :=
  ∃ m, s.models[name]? = some m ∧ RelationDecl.FaultAt s.models.contains name m.relations i e

/-- The place has a fault, and every other place with one comes later: in a model
whose name is greater, or further on in the same model. -/
def FirstFault (s : SchemaDecl) (name : String) (i : Nat) (e : DeclError) : Prop :=
  s.FaultAt name i e ∧ ∀ name' i' e', s.FaultAt name' i' e' → name < name' ∨ name = name' ∧ i ≤ i'

variable {s : SchemaDecl} {e : DeclError}

theorem FirstFault.unique {name name' : String} {i i' : Nat} {e' : DeclError}
    (h : s.FirstFault name i e) (h' : s.FirstFault name' i' e') : e = e' := by
  obtain ⟨⟨m, hm, hat⟩, hleast⟩ := h
  obtain ⟨⟨m', hm', hat'⟩, hleast'⟩ := h'
  rcases hleast name' i' e' ⟨m', hm', hat'⟩ with hlt | ⟨rfl, hle⟩
  · rcases hleast' name i e ⟨m, hm, hat⟩ with hgt | ⟨heq, -⟩
    · exact absurd hgt (String.lt_asymm hlt)
    · exact absurd heq.symm (String.ne_of_lt hlt)
  · rcases hleast' name i e ⟨m, hm, hat⟩ with hlt | ⟨-, hge⟩
    · exact absurd hlt (String.lt_irrefl name)
    · cases hm.symm.trans hm'
      cases Nat.le_antisymm hle hge
      exact hat.unique hat'

theorem firstFault_of_fault? (h : s.fault? = some e) : ∃ name i, s.FirstFault name i e := by
  rw [fault?, List.findSome?_eq_some_iff] at h
  obtain ⟨before, ⟨name, m⟩, after, hlist, hfault, hnone⟩ := h
  obtain ⟨i, hat, hleast⟩ := RelationDecl.faultAt_of_fault? hfault
  have hm : s.models[name]? = some m := by
    rw [← Std.TreeMap.mem_toList_iff_getElem?_eq_some, hlist]
    simp
  refine ⟨name, i, ⟨m, hm, hat⟩, ?_⟩
  rintro name' i' e' ⟨m', hm', hat'⟩
  have hmem : (name', m') ∈ before ++ (name, m) :: after := by
    rw [← hlist, Std.TreeMap.mem_toList_iff_getElem?_eq_some]
    exact hm'
  have hsorted := Std.TreeMap.ordered_keys_toList (t := s.models)
  rw [hlist, List.pairwise_append, List.pairwise_cons] at hsorted
  rcases List.mem_append.mp hmem with hbefore | hrest
  · exact absurd hat' (RelationDecl.not_faultAt_of_fault? (hnone _ hbefore) i' e')
  · rcases List.mem_cons.mp hrest with heq | hafter
    · cases heq
      exact .inr ⟨rfl, hleast i' e' hat'⟩
    · exact .inl (compareOfLessAndEq_eq_lt.mp (hsorted.2.1.1 (name', m') hafter))

theorem fault?_eq_some_iff : s.fault? = some e ↔ ∃ name i, s.FirstFault name i e := by
  refine ⟨firstFault_of_fault?, ?_⟩
  rintro ⟨name, i, hfirst⟩
  cases hfault : s.fault? with
  | none =>
      obtain ⟨m, hm, hat⟩ := hfirst.1
      rw [fault?, List.findSome?_eq_none_iff] at hfault
      have hmem := Std.TreeMap.mem_toList_iff_getElem?_eq_some.mpr hm
      exact absurd hat (RelationDecl.not_faultAt_of_fault? (hfault _ hmem) i e)
  | some e' =>
      obtain ⟨name', i', hfirst'⟩ := firstFault_of_fault? hfault
      rw [hfirst.unique hfirst']

theorem not_sound_iff : ¬ s.Sound ↔
    ∃ (name : String) (m : ModelDecl), s.models[name]? = some m ∧
      (¬ (m.relations.map (·.name)).Nodup ∨ ∃ r ∈ m.relations, r.related ∉ s.models) := by
  have hsound : s.Sound ↔ ∀ (name : String) (m : ModelDecl), s.models[name]? = some m →
      (m.relations.map (·.name)).Nodup ∧ ∀ r ∈ m.relations, r.related ∈ s.models :=
    ⟨fun h _ _ hm => ⟨h.once hm, h.declared hm⟩, fun h => ⟨fun hm => (h _ _ hm).1, fun hm => (h _ _ hm).2⟩⟩
  simp only [hsound, not_forall, not_and_or, exists_prop]

theorem build_eq_error_iff : s.build = .error e ↔ s.fault? = some e := by
  rw [build]
  cases s.fault? with
  | none => simp only [reduceCtorEq]
  | some e' => simp only [Except.error.injEq, Option.some.injEq]

/-- A declaration is refused with its first fault, and exactly if a model declares
two relations of one name or a relation leads to a name that is no model's.  So a
name that is reported as a double is one in a single model, and a model that is
reported as unknown is not declared anywhere, before or after the relation. -/
theorem build_error_first (s : SchemaDecl) :
    (∀ e, s.build = .error e ↔ ∃ name i, s.FirstFault name i e) ∧
    ((∃ e, s.build = .error e) ↔ ∃ (name : String) (m : ModelDecl), s.models[name]? = some m ∧
      (¬ (m.relations.map (·.name)).Nodup ∨ ∃ r ∈ m.relations, r.related ∉ s.models)) ∧
    (∀ model relation, s.build = .error (.duplicateRelation model relation) →
      ∃ m : ModelDecl, s.models[model]? = some m ∧
        2 ≤ (m.relations.map (·.name)).count relation) ∧
    ∀ model relation related, s.build = .error (.unknownRelated model relation related) →
      related ∉ s.models := by
  have hfirst : ∀ e, s.build = .error e ↔ ∃ name i, s.FirstFault name i e :=
    fun e => build_eq_error_iff.trans fault?_eq_some_iff
  refine ⟨hfirst, ?_, ?_, ?_⟩
  · rw [← not_sound_iff, ← fault?_eq_none_iff, ← ne_eq, Option.ne_none_iff_exists']
    exact exists_congr fun e => build_eq_error_iff
  · intro model relation herror
    obtain ⟨name, i, ⟨m, hm, hat⟩, -⟩ := (hfirst _).mp herror
    cases hat with
    | duplicate hr hname => exact ⟨m, hm, RelationDecl.two_le_count hr hname⟩
  · intro model relation related herror
    obtain ⟨name, i, ⟨m, hm, hat⟩, -⟩ := (hfirst _).mp herror
    cases hat with
    | unknown hr hnew hunknown =>
        rw [← Std.TreeMap.contains_iff_mem, hunknown]
        exact Bool.false_ne_true

end SchemaDecl

namespace Board

def doubledPost : ModelDecl := { postDecl with relations := [commentsDecl, commentsDecl] }

def strayComment : ModelDecl := { commentDecl with relations := [{ tagsDecl with related := "tag" }] }

/-- Comments come before posts, so it is their fault that counts. -/
example : SchemaDecl.build { models := .ofList [("post", doubledPost), ("comment", strayComment)] } =
    .error (.unknownRelated "comment" "tags" "tag") := rfl

end Board
end Semijoin
