import Semijoin.Proofs.Turns

/-! # The mode of a model

A model's mode is the one it was built with, or else the first that is written, and
then it stays (`Session.modeOf_after`).  `Session.mode_written_once` says what this
means while a program runs: which writings fail and what they leave behind, and in
which mode a call is compiled that brings none and meets none of its selection. -/
set_option autoImplicit false
namespace Semijoin

namespace Schema

variable {s : Schema} {name : String}

theorem modeOf_of_model? {m : Model} (h : s.model? name = some m) : s.modeOf name = m.mode := by
  rw [modeOf, h, Option.bind_some]

theorem setMode_of_free {m : Model} (h : s.model? name = some m) (hfree : m.mode = none)
    (mode : Mode) : s.setMode name mode = { target := s.insert (m.inMode mode) } := by
  have hm : s.model name = .ok m := Graph.model_eq_ok_iff.mpr h
  simp only [setMode, hm, Model.fixMode, hfree]

theorem setMode_of_fixed {m : Model} (h : s.model? name = some m) {present : Mode}
    (hfixed : m.mode = some present) (mode : Mode) : s.setMode name mode =
      { target := s
        error? := some (.modeLocked name)
        journal := [.event (.failed name .conflict)] } := by
  have hname : m.name = name := Catalog.key_of_find? h
  have hm : s.model name = .ok m := Graph.model_eq_ok_iff.mpr h
  simp only [setMode, hm, Model.fixMode, hfixed, hname, FilterError.toClass]

theorem modeOf_setMode (h : ∃ m, s.model? name = some m) (other : String) (mode : Mode) :
    (s.setMode other mode).target.modeOf name =
      (s.modeOf name).or (if other = name then some mode else none) := by
  obtain ⟨m, hm⟩ := h
  cases hother : s.model? other with
  | none =>
      have hne : other ≠ name := by
        rintro rfl
        rw [hm] at hother
        cases hother
      have hmissing : s.model other = .error (.unknownModel other) :=
        Graph.model_eq_error_iff.mpr ⟨rfl, hother⟩
      rw [setMode, hmissing, if_neg hne, Option.or_none]
  | some found =>
      cases hmode : found.mode with
      | some present =>
          rw [setMode_of_fixed hother hmode]
          by_cases hname : other = name
          · rw [← hname, modeOf_of_model? hother, hmode]
            rfl
          · rw [if_neg hname, Option.or_none]
      | none =>
          have hinsert := model?_insert_inMode hother mode name
          rw [setMode_of_free hother hmode, modeOf, hinsert]
          by_cases hname : other = name
          · rw [if_pos hname.symm, if_pos hname, ← hname, modeOf_of_model? hother, hmode]
            rfl
          · rw [if_neg (Ne.symm hname), if_neg hname, Option.or_none]
            rfl

end Schema

/-! ## Along a program -/

/-- The mode that a move writes, or tries to write, to a model. -/
def Move.write? (model : String) : Move → Option Mode
  | .setModelMode other mode => if other = model then some mode else none
  | _ => none

namespace Session

variable {s : Session} {model : String}

/-- The mode a model has, or else the first that the moves write. -/
def firstMode (s : Session) (model : String) (moves : List Move) : Option Mode :=
  (s.schema.modeOf model).or (moves.findSome? (Move.write? model))

theorem model?_move (h : ∃ m, s.schema.model? model = some m) (m : Move) :
    ∃ m', (s.move m).schema.model? model = some m' := by
  obtain ⟨found, hfound⟩ := h
  have hmodeless := s.modeless_move m model
  rw [hfound, Option.map_some, Option.map_eq_some_iff] at hmodeless
  obtain ⟨m', hm', -⟩ := hmodeless
  exact ⟨m', hm'⟩

theorem modeOf_move (h : ∃ m, s.schema.model? model = some m) (m : Move) :
    (s.move m).schema.modeOf model = (s.schema.modeOf model).or (m.write? model) := by
  cases m with
  | select name other => rw [move, select_schema]; exact Option.or_none.symm
  | finish name => rw [move, finish_schema]; exact Option.or_none.symm
  | call name c => rw [move, call_schema]; exact Option.or_none.symm
  | setModelMode other mode => exact Schema.modeOf_setMode h other mode
  | _ => exact Option.or_none.symm

theorem modeOf_after : ∀ (moves : List Move) {s : Session},
    (∃ m, s.schema.model? model = some m) →
    (∃ m, (s.after moves).schema.model? model = some m) ∧
      (s.after moves).schema.modeOf model = s.firstMode model moves := by
  intro moves
  induction moves with
  | nil => intro s h; exact ⟨h, Option.or_none.symm⟩
  | cons m rest ih =>
      intro s h
      obtain ⟨hfound, hmode⟩ := ih (model?_move h m)
      refine ⟨hfound, hmode.trans ?_⟩
      rw [firstMode, firstMode, modeOf_move h, Option.or_assoc, List.findSome?_cons]
      cases m.write? model with
      | none => rfl
      | some mode => rfl

theorem firstMode_append (s : Session) (model : String) (done later : List Move) :
    s.firstMode model (done ++ later) =
      (s.firstMode model done).or (later.findSome? (Move.write? model)) := by
  rw [firstMode, firstMode, List.findSome?_append, Option.or_assoc]

/-- A writing that fails is answered with the mode there is and noted as one failure
of the model; nothing else changes. -/
theorem setModelMode_of_fixed {present : Mode} (h : s.schema.modeOf model = some present)
    (mode : Mode) : s.setModelMode model mode =
      (.modelMode (some present) (some (.modeLocked model)),
        { s with monitor := s.monitor.noteAll [.event (.failed model .conflict)] }) := by
  obtain ⟨m, hm, hmode⟩ := Option.bind_eq_some_iff.mp h
  rw [setModelMode, Schema.setMode_of_fixed hm hmode]
  simp only [h]

theorem setModelMode_of_free {m : Model} (hm : s.schema.model? model = some m)
    (hfree : m.mode = none) (mode : Mode) : s.setModelMode model mode =
      (.modelMode (some mode) none, { s with schema := s.schema.insert (m.inMode mode) }) := by
  have hinsert := Schema.model?_insert_inMode hm mode model
  rw [if_pos rfl] at hinsert
  rw [setModelMode, Schema.setMode_of_free hm hfree]
  simp only [Schema.modeOf_of_model? hinsert]
  rfl

/-- What follows at a state from the mode a model has, or from its having none. -/
structure ModeIs (s : Session) (model : String) (written : Option Mode) : Prop where
  mode : s.schema.modeOf model = written
  /-- A writing succeeds, changes the one model by its mode, and notes nothing. -/
  free : written = none → ∀ mode, ∃ schema,
    s.setModelMode model mode = (.modelMode (some mode) none, { s with schema }) ∧
    ∀ other, schema.model? other =
      if other = model then (s.schema.model? model).map (·.inMode mode) else s.schema.model? other
  /-- A writing fails, is noted as one failure of the model, and changes nothing else. -/
  fixed : ∀ present, written = some present → ∀ mode,
    s.setModelMode model mode =
      (.modelMode (some present) (some (.modeLocked model)),
        { s with monitor := s.monitor.noteAll [.event (.failed model .conflict)] })
  current : ∀ sel : Selection, sel.model = model → sel.mode = none →
    sel.currentMode s.schema = written.getD .existence
  /-- A selection of the model that has no mode compiles a call that brings none in
  the mode of the model, however long ago the selection was made. -/
  call : ∀ (sel : Selection) (call : Call) (c : Condition), sel.model = model → sel.mode = none →
    call.condition? = some c → c.mode = none →
    sel.call s.schema call =
      (s.schema.attach sel.query model sel.query.source c (written.getD .existence)).map
        fun query => { sel with query }

theorem modeIs (h : ∃ m, s.schema.model? model = some m) :
    s.ModeIs model (s.schema.modeOf model) where
  mode := rfl
  free := by
    intro hfree mode
    obtain ⟨m, hm⟩ := h
    rw [Schema.modeOf_of_model? hm] at hfree
    refine ⟨_, setModelMode_of_free hm hfree mode, fun other => ?_⟩
    rw [Schema.model?_insert_inMode hm, hm, Option.map_some]
  fixed := fun _ hfixed mode => setModelMode_of_fixed hfixed mode
  current := by
    rintro sel rfl hmode
    rw [Selection.currentMode, hmode]
    rfl
  call := by
    rintro sel call c rfl hmode hcondition hbrings
    rw [Selection.call_of_condition hcondition, Selection.filterBy, hmode, hbrings]
    rfl

/-- Whatever a program does, the mode of a model is the one it had, or else the first
that was written to it, at every point of the run; so it changes at most once, from
none, and stays. -/
theorem mode_written_once {s : Session} {model : String}
    (h : ∃ m, s.schema.model? model = some m) (program : List Command) :
    (Command.runAll s program).2 = s.after (Command.movesAll program) ∧
    ∀ done, done <+: Command.movesAll program →
      (s.after done).ModeIs model (s.firstMode model done) ∧
      ∀ later, done <+: later → later <+: Command.movesAll program →
        (s.after done).schema.modeOf model = none ∨
          (s.after later).schema.modeOf model = (s.after done).schema.modeOf model := by
  refine ⟨Command.runAll_moves s program, fun done _ => ⟨?_, ?_⟩⟩
  · obtain ⟨hfound, hmode⟩ := modeOf_after done h
    rw [← hmode]
    exact modeIs hfound
  · rintro later ⟨more, rfl⟩ -
    rw [(modeOf_after _ h).2, (modeOf_after _ h).2, firstMode_append]
    cases s.firstMode model done with
    | none => exact .inl rfl
    | some mode => exact .inr rfl

end Session

namespace Board

/-- Filters posts before, between and after three writings, the first of them in a
scope. -/
def writing : List Command := [
  .select "q" "post",
  .call "q" (.request "comments" (.has .any)),
  .scope [.setModelMode "post" .membership, .call "q" (.request "comments" .lacks)],
  .setModelMode "post" .membership,
  .setModelMode "post" .existence,
  .call "q" (.request "comments.replies" (.has .any))]

theorem mode_written_once_post :
    (∃ m, schema.model? "post" = some m) ∧
    ∀ done, done <+: Command.movesAll writing →
      (({ schema } : Session).after done).ModeIs "post"
        (if done.length ≤ 3 then none else some .membership) := by
  obtain ⟨-, hpoints⟩ := @Session.mode_written_once { schema } "post" ⟨_, rfl⟩ writing
  have hfirst : ∀ n ≤ (Command.movesAll writing).length,
      ({ schema } : Session).firstMode "post" ((Command.movesAll writing).take n) =
        if n ≤ 3 then none else some .membership := by decide
  refine ⟨⟨_, rfl⟩, fun done hdone => ?_⟩
  have hmode := hfirst done.length hdone.length_le
  rw [← List.prefix_iff_eq_take.mp hdone] at hmode
  rw [← hmode]
  exact (hpoints done hdone).1

end Board
end Semijoin
