import SmaliNavigator.Index
import SmaliNavigator.Proofs.PathMap

/-!
What the steps of an index leave as it was, and what they make of the entries and the declarations.

Warnings are made from the declarations and never the other way round.
-/

set_option autoImplicit false

namespace SmaliNavigator.Index

/-- All that the warnings of an index are made from is the same. -/
structure SameButWarnings (ix jx : Index) : Prop where
  config : ix.config = jx.config
  files : ix.files = jx.files
  declaring : ix.declaring = jx.declaring
  cache : ix.cache = jx.cache
  ready : ix.ready = jx.ready

theorem SameButWarnings.trans {ix jx kx : Index} (h : ix.SameButWarnings jx)
    (h' : jx.SameButWarnings kx) : ix.SameButWarnings kx :=
  ⟨h.config.trans h'.config,h.files.trans h'.files,h.declaring.trans h'.declaring,
    h.cache.trans h'.cache,h.ready.trans h'.ready⟩

theorem sameButWarnings_refreshConflict (identifier : String) (files : List Path) (ix : Index)
    (file : Path) : (refreshConflict identifier files ix file).SameButWarnings ix := by
  unfold refreshConflict
  dsimp only
  split <;> exact ⟨rfl,rfl,rfl,rfl,rfl⟩

theorem sameButWarnings_refreshConflicts (ix : Index) (identifier : String) :
    (ix.refreshConflicts identifier).SameButWarnings ix := by
  unfold refreshConflicts
  generalize ix.declarers identifier = all
  have h (files : List Path) (ix : Index) :
      (files.foldl (refreshConflict identifier all) ix).SameButWarnings ix := by
    induction files generalizing ix with
    | nil => exact ⟨rfl,rfl,rfl,rfl,rfl⟩
    | cons f files ih => exact (ih _).trans (sameButWarnings_refreshConflict identifier all ix f)
  exact h all ix

/-! ### A file leaves a class or joins one -/

/-- The index with a file taken off the files of a class, before any warnings are brought in line. -/
def undeclare (ix : Index) (identifier : String) (file : Path) : Index :=
  match ix.declaring.get? identifier with
  | none => ix
  | some files =>
    { ix with declaring :=
        if (files.erase file).isEmpty then ix.declaring.erase identifier
        else ix.declaring.insert identifier (files.erase file) }

theorem sameButWarnings_unmap (ix : Index) (identifier : String) (file : Path) :
    (ix.unmap identifier file).SameButWarnings (ix.undeclare identifier file) := by
  unfold unmap undeclare
  cases ix.declaring.get? identifier with
  | none => exact ⟨rfl,rfl,rfl,rfl,rfl⟩
  | some files =>
    by_cases he : (files.erase file).isEmpty
    · simp only [he, if_true]
      exact ⟨rfl,rfl,rfl,rfl,rfl⟩
    · simp only [he]
      exact sameButWarnings_refreshConflicts _ _

@[simp] theorem files_undeclare (ix : Index) (identifier : String) (file : Path) :
    (ix.undeclare identifier file).files = ix.files := by
  unfold undeclare
  split <;> rfl

@[simp] theorem cache_undeclare (ix : Index) (identifier : String) (file : Path) :
    (ix.undeclare identifier file).cache = ix.cache := by
  unfold undeclare
  split <;> rfl

@[simp] theorem config_undeclare (ix : Index) (identifier : String) (file : Path) :
    (ix.undeclare identifier file).config = ix.config := by
  unfold undeclare
  split <;> rfl

@[simp] theorem ready_undeclare (ix : Index) (identifier : String) (file : Path) :
    (ix.undeclare identifier file).ready = ix.ready := by
  unfold undeclare
  split <;> rfl

@[simp] theorem config_unmap (ix : Index) (identifier : String) (file : Path) :
    (ix.unmap identifier file).config = ix.config :=
  (sameButWarnings_unmap ix identifier file).config.trans (config_undeclare ix identifier file)

@[simp] theorem ready_unmap (ix : Index) (identifier : String) (file : Path) :
    (ix.unmap identifier file).ready = ix.ready :=
  (sameButWarnings_unmap ix identifier file).ready.trans (ready_undeclare ix identifier file)

@[simp] theorem files_unmap (ix : Index) (identifier : String) (file : Path) :
    (ix.unmap identifier file).files = ix.files :=
  (sameButWarnings_unmap ix identifier file).files.trans (files_undeclare ix identifier file)

@[simp] theorem cache_unmap (ix : Index) (identifier : String) (file : Path) :
    (ix.unmap identifier file).cache = ix.cache :=
  (sameButWarnings_unmap ix identifier file).cache.trans (cache_undeclare ix identifier file)

@[simp] theorem files_map (ix : Index) (identifier : String) (file : Path) :
    (ix.map identifier file).files = ix.files := rfl

@[simp] theorem cache_map (ix : Index) (identifier : String) (file : Path) :
    (ix.map identifier file).cache = ix.cache := rfl

/-! ### A text is read -/

/-- The index once a file has left the class that it declared before, unless it still declares it. -/
def leavePrevious (ix : Index) (file : Path) (identifier : String) : Index :=
  match ix.identifierOf? file with
  | some old => if old = identifier then ix else ix.unmap old file
  | none => ix

@[simp] theorem files_leavePrevious (ix : Index) (file : Path) (identifier : String) :
    (ix.leavePrevious file identifier).files = ix.files := by
  unfold leavePrevious
  split
  · split <;> simp
  · rfl

@[simp] theorem cache_leavePrevious (ix : Index) (file : Path) (identifier : String) :
    (ix.leavePrevious file identifier).cache = ix.cache := by
  unfold leavePrevious
  split
  · split <;> simp
  · rfl

@[simp] theorem config_leavePrevious (ix : Index) (file : Path) (identifier : String) :
    (ix.leavePrevious file identifier).config = ix.config := by
  unfold leavePrevious
  split
  · split <;> simp
  · rfl

@[simp] theorem ready_leavePrevious (ix : Index) (file : Path) (identifier : String) :
    (ix.leavePrevious file identifier).ready = ix.ready := by
  unfold leavePrevious
  split
  · split <;> simp
  · rfl

@[simp] theorem config_accept (ix : Index) (file : Path) (stamp : Stamp) (c : Class) :
    (ix.accept file stamp c).config = ix.config :=
  ix.config_leavePrevious file c.identifier

@[simp] theorem ready_accept (ix : Index) (file : Path) (stamp : Stamp) (c : Class) :
    (ix.accept file stamp c).ready = ix.ready :=
  ix.ready_leavePrevious file c.identifier

@[simp] theorem files_accept (ix : Index) (file : Path) (stamp : Stamp) (c : Class) :
    (ix.accept file stamp c).files =
      ix.files.insert file ⟨.parsed c.identifier stamp.text,some stamp⟩ := by
  change ((ix.leavePrevious file c.identifier).map c.identifier file).files.insert _ _ = _
  simp

@[simp] theorem cache_accept (ix : Index) (file : Path) (stamp : Stamp) (c : Class) :
    (ix.accept file stamp c).cache = (ix.cache.insert file c).2 := by
  change (((ix.leavePrevious file c.identifier).map c.identifier file).cache.insert file c).2 = _
  simp

@[simp] theorem declaring_accept (ix : Index) (file : Path) (stamp : Stamp) (c : Class) :
    (ix.accept file stamp c).declaring =
      ((ix.leavePrevious file c.identifier).map c.identifier file).declaring := rfl

/-- The state of a file behind a text that was read. -/
def stateOf (ix : Index) (file : Path) : FileState :=
  ((ix.files.get? file).map (·.state)).getD .unparsed

@[simp] theorem files_reject (ix : Index) (file : Path) (stamp : Stamp) (d : Diagnostic) :
    (ix.reject file stamp d).files = ix.files.insert file
      ⟨.failed (ix.stateOf file).identifier? (ix.stateOf file).goodText?,some stamp⟩ := rfl

@[simp] theorem declaring_reject (ix : Index) (file : Path) (stamp : Stamp) (d : Diagnostic) :
    (ix.reject file stamp d).declaring = ix.declaring := rfl

@[simp] theorem cache_reject (ix : Index) (file : Path) (stamp : Stamp) (d : Diagnostic) :
    (ix.reject file stamp d).cache = ix.cache := rfl

theorem diagnosticsOf_reject (ix : Index) (file : Path) (stamp : Stamp) (d : Diagnostic) :
    (ix.reject file stamp d).diagnosticsOf file = [d] := by
  simp [diagnosticsOf, reject]

theorem fst_parse (ix : Index) (file : Path) (stamp : Stamp) :
    (ix.parse file stamp).1 = Class.ofString stamp.text := by
  unfold parse
  split <;> next h => exact h.symm

/-! ### A file is removed -/

/-- The index once the entry of a file is gone, and what it declared with it. -/
def removeEntry (ix : Index) (file : Path) : Index :=
  match ix.identifierOf? file with
  | some i => ({ ix with files := ix.files.erase file }).unmap i file
  | none => { ix with files := ix.files.erase file }

theorem remove_eq (ix : Index) (file : Path) :
    ix.remove file = { ix.removeEntry file with
      cache := (ix.cache.remove file).2
      diagnostics := (ix.removeEntry file).diagnostics.erase file } := by
  unfold remove removeEntry identifierOf?
  cases he : ix.files.get? file with
  | none => simp [PathMap.erase_eq_self he]
  | some e => cases hi : e.state.identifier? <;> simp [hi]

@[simp] theorem files_removeEntry (ix : Index) (file : Path) :
    (ix.removeEntry file).files = ix.files.erase file := by
  unfold removeEntry
  split <;> simp

@[simp] theorem config_removeEntry (ix : Index) (file : Path) :
    (ix.removeEntry file).config = ix.config := by
  unfold removeEntry
  split <;> simp

/-! ### A class is taken from the cache or made again -/

theorem materialize_eq (ix : Index) (file : Path) (state : FileState) :
    (ix.materialize file state).2 = { ix with cache := (ix.materialize file state).2.cache } := by
  unfold materialize
  split
  · rfl
  · split <;> rfl

theorem cache_materialize_cases (ix : Index) (file : Path) (state : FileState) :
    (ix.materialize file state).2.cache = ix.cache ∨
    (ix.materialize file state).2.cache = (ix.cache.get file).2 ∨
    ∃ c, (ix.materialize file state).2.cache = (ix.cache.insert file c).2 := by
  unfold materialize
  split
  · next hget => exact .inr (.inl (by rw [hget]))
  · split
    · exact .inr (.inr ⟨_,rfl⟩)
    · exact .inl rfl

@[simp] theorem config_materialize (ix : Index) (file : Path) (state : FileState) :
    (ix.materialize file state).2.config = ix.config := by
  rw [materialize_eq]

@[simp] theorem ready_materialize (ix : Index) (file : Path) (state : FileState) :
    (ix.materialize file state).2.ready = ix.ready := by
  rw [materialize_eq]

@[simp] theorem files_materialize (ix : Index) (file : Path) (state : FileState) :
    (ix.materialize file state).2.files = ix.files := by
  rw [materialize_eq]

@[simp] theorem declaring_materialize (ix : Index) (file : Path) (state : FileState) :
    (ix.materialize file state).2.declaring = ix.declaring := by
  rw [materialize_eq]

@[simp] theorem diagnostics_materialize (ix : Index) (file : Path) (state : FileState) :
    (ix.materialize file state).2.diagnostics = ix.diagnostics := by
  rw [materialize_eq]

theorem answerStale_fst (ix : Index) (file : Path) (version? : Option Int) (state : FileState) :
    (ix.answerStale file version? state).1 =
      match (ix.materialize file state).1 with
      | some c => .ok c
      | none => .error (((ix.materialize file state).2.firstFatal? file).getD
          ⟨.origin,.nothingToFallBackOn version? file.text⟩) := by
  unfold answerStale
  split <;> simp_all

theorem answerStale_snd (ix : Index) (file : Path) (version? : Option Int) (state : FileState) :
    (ix.answerStale file version? state).2 = (ix.materialize file state).2 := by
  unfold answerStale
  split <;> simp_all

theorem answerRepeated?_parsed (ix : Index) (file : Path) (i t : String) :
    ix.answerRepeated? file (.parsed i t) =
      (ix.materialize file (.parsed i t)).1.map fun c =>
        (.ok c,(ix.materialize file (.parsed i t)).2) := by
  simp only [answerRepeated?]
  split <;> simp_all

theorem snd_of_answerRepeated? {ix : Index} {file : Path} {state : FileState}
    {answer : Except Diagnostic Class × Index} (h : ix.answerRepeated? file state = some answer) :
    answer.2 = ix ∨ answer.2 = (ix.materialize file state).2 := by
  cases state with
  | unparsed => simp [answerRepeated?] at h
  | failed i t =>
    simp only [answerRepeated?, Option.map_eq_some_iff] at h
    obtain ⟨d,_,rfl⟩ := h
    exact .inl rfl
  | parsed i t =>
    rw [answerRepeated?_parsed, Option.map_eq_some_iff] at h
    obtain ⟨c,_,rfl⟩ := h
    exact .inr rfl

theorem refresh_cases (ix : Index) (file : Path) (text : String) (version? : Option Int) :
    (∃ state current, ix.files.get? file = some ⟨state,some current⟩ ∧
      Stamp.isOlderThan ⟨version?,text⟩ current = true ∧
      ix.refresh file text version? = ix.answerStale file version? state) ∨
    (∃ state current answer, ix.files.get? file = some ⟨state,some current⟩ ∧
      Stamp.isOlderThan ⟨version?,text⟩ current = false ∧ current.text = text ∧
      ix.answerRepeated? file state = some answer ∧ ix.refresh file text version? = answer) ∨
    (ix.refresh file text version? = ix.parse file ⟨version?,text⟩ ∧
      ∀ state current, ix.files.get? file = some ⟨state,some current⟩ →
        Stamp.isOlderThan ⟨version?,text⟩ current = false ∧
          (current.text = text → ix.answerRepeated? file state = none)) := by
  unfold refresh
  rcases he : ix.files.get? file with _ | ⟨state,_ | current⟩
  · exact .inr (.inr ⟨rfl,by simp⟩)
  · exact .inr (.inr ⟨rfl,by simp⟩)
  · dsimp only
    by_cases hold : Stamp.isOlderThan ⟨version?,text⟩ current = true
    · exact .inl ⟨state,current,rfl,hold,by simp [hold]⟩
    · by_cases htext : current.text = text
      · cases hr : ix.answerRepeated? file state with
        | some answer =>
          exact .inr (.inl ⟨state,current,answer,rfl,by simpa using hold,htext,hr,
            by simp [hold,htext]⟩)
        | none =>
          refine .inr (.inr ⟨by simp [hold,htext],?_⟩)
          rintro _ _ ⟨rfl,rfl⟩
          exact ⟨by simpa using hold,fun _ => hr⟩
      · refine .inr (.inr ⟨by simp [hold,htext],?_⟩)
        rintro _ _ ⟨rfl,rfl⟩
        exact ⟨by simpa using hold,fun h => absurd h htext⟩

theorem snd_refresh_cases (ix : Index) (file : Path) (text : String) (version? : Option Int) :
    (ix.refresh file text version?).2 = ix ∨
    (ix.refresh file text version?).2 = (ix.materialize file (ix.stateOf file)).2 ∨
    (ix.refresh file text version?).2 = (ix.parse file ⟨version?,text⟩).2 := by
  have hstate {state : FileState} {stamp? : Option Stamp}
      (he : ix.files.get? file = some ⟨state,stamp?⟩) : ix.stateOf file = state := by
    simp [stateOf, he]
  rcases ix.refresh_cases file text version? with
    ⟨state,_,he,_,hr⟩ | ⟨state,_,answer,he,_,_,hanswer,hr⟩ | ⟨hr,_⟩
  · rw [hr, answerStale_snd, hstate he]
    exact .inr (.inl rfl)
  · rw [hr, hstate he]
    rcases snd_of_answerRepeated? hanswer with heq | heq
    · exact .inl heq
    · exact .inr (.inl heq)
  · rw [hr]
    exact .inr (.inr rfl)

end SmaliNavigator.Index
