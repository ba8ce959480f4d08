import SmaliNavigator.Proofs.Index.History

/-!
The size of the cache does not show. Indexes that differ in their caches and budgets alone are alike,
and every operation about classes answers the same over them and leaves them alike, because a class
that was dropped is made again from the text that it was made from.
-/

set_option autoImplicit false

namespace SmaliNavigator.Index

/-- The index without what its cache has and may have. -/
def core (ix : Index) : Index :=
  { ix with config := { ix.config with cacheBudget := 0 }, cache := .new 0 }

/-! ### The steps of an index, as far as the cache does not matter -/

theorem core_register (ix : Index) (file : Path) : (ix.register file).core = ix.core.register file := by
  unfold register
  change _ = if ix.files.contains file then _ else _
  split <;> rfl

theorem core_refreshConflict (identifier : String) (files : List Path) (ix : Index) (file : Path) :
    (refreshConflict identifier files ix file).core =
      refreshConflict identifier files ix.core file := by
  unfold refreshConflict
  change _ = if (ix.diagnosticsOf file).any (·.isConflict) then _ else _
  dsimp only
  split <;> rfl

theorem core_refreshConflicts (ix : Index) (identifier : String) :
    (ix.refreshConflicts identifier).core = ix.core.refreshConflicts identifier := by
  have h := fun jx file => (core_refreshConflict identifier (ix.declarers identifier) jx file).symm
  exact (List.foldl_hom core h).symm

theorem core_unmap (ix : Index) (identifier : String) (file : Path) :
    (ix.unmap identifier file).core = ix.core.unmap identifier file := by
  unfold unmap
  rw [show ix.core.declaring = ix.declaring from rfl]
  cases ix.declaring.get? identifier with
  | none => rfl
  | some files =>
    dsimp only
    split
    · rfl
    · exact core_refreshConflicts _ _

theorem core_leavePrevious (ix : Index) (file : Path) (identifier : String) :
    (ix.leavePrevious file identifier).core = ix.core.leavePrevious file identifier := by
  unfold leavePrevious
  rw [show ix.core.identifierOf? file = ix.identifierOf? file from rfl]
  cases ix.identifierOf? file with
  | none => rfl
  | some old =>
    dsimp only
    split
    · rfl
    · exact core_unmap ix old file

theorem core_reject (ix : Index) (file : Path) (stamp : Stamp) (d : Diagnostic) :
    (ix.reject file stamp d).core = ix.core.reject file stamp d := rfl

theorem core_materialize (ix : Index) (file : Path) (state : FileState) :
    (ix.materialize file state).2.core = ix.core := by
  rw [materialize_eq]
  rfl

/-- The index once a file that has left its previous class is entered with a class. -/
def enter (ix : Index) (file : Path) (stamp : Stamp) (c : Class) : Index :=
  let ix := { ix.map c.identifier file with
    files := ix.files.insert file ⟨.parsed c.identifier stamp.text,some stamp⟩
    cache := (ix.cache.insert file c).2 }
  ix.setDiagnostics file (ix.conflicts c file)

theorem core_accept (ix : Index) (file : Path) (stamp : Stamp) (c : Class) :
    (ix.accept file stamp c).core = (ix.core.accept file stamp c).core := by
  change ((ix.leavePrevious file c.identifier).enter file stamp c).core =
    ((ix.core.leavePrevious file c.identifier).enter file stamp c).core
  rw [← core_leavePrevious]
  rfl

theorem core_removeEntry (ix : Index) (file : Path) :
    (ix.removeEntry file).core = ix.core.removeEntry file := by
  unfold removeEntry
  rw [show ix.core.identifierOf? file = ix.identifierOf? file from rfl]
  cases ix.identifierOf? file with
  | none => rfl
  | some i => exact core_unmap { ix with files := ix.files.erase file } i file

theorem core_remove (ix : Index) (file : Path) :
    (ix.remove file).core = (ix.core.remove file).core := by
  rw [remove_eq, remove_eq, ← core_removeEntry]
  rfl

/-! ### Two indexes that differ in their caches -/

/-- The same but for what the caches have and may have, and neither has anything but classes of the
last texts that could be read. -/
structure Alike (ix jx : Index) : Prop where
  core : ix.core = jx.core
  sound : ix.Sound
  sound' : jx.Sound

namespace Alike

variable {ix jx : Index} (h : Alike ix jx)
include h

theorem files : ix.files = jx.files := congrArg (·.files) h.core

theorem declaring : ix.declaring = jx.declaring := congrArg (·.declaring) h.core

theorem diagnostics : ix.diagnostics = jx.diagnostics := congrArg (·.diagnostics) h.core

theorem touched : ix.touched = jx.touched := congrArg (·.touched) h.core

theorem stateOf (file : Path) : ix.stateOf file = jx.stateOf file := by
  simp [Index.stateOf, h.files]

theorem goodClass? (file : Path) : ix.goodClass? file = jx.goodClass? file := by
  simp [Index.goodClass?, h.stateOf]

theorem firstFatal? (file : Path) : ix.firstFatal? file = jx.firstFatal? file := by
  simp [Index.firstFatal?, diagnosticsOf, h.diagnostics]

theorem materialize (file : Path) :
    (ix.materialize file (ix.stateOf file)).1 = (jx.materialize file (jx.stateOf file)).1 ∧
      Alike (ix.materialize file (ix.stateOf file)).2
        (jx.materialize file (jx.stateOf file)).2 := by
  constructor
  · rw [fst_materialize h.sound, fst_materialize h.sound', h.goodClass? file]
  · exact ⟨by rw [core_materialize, core_materialize, h.core],h.sound.materialize file,
      h.sound'.materialize file⟩

theorem parse (file : Path) (stamp : Stamp) :
    (ix.parse file stamp).1 = (jx.parse file stamp).1 ∧
      (ix.parse file stamp).2.core = (jx.parse file stamp).2.core := by
  unfold Index.parse
  cases Class.ofString stamp.text with
  | ok c => exact ⟨rfl,by rw [core_accept, h.core, ← core_accept]⟩
  | error d => exact ⟨rfl,by rw [core_reject, h.core, ← core_reject]⟩

theorem answerStale (file : Path) (version? : Option Int) :
    (ix.answerStale file version? (ix.stateOf file)).1 =
        (jx.answerStale file version? (jx.stateOf file)).1 ∧
      (ix.answerStale file version? (ix.stateOf file)).2.core =
        (jx.answerStale file version? (jx.stateOf file)).2.core := by
  obtain ⟨hclass,hafter⟩ := h.materialize file
  constructor
  · rw [answerStale_fst, answerStale_fst, hclass, hafter.firstFatal? file]
  · rw [answerStale_snd, answerStale_snd, hafter.core]

theorem answerRepeated? (file : Path) :
    ((ix.answerRepeated? file (ix.stateOf file)).map fun r => (r.1,r.2.core)) =
      (jx.answerRepeated? file (jx.stateOf file)).map fun r => (r.1,r.2.core) := by
  obtain ⟨hclass,hafter⟩ := h.materialize file
  rw [← h.stateOf file] at hclass hafter ⊢
  cases hs : ix.stateOf file with
  | unparsed => rfl
  | failed i t =>
    simp only [Index.answerRepeated?, h.firstFatal? file, Option.map_map]
    simp [Function.comp_def, h.core]
  | parsed i t =>
    rw [hs] at hclass hafter
    rw [answerRepeated?_parsed, answerRepeated?_parsed, hclass]
    simp [Function.comp_def, hafter.core]

theorem refresh (file : Path) (text : String) (version? : Option Int) :
    (ix.refresh file text version?).1 = (jx.refresh file text version?).1 ∧
      Alike (ix.refresh file text version?).2 (jx.refresh file text version?).2 := by
  suffices hboth : (ix.refresh file text version?).1 = (jx.refresh file text version?).1 ∧
      (ix.refresh file text version?).2.core = (jx.refresh file text version?).2.core from
    ⟨hboth.1,hboth.2,h.sound.refresh file text version?,h.sound'.refresh file text version?⟩
  have hparse := h.parse file ⟨version?,text⟩
  have hstale := h.answerStale file version?
  have hrepeated := h.answerRepeated? file
  unfold Index.refresh
  rw [← h.files]
  unfold Index.stateOf at hstale hrepeated
  rw [← h.files] at hstale hrepeated
  rcases he : ix.files.get? file with _ | ⟨state,_ | current⟩
  · exact hparse
  · exact hparse
  · -- which way is taken hangs on the entry, and on whether the text can be answered at once
    rw [he] at hstale hrepeated
    dsimp only [Option.map_some, Option.getD_some] at hstale hrepeated ⊢
    split
    · exact hstale
    · split
      · cases hi : ix.answerRepeated? file state with
        | none =>
          cases hj : jx.answerRepeated? file state with
          | none => exact hparse
          | some r => simp [hi, hj] at hrepeated
        | some q =>
          cases hj : jx.answerRepeated? file state with
          | none => simp [hi, hj] at hrepeated
          | some r => simpa [hi, hj] using hrepeated
      · exact hparse

theorem readLive (file : Path) (live? : Except Failure LiveText) :
    (ix.readLive file live?).1 = (jx.readLive file live?).1 ∧
      Alike (ix.readLive file live?).2 (jx.readLive file live?).2 := by
  cases live? with
  | error e => exact ⟨rfl,h⟩
  | ok live =>
    obtain ⟨hanswer,hafter⟩ := h.refresh file live.text live.version?
    exact ⟨congrArg Except.toOption hanswer,hafter⟩

end Alike

theorem Sound.not_cached {ix : Index} (h : ix.Sound) {file : Path}
    (hs : ix.stateOf file = .unparsed) : (ix.cache.get file).1 = none := by
  cases hc : (ix.cache.get file).1 with
  | none => rfl
  | some c =>
    have hgood := h.cached file c hc
    simp [goodClass?, hs, FileState.goodText?] at hgood

theorem agree_classOf? (s : Surroundings) (file : Path) :
    Query.Agree Alike s (Query.classOf? file) (Query.classOf? file) := by
  rintro ⟨ix,looks,reads⟩ ⟨jx,looks',reads'⟩ ⟨h,hcounts⟩
  dsimp only at h hcounts
  by_cases hs : ix.stateOf file = .unparsed
  · -- then neither cache has a class of the file, and both indexes read it
    have hs' : jx.stateOf file = .unparsed := (h.stateOf file).symm.trans hs
    rw [Query.run_classOf?_unread hs (h.sound.not_cached hs),
      Query.run_classOf?_unread hs' (h.sound'.not_cached hs')]
    obtain ⟨hanswer,hafter⟩ := h.readLive file (s.source.open? file)
    exact ⟨congrArg some hanswer,hafter,
      fun hc => ⟨(hcounts hc).1,congrArg (· + 1) (hcounts hc).2⟩⟩
  · have hs' : jx.stateOf file ≠ .unparsed := fun hj => hs ((h.stateOf file).trans hj)
    rw [Query.run_classOf?_known (a := ⟨ix,looks,reads⟩) fun hu => absurd hu hs,
      Query.run_classOf?_known (a := ⟨jx,looks',reads'⟩) fun hu => absurd hu hs']
    obtain ⟨hanswer,hafter⟩ := h.materialize file
    exact ⟨congrArg some hanswer,hafter,hcounts⟩

theorem kept_alike (s : Surroundings) : Operation.Kept Alike s where
  files h := h.files
  declaring h := h.declaring
  ready h := congrArg (·.ready) h.core
  preload h := congrArg (·.config.preload) h.core
  markReady h := ⟨congrArg Index.markReady h.core,invariant_sound.markReady h.sound,
    invariant_sound.markReady h.sound'⟩
  register file h := ⟨by rw [core_register, core_register, h.core],h.sound.register file,
    h.sound'.register file⟩
  refresh file live _ h := (h.refresh file live.text live.version?).2
  classOf? := agree_classOf? s
  refreshText file text version? h := h.refresh file text version?
  remove file h := ⟨by rw [core_remove, h.core, ← core_remove],h.sound.remove file,
    h.sound'.remove file⟩
  clear h := ⟨congrArg Index.clear h.core,sound_new _,sound_new _⟩
  takeTouched h := ⟨congrArg (·.files) h.touched,congrArg (fun ix => { ix with touched := ∅ }) h.core,
    invariant_sound.takeTouched h.sound,invariant_sound.takeTouched h.sound'⟩

open Operation (perform)

/-- Operations about classes answer the same whatever the cache may have, and leave indexes that
differ in nothing else. What the cache has of a file is the class of the last text of the file that
could be read. -/
theorem perform_cacheBudget (config : Config) (b b' : Nat) (steps : List (Surroundings × Operation))
    (h : ∀ x ∈ steps, x.2.isAboutClasses = true) :
    let r := perform (.new { config with cacheBudget := b }) steps
    let r' := perform (.new { config with cacheBudget := b' }) steps
    r.1 = r'.1 ∧ r.2.files = r'.2.files ∧ r.2.declaring = r'.2.declaring ∧
      r.2.diagnostics = r'.2.diagnostics ∧ r.2.touched = r'.2.touched ∧
      ∀ file c, (r.2.cache.get file).1 = some c →
        ∃ e text, r.2.files.get? file = some e ∧ e.state.goodText? = some text ∧
          Class.ofString text = .ok c := by
  intro r r'
  have hstart : Alike (.new { config with cacheBudget := b })
      (.new { config with cacheBudget := b' }) := ⟨rfl,sound_new _,sound_new _⟩
  obtain ⟨hanswers,hend⟩ := Operation.agree_perform (fun x hx =>
    (kept_alike x.1).query x.2 fun ht => absurd (h x hx) (by simp [ht])) hstart
  refine ⟨hanswers,hend.files,hend.declaring,hend.diagnostics,hend.touched,fun file c hc => ?_⟩
  obtain ⟨t,ht,hread⟩ := goodClass?_eq_some (hend.sound.cached file c hc)
  unfold stateOf at ht
  cases he : r.2.files.get? file with
  | none => simp [r, he, FileState.goodText?] at ht
  | some e => exact ⟨e,t,rfl,by simpa [r, he] using ht,hread⟩

/-- A cache that can keep nothing and one that keeps all. -/
theorem perform_cacheBudget_zero :
    let s : Surroundings := ⟨MemoryProject.empty.source,.never⟩
    let steps := [(s,Operation.refresh (.ofString "A.smali") ".class La;\n.super Lb;\n" none),
      (s,.refresh (.ofString "B.smali") ".class Lb;\n.super Lc;\n" none),
      (s,.classOf (.ofString "A.smali")),(s,.superclasses "La;")]
    let r := perform (.new { Config.default with cacheBudget := 0 }) steps
    let r' := perform (.new { Config.default with cacheBudget := 100 }) steps
    (∀ x ∈ steps, x.2.isAboutClasses = true) ∧ r.1 = r'.1 ∧
      r.2.cache.size = 0 ∧ r'.2.cache.size = 2 := by
  intro s steps r r'
  have h : ∀ x ∈ steps, x.2.isAboutClasses = true := by simp [steps, Operation.isAboutClasses]
  exact ⟨h,(perform_cacheBudget .default 0 100 steps h).1,by decide +kernel,by decide +kernel⟩

/-- The identifiers of each answer, none for an answer that gives something else. -/
def identifiersOf (answers : List (Option Operation.Answer)) : List (List String) :=
  answers.map fun
    | some (.identifiers found) => found
    | _ => []

/-- Two files that are unread have one class. Which of them is come upon first shows in the order of its
superclasses and in the warning about the conflict: two indexes answer differently that do not come upon
the files in the same order. -/
theorem perform_other_order :
    let s : Surroundings := ⟨((MemoryProject.empty.put (.ofString "x.smali")
      ⟨".class La;\n.super Lx;\n",none⟩).put (.ofString "y.smali")
      ⟨".class La;\n.super Ly;\n",none⟩).source,.never⟩
    let s' := s.inOrder ⟨List.reverse,List.reverse_perm⟩
    let steps (s : Surroundings) := [(s,Operation.load),(s,.superclasses "La;")]
    let config := { Config.default with preload := false }
    let r := perform (.new { config with cacheBudget := 0 }) (steps s)
    let r' := perform (.new { config with cacheBudget := 100 }) (steps s')
    s'.source = s.source ∧ (∀ x ∈ steps s, x.2.isAboutClasses = true) ∧ r.1 ≠ r'.1 ∧
      r.2.diagnosticsOf (.ofString "x.smali") ≠ r'.2.diagnosticsOf (.ofString "x.smali") := by
  intro s s' steps config r r'
  have hfirst : identifiersOf r.1 = [[],["Lx;","Ly;"]] := by decide +kernel
  have hsecond : identifiersOf r'.1 = [[],["Ly;","Lx;"]] := by decide +kernel
  refine ⟨rfl,by simp [steps, Operation.isAboutClasses],fun heq => ?_,by decide +kernel⟩
  rw [heq, hsecond] at hfirst
  exact absurd hfirst (by decide)

end SmaliNavigator.Index
