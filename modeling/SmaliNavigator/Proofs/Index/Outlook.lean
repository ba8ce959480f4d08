import SmaliNavigator.Proofs.Index.Independence
import SmaliNavigator.Proofs.Index.Truthful

/-!
What an index will have once all of its files have been read. Reading one of the files that are unread
yet does not change that, so that it can be compared over questions that read some of them.
-/

set_option autoImplicit false

namespace SmaliNavigator.Index

open Query (unparsedFiles mem_unparsedFiles)

/-- The state that a file has, or that it will have once it has been read. -/
def stateIn (ix : Index) (source : Source) (file : Path) : FileState :=
  match ix.stateOf file, source.open? file with
  | .unparsed, .ok live => FileState.unparsed.after live.text
  | state, _ => state

def classIn? (ix : Index) (source : Source) (file : Path) : Option Class :=
  (ix.stateIn source file).goodText?.bind fun t => (Class.ofString t).toOption

/-- A file is among those that declare a class, or it will be. -/
def WillDeclare (ix : Index) (source : Source) (identifier : String) (file : Path) : Prop :=
  file ∈ ix.declarers identifier ∨
    file ∈ unparsedFiles ix ∧ (ix.stateIn source file).identifier? = some identifier

/-- The index once a file has been read, if it can be. -/
def readIn (source : Source) (ix : Index) (file : Path) : Index :=
  (ix.readLive file (source.open? file)).2

/-- The index once all files that are unread have been read, as far as they can be. -/
def readAll (ix : Index) (source : Source) : Index := (unparsedFiles ix).foldl (readIn source) ix

section States

variable {ix : Index} {source : Source} {file : Path}

theorem stateIn_of_read (h : ix.stateOf file ≠ .unparsed) : ix.stateIn source file = ix.stateOf file := by
  unfold stateIn
  split
  · next hstate _ => exact absurd hstate h
  · rfl

theorem stateIn_of_error {e : Failure} (h : source.open? file = .error e) :
    ix.stateIn source file = ix.stateOf file := by
  unfold stateIn
  rw [h]
  split
  · next hlive => cases hlive
  · rfl

theorem stateIn_of_unread (hunread : ix.stateOf file = .unparsed) {live : LiveText}
    (hopen : source.open? file = .ok live) :
    ix.stateIn source file = FileState.unparsed.after live.text := by
  unfold stateIn
  rw [hunread, hopen]

theorem classIn?_of_read (h : ix.stateOf file ≠ .unparsed) :
    ix.classIn? source file = ix.goodClass? file := by
  rw [classIn?, stateIn_of_read h, goodClass?]

theorem classIn?_of_unread (h : ix.stateOf file = .unparsed) :
    ix.classIn? source file = source.classOf? file := by
  unfold classIn? Source.classOf?
  cases hopen : source.open? file with
  | error e =>
    rw [stateIn_of_error hopen, h]
    rfl
  | ok live =>
    rw [stateIn_of_unread h hopen]
    cases hc : Class.ofString live.text with
    | ok c => simp [FileState.after_ok hc, FileState.goodText?, hc, Except.toOption]
    | error d => simp [FileState.after_error hc, FileState.goodText?, hc, Except.toOption]

end States

/-! ### Some of the files are read -/

/-- What an index becomes when some of its unread files are read. -/
structure ReadFurther (source : Source) (ix jx : Index) : Prop where
  sound : jx.Sound
  mapped : jx.Mapped
  unstamped : ∀ f, jx.stateOf f = .unparsed → (jx.entryOf f).stamp? = none
  unread : ∀ f, jx.stateOf f = .unparsed → ix.stateOf f = .unparsed
  ready : jx.ready = ix.ready
  knownFiles : jx.knownFiles = ix.knownFiles
  stateIn : ∀ f ∈ ix.knownFiles, jx.stateIn source f = ix.stateIn source f
  willDeclare : ∀ identifier f,
    jx.WillDeclare source identifier f ↔ ix.WillDeclare source identifier f

namespace ReadFurther

variable {source : Source} {ix jx kx : Index}

theorem refl (h : ix.Reachable) : ReadFurther source ix ix where
  sound := invariant_sound.of_reachable h
  mapped := invariant_mapped.of_reachable h
  unstamped f hf := (h.holds f).unparsed (ix.stateOf_eq f ▸ hf)
  unread _ := id
  ready := rfl
  knownFiles := rfl
  stateIn _ _ := rfl
  willDeclare _ _ := Iff.rfl

theorem alike (h : ReadFurther source ix jx) (ha : Alike jx kx) : ReadFurther source ix kx := by
  have hstate (f : Path) : kx.stateOf f = jx.stateOf f := (ha.stateOf f).symm
  have hknown : kx.knownFiles = jx.knownFiles := by simp [Index.knownFiles, ha.files]
  refine ⟨ha.sound',h.mapped.congr ha.files.symm ha.declaring.symm,?_,?_,?_,?_,?_,?_⟩
  · simpa [hstate, entryOf_congr ha.files.symm] using h.unstamped
  · simpa [hstate] using h.unread
  · exact (congrArg (·.ready) ha.core).symm.trans h.ready
  · exact hknown.trans h.knownFiles
  · simpa [Index.stateIn, hstate] using h.stateIn
  · simpa [WillDeclare, declarers, mem_unparsedFiles, Index.stateIn, ← ha.declaring, hknown, hstate]
      using h.willDeclare

section Reading

variable {file : Path} {live : LiveText} (h : ReadFurther source ix jx)
  (hknown : file ∈ jx.knownFiles) (hunread : jx.stateOf file = .unparsed)
  (hopen : source.open? file = .ok live)
include h hunread

theorem refresh_eq (text : String) (version? : Option Int) :
    jx.refresh file text version? = jx.parse file ⟨version?,text⟩ :=
  refresh_of_no_stamp (h.unstamped file hunread) text version?

theorem stateOf_refresh (f : Path) :
    (jx.refresh file live.text live.version?).2.stateOf f =
      if f.same file then FileState.unparsed.after live.text else jx.stateOf f := by
  rw [h.refresh_eq hunread, stateOf_eq, entryOf_insert (files_parse ..), hunread, stateOf_eq]
  split <;> rfl

theorem stateOf_refresh_self :
    (jx.refresh file live.text live.version?).2.stateOf file = FileState.unparsed.after live.text := by
  rw [h.stateOf_refresh hunread, if_pos file.same_refl]

theorem mem_declarers_refresh (identifier : String) (f : Path) :
    f ∈ (jx.refresh file live.text live.version?).2.declarers identifier ↔
      f ∈ jx.declarers identifier ∨
        f = file ∧ (FileState.unparsed.after live.text).identifier? = some identifier := by
  rw [h.refresh_eq hunread, parse]
  cases hc : Class.ofString live.text with
  | error d => simp [FileState.after_error hc, FileState.identifier?, declarers]
  | ok c =>
    have hnone : jx.identifierOf? file = none := by rw [identifierOf?_eq, hunread]; rfl
    have hleave : jx.leavePrevious file c.identifier = jx := by rw [leavePrevious, hnone]
    dsimp only
    rw [declarers, declaring_accept, hleave, get?_map, FileState.after_ok hc]
    by_cases hid : identifier = c.identifier
    · subst hid
      have hnew : ¬PathMap.contains ((jx.declaring.get? c.identifier).getD ∅) file = true := by
        intro hcontains
        obtain ⟨g,hg,hsame⟩ := PathMap.exists_mem_files hcontains
        have hmapped := h.mapped.identifierOf?_of_mem_declarers hg
        rw [jx.identifierOf?_same hsame, hnone] at hmapped
        cases hmapped
      rw [if_pos rfl, Option.getD_some, PathSet.mem_files_add hnew, declarers]
      simp [FileState.identifier?, or_comm]
    · rw [if_neg hid, declarers]
      simp [FileState.identifier?, Ne.symm hid]

include hknown

theorem stateOf_refresh_other {f : Path} (hf : f ∈ jx.knownFiles) (hne : f ≠ file) :
    (jx.refresh file live.text live.version?).2.stateOf f = jx.stateOf f := by
  rw [h.stateOf_refresh hunread, if_neg]
  exact fun hsame => hne (PathMap.eq_of_mem_files hf hknown hsame)

include hopen

theorem stateIn_refresh {f : Path} (hf : f ∈ jx.knownFiles) :
    (jx.refresh file live.text live.version?).2.stateIn source f = jx.stateIn source f := by
  by_cases heq : f = file
  · subst heq
    have hstate : (jx.refresh f live.text live.version?).2.stateOf f = _ :=
      h.stateOf_refresh_self hunread
    have hread : (jx.refresh f live.text live.version?).2.stateOf f ≠ .unparsed := by
      rw [hstate]
      exact FileState.after_ne_unparsed _ _
    rw [stateIn_of_unread hunread hopen, stateIn_of_read hread, hstate]
  · unfold Index.stateIn
    rw [h.stateOf_refresh_other hknown hunread hf heq]

theorem willDeclare_refresh (identifier : String) (f : Path) :
    (jx.refresh file live.text live.version?).2.WillDeclare source identifier f ↔
      jx.WillDeclare source identifier f := by
  unfold WillDeclare
  rw [h.mem_declarers_refresh hunread, mem_unparsedFiles, mem_unparsedFiles,
    knownFiles_refresh hknown]
  by_cases heq : f = file
  · subst heq
    simp [h.stateOf_refresh_self hunread, FileState.after_ne_unparsed, hknown, hunread, stateIn_of_unread hunread hopen]
  · by_cases hf : f ∈ jx.knownFiles
    · simp [heq, h.stateOf_refresh_other hknown hunread hf heq,
        h.stateIn_refresh hknown hunread hopen hf]
    · simp [heq, hf]

theorem refresh : ReadFurther source ix (jx.refresh file live.text live.version?).2 where
  sound := h.sound.refresh file _ _
  mapped := h.mapped.refresh file _ _
  unstamped f hf := by
    have hentry := entryOf_insert (files_parse jx file ⟨live.version?,live.text⟩) f
    rw [← h.refresh_eq hunread] at hentry
    rw [h.stateOf_refresh hunread] at hf
    rw [hentry]
    split at hf
    · exact absurd hf (FileState.after_ne_unparsed _ _)
    · next hsame =>
      rw [if_neg hsame]
      exact h.unstamped f hf
  unread f hf := by
    rw [h.stateOf_refresh hunread] at hf
    split at hf
    · exact absurd hf (FileState.after_ne_unparsed _ _)
    · exact h.unread f hf
  ready := (jx.ready_refresh file _ _).trans h.ready
  knownFiles := (knownFiles_refresh hknown _ _).trans h.knownFiles
  stateIn f hf := (h.stateIn_refresh hknown hunread hopen (h.knownFiles ▸ hf)).trans (h.stateIn f hf)
  willDeclare identifier f :=
    (h.willDeclare_refresh hknown hunread hopen identifier f).trans (h.willDeclare identifier f)

end Reading

/-- Where the unread files are read one after the other, none is left but those that cannot be. -/
theorem foldl_readIn (h : ReadFurther source ix jx) {files : List Path} (hnodup : files.Nodup)
    (hfiles : ∀ f ∈ files, f ∈ jx.knownFiles ∧ jx.stateOf f = .unparsed)
    (hrest : ∀ f ∈ jx.knownFiles, jx.stateOf f = .unparsed → f ∈ files ∨ ∃ e, source.open? f = .error e) :
    ReadFurther source ix (files.foldl (readIn source) jx) ∧
      ∀ f ∈ ix.knownFiles, (files.foldl (readIn source) jx).stateOf f = .unparsed →
        ∃ e, source.open? f = .error e := by
  induction files generalizing jx with
  | nil => exact ⟨h,fun f hf hstate => (hrest f (h.knownFiles ▸ hf) hstate).resolve_left (by simp)⟩
  | cons file files ih =>
    obtain ⟨hnew,hnodup⟩ := List.nodup_cons.mp hnodup
    obtain ⟨⟨hknown,hunread⟩,hfiles⟩ := List.forall_mem_cons.mp hfiles
    rw [List.foldl_cons]
    unfold readIn Index.readLive
    cases hopen : source.open? file with
    | error e =>
      refine ih h hnodup hfiles fun f hf hstate => ?_
      rcases hrest f hf hstate with hmem | herror
      · rcases List.mem_cons.mp hmem with rfl | hmem
        · exact .inr ⟨e,hopen⟩
        · exact .inl hmem
      · exact .inr herror
    | ok live =>
      have hnext := knownFiles_refresh hknown live.text live.version?
      refine ih (h.refresh hknown hunread hopen) hnodup (fun f hf => ?_) fun f hf hstate => ?_
      · obtain ⟨hmem,hstate⟩ := hfiles f hf
        refine ⟨hnext ▸ hmem,?_⟩
        exact (h.stateOf_refresh_other hknown hunread hmem fun heq => hnew (heq ▸ hf)).trans hstate
      · dsimp only at hf hstate
        rw [hnext] at hf
        have hne : f ≠ file := by
          rintro rfl
          rw [h.stateOf_refresh_self hunread] at hstate
          exact FileState.after_ne_unparsed _ _ hstate
        rw [h.stateOf_refresh_other hknown hunread hf hne] at hstate
        exact (hrest f hf hstate).imp_left fun hmem => (List.mem_cons.mp hmem).resolve_left hne

end ReadFurther

theorem nodup_unparsedFiles (ix : Index) : (unparsedFiles ix).Nodup :=
  ix.files.nodup_files.sublist (List.filter_sublist.map _)

section ReadAll

variable {ix jx : Index} {source : Source}

theorem Reachable.readAll (h : ix.Reachable) (source : Source) : (ix.readAll source).Reachable := by
  refine (unparsedFiles ix).foldlRecOn (motive := Reachable) (readIn source) h fun jx hjx f _ => ?_
  unfold readIn readLive
  split
  · exact hjx
  · next live _ => exact hjx.call (.refresh f live.text live.version?)

theorem Reachable.readFurther_readAll (h : ix.Reachable) (source : Source) :
    ReadFurther source ix (ix.readAll source) ∧
      ∀ f ∈ ix.knownFiles, (ix.readAll source).stateOf f = .unparsed → ∃ e, source.open? f = .error e := by
  refine (ReadFurther.refl h).foldl_readIn ?_ (fun f hf => mem_unparsedFiles.mp hf)
    fun f hf hstate => .inl (mem_unparsedFiles.mpr ⟨hf,hstate⟩)
  exact ix.nodup_unparsedFiles

theorem AllRead.readAll_eq (h : ix.AllRead source) : ix.readAll source = ix := by
  refine (unparsedFiles ix).foldlRecOn (motive := (· = ix)) (readIn source) rfl fun jx hjx f hf => ?_
  obtain ⟨hknown,hstate⟩ := mem_unparsedFiles.mp hf
  obtain ⟨e,hopen⟩ := h.unread f hknown hstate
  rw [readIn, hopen]
  exact hjx

end ReadAll

end SmaliNavigator.Index
