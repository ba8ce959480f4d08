import SmaliNavigator.Proofs.Index.Frame

/-!
The two maps of an index: from a file to the class that it declares, and from a class to the files
that declare it. `Mapped` says that they are inverse to each other, and every step of the index keeps
it.
-/

set_option autoImplicit false

namespace SmaliNavigator.Index

/-- Whether a file is among those of a class. -/
def declares (ix : Index) (identifier : String) (file : Path) : Bool :=
  (ix.declaring.get? identifier).any (·.contains file)

theorem declares_eq_any (ix : Index) (identifier : String) (file : Path) :
    ix.declares identifier file = (ix.declarers identifier).any (·.same file) := by
  unfold declares declarers
  cases ix.declaring.get? identifier with
  | none => rfl
  | some files => exact files.contains_eq_any file

theorem get?_undeclare (ix : Index) (identifier : String) (file : Path) (i : String) :
    (ix.undeclare identifier file).declaring.get? i =
      if i = identifier then
        ((ix.declaring.get? identifier).map (·.erase file)).filter (!·.isEmpty)
      else ix.declaring.get? i := by
  unfold undeclare
  cases hg : ix.declaring.get? identifier with
  | none =>
    by_cases hi : i = identifier
    · subst hi
      simp [hg]
    · simp [hi]
  | some files =>
    by_cases he : (files.erase file).isEmpty = true <;> by_cases hi : i = identifier <;>
      simp [he, hi, OrdMap.get?_erase, OrdMap.get?_insert, Option.filter]

theorem get?_map (ix : Index) (identifier : String) (file : Path) (i : String) :
    (ix.map identifier file).declaring.get? i =
      if i = identifier then some (((ix.declaring.get? identifier).getD ∅).add file)
      else ix.declaring.get? i := by
  simp [map, OrdMap.get?_insert]

theorem declares_undeclare (ix : Index) (identifier : String) (file : Path) (i : String)
    (f : Path) :
    (ix.undeclare identifier file).declares i f =
      (ix.declares i f && !(i == identifier && f.same file)) := by
  unfold declares
  rw [get?_undeclare]
  by_cases hi : i = identifier
  · subst hi
    cases hg : ix.declaring.get? i with
    | none => simp
    | some files =>
      have herase := PathMap.contains_erase files file f
      by_cases he : (files.erase file).isEmpty = true
      · rw [(PathMap.isEmpty_iff _).mp he f] at herase
        simpa [he, Option.filter, Bool.and_comm] using herase
      · simp [he, Option.filter, herase, Bool.and_comm]
  · simp [hi]

theorem declares_map (ix : Index) (identifier : String) (file : Path) (i : String) (f : Path) :
    (ix.map identifier file).declares i f =
      (i == identifier && f.same file || ix.declares i f) := by
  unfold declares
  rw [get?_map]
  by_cases hi : i = identifier
  · subst hi
    cases ix.declaring.get? i <;> simp [PathSet.contains_add]
  · simp [hi]

/-- No class is kept without a file. -/
def NoneEmpty (ix : Index) : Prop :=
  ∀ identifier files, ix.declaring.get? identifier = some files → files.isEmpty = false

theorem NoneEmpty.undeclare {ix : Index} (h : ix.NoneEmpty) (identifier : String) (file : Path) :
    (ix.undeclare identifier file).NoneEmpty := by
  intro i files hf
  rw [get?_undeclare] at hf
  split at hf
  · have hne := (Option.filter_eq_some_iff.mp hf).2
    simpa using hne
  · exact h i files hf

theorem NoneEmpty.map {ix : Index} (h : ix.NoneEmpty) (identifier : String) (file : Path) :
    (ix.map identifier file).NoneEmpty := by
  intro i files hf
  rw [get?_map] at hf
  split at hf
  · cases hf
    refine Bool.eq_false_iff.mpr fun he => ?_
    have hnone := (PathMap.isEmpty_iff _).mp he file
    simp [PathSet.contains_add] at hnone
  · exact h i files hf

/-- The files of a class are those whose entries name it, and a class without files is not kept. -/
structure Mapped (ix : Index) : Prop where
  declares_iff : ∀ identifier file,
    ix.declares identifier file = true ↔ ix.identifierOf? file = some identifier
  noneEmpty : ix.NoneEmpty

theorem mapped_new (config : Config) : (Index.new config).Mapped where
  declares_iff := by simp [declares, identifierOf?, new, OrdMap.get?_empty]
  noneEmpty := by simp [NoneEmpty, new]

theorem Mapped.congr {ix jx : Index} (h : ix.Mapped) (hf : jx.files = ix.files)
    (hd : jx.declaring = ix.declaring) : jx.Mapped where
  declares_iff := by simpa [declares, identifierOf?, hf, hd] using h.declares_iff
  noneEmpty := by simpa [NoneEmpty, hd] using h.noneEmpty

theorem Mapped.identifierOf?_of_mem_declarers {ix : Index} (h : ix.Mapped) {identifier : String}
    {file : Path} (hfile : file ∈ ix.declarers identifier) : ix.identifierOf? file = some identifier := by
  refine (h.declares_iff identifier file).mp ?_
  rw [declares_eq_any]
  exact List.any_eq_true.mpr ⟨file,hfile,file.same_refl⟩

theorem Mapped.exists_mem_declarers {ix : Index} (h : ix.Mapped) {identifier : String} {file : Path}
    (hid : ix.identifierOf? file = some identifier) : ∃ g ∈ ix.declarers identifier, g.same file = true := by
  have hdeclares := (h.declares_iff identifier file).mpr hid
  rwa [declares_eq_any, List.any_eq_true] at hdeclares

/-! ### The steps of an index -/

theorem identifierOf?_eq (ix : Index) (file : Path) :
    ix.identifierOf? file = (ix.stateOf file).identifier? := by
  unfold identifierOf? stateOf
  cases ix.files.get? file <;> rfl

theorem identifierOf?_same (ix : Index) {f g : Path} (h : f.same g = true) :
    ix.identifierOf? f = ix.identifierOf? g := by
  simp [identifierOf?, ix.files.get?_same h]

/-- An index whose entry of one file was replaced, without a change of its class. -/
theorem Mapped.insert {ix jx : Index} (h : ix.Mapped) {file : Path} {e : FileEntry}
    (he : e.state.identifier? = ix.identifierOf? file) (hf : jx.files = ix.files.insert file e)
    (hd : jx.declaring = ix.declaring) : jx.Mapped where
  declares_iff := by
    intro i f
    have hold := h.declares_iff i f
    have hid : jx.identifierOf? f = ix.identifierOf? f := by
      by_cases hs : f.same file = true
      · rw [ix.identifierOf?_same hs, ← he]
        simp [identifierOf?, hf, PathMap.get?_insert, hs]
      · simp [identifierOf?, hf, PathMap.get?_insert, hs]
    rw [hid, ← hold]
    simp [declares, hd]
  noneEmpty := by simpa [NoneEmpty, hd] using h.noneEmpty

theorem Mapped.register {ix : Index} (h : ix.Mapped) (file : Path) : (ix.register file).Mapped := by
  unfold Index.register
  split
  · exact h
  · next hnew =>
    refine h.insert ?_ rfl rfl
    simp [identifierOf?, PathMap.get?_of_not_contains hnew, FileState.identifier?]

theorem Mapped.reject {ix : Index} (h : ix.Mapped) (file : Path) (stamp : Stamp) (d : Diagnostic) :
    (ix.reject file stamp d).Mapped :=
  h.insert (by rw [identifierOf?_eq]; rfl) rfl rfl

theorem declares_unmap (ix : Index) (identifier : String) (file : Path) (i : String) (f : Path) :
    (ix.unmap identifier file).declares i f =
      (ix.declares i f && !(i == identifier && f.same file)) := by
  rw [← declares_undeclare]
  simp [declares, (sameButWarnings_unmap ix identifier file).declaring]

theorem NoneEmpty.unmap {ix : Index} (h : ix.NoneEmpty) (identifier : String) (file : Path) :
    (ix.unmap identifier file).NoneEmpty := by
  have hu := h.undeclare identifier file
  simpa [NoneEmpty, (sameButWarnings_unmap ix identifier file).declaring] using hu

theorem NoneEmpty.leavePrevious {ix : Index} (h : ix.NoneEmpty) (file : Path)
    (identifier : String) : (ix.leavePrevious file identifier).NoneEmpty := by
  unfold Index.leavePrevious
  split
  · split
    · exact h
    · exact h.unmap _ file
  · exact h

theorem declares_joined {ix : Index} (h : ix.Mapped) (file : Path) (identifier : String)
    (i : String) (f : Path) :
    ((ix.leavePrevious file identifier).map identifier file).declares i f =
      if f.same file then i == identifier else ix.declares i f := by
  have hfile := h.declares_iff i f
  rw [declares_map]
  unfold leavePrevious
  by_cases hs : f.same file = true
  · rw [ix.identifierOf?_same hs] at hfile
    cases hold : ix.identifierOf? file with
    | none =>
      have hno : ix.declares i f = false := by simpa [hold] using hfile
      simp [hs, hno]
    | some old =>
      by_cases hsame : old = identifier
      · subst hsame
        by_cases hi : i = old
        · simp [hs, hi]
        · have hno : ix.declares i f = false := by simpa [hold, Ne.symm hi] using hfile
          simp [hs, hno]
      · -- the class that the file leaves is the only other one that had it
        by_cases hi : i = old
        · simp [hs, hsame, declares_unmap, hi]
        · have hno : ix.declares i f = false := by simpa [hold, Ne.symm hi] using hfile
          simp [hs, hsame, declares_unmap, hno]
  · cases ix.identifierOf? file with
    | none => simp [hs]
    | some old =>
      by_cases hsame : old = identifier
      · simp [hs, hsame]
      · simp [hs, hsame, declares_unmap]

theorem Mapped.accept {ix : Index} (h : ix.Mapped) (file : Path) (stamp : Stamp) (c : Class) :
    (ix.accept file stamp c).Mapped where
  declares_iff := by
    intro i f
    have hold := h.declares_iff i f
    have hnew := declares_joined h file c.identifier i f
    have hid : (ix.accept file stamp c).identifierOf? f =
        if f.same file then some c.identifier else ix.identifierOf? f := by
      by_cases hs : f.same file = true <;>
        simp [identifierOf?, PathMap.get?_insert, hs, FileState.identifier?]
    unfold declares at hnew ⊢
    rw [declaring_accept, hnew, hid]
    split
    · simpa using eq_comm
    · exact hold
  noneEmpty := (h.noneEmpty.leavePrevious file c.identifier).map c.identifier file

theorem Mapped.parse {ix : Index} (h : ix.Mapped) (file : Path) (stamp : Stamp) :
    (ix.parse file stamp).2.Mapped := by
  unfold Index.parse
  split
  · exact h.accept file stamp _
  · exact h.reject file stamp _

theorem Mapped.materialize {ix : Index} (h : ix.Mapped) (file : Path) (state : FileState) :
    (ix.materialize file state).2.Mapped :=
  h.congr (ix.files_materialize file state) (ix.declaring_materialize file state)

theorem Mapped.refresh {ix : Index} (h : ix.Mapped) (file : Path) (text : String)
    (version? : Option Int) : (ix.refresh file text version?).2.Mapped := by
  rcases ix.snd_refresh_cases file text version? with heq | heq | heq
  · rwa [heq]
  · rw [heq]
    exact h.materialize file _
  · rw [heq]
    exact h.parse file _

theorem declares_removeEntry {ix : Index} (h : ix.Mapped) (file : Path) (i : String) (f : Path) :
    (ix.removeEntry file).declares i f = (ix.declares i f && !f.same file) := by
  have hfile := h.declares_iff i f
  have herased : declares { ix with files := ix.files.erase file } i f = ix.declares i f := rfl
  unfold removeEntry
  by_cases hs : f.same file = true
  · rw [ix.identifierOf?_same hs] at hfile
    cases hold : ix.identifierOf? file with
    | none =>
      have hno : ix.declares i f = false := by simpa [hold] using hfile
      simp [herased, hno]
    | some old =>
      by_cases hi : i = old
      · simp [declares_unmap, hs, hi]
      · have hno : ix.declares i f = false := by simpa [hold, Ne.symm hi] using hfile
        simp [declares_unmap, herased, hno]
  · cases ix.identifierOf? file <;> simp [declares_unmap, herased, hs]

theorem Mapped.remove {ix : Index} (h : ix.Mapped) (file : Path) : (ix.remove file).Mapped where
  declares_iff := by
    intro i f
    have hid : (ix.remove file).identifierOf? f =
        if f.same file then none else ix.identifierOf? f := by
      by_cases hs : f.same file = true <;>
        simp [remove_eq, identifierOf?, PathMap.get?_erase, hs]
    have hnew : (ix.remove file).declares i f = (ix.declares i f && !f.same file) := by
      rw [← declares_removeEntry h, remove_eq]
      rfl
    rw [hid, hnew, Bool.and_eq_true, h.declares_iff i f]
    by_cases hs : f.same file = true <;> simp [hs]
  noneEmpty := by
    have he : NoneEmpty { ix with files := ix.files.erase file } := h.noneEmpty
    have hr : (ix.removeEntry file).NoneEmpty := by
      unfold removeEntry
      split
      · exact he.unmap _ file
      · exact he
    simpa [NoneEmpty, remove_eq] using hr

/-! ### What the two maps say of each other -/

theorem mem_identifiers_iff {ix : Index} (h : ix.Mapped) (identifier : String) :
    identifier ∈ ix.identifiers ↔ ∃ f ∈ ix.knownFiles, ix.identifierOf? f = some identifier := by
  unfold identifiers
  rw [OrdMap.mem_keys_iff]
  constructor
  · rintro ⟨files,hf⟩
    have hne := h.noneEmpty identifier files hf
    obtain ⟨p,hp⟩ : ∃ p, files.contains p = true := by
      refine Classical.byContradiction fun hno => ?_
      have hall : ∀ p, files.contains p = false := by simpa using hno
      simp [(PathMap.isEmpty_iff files).mpr hall] at hne
    have hid := (h.declares_iff identifier p).mp (by simp [declares, hf, hp])
    have hknown : ix.files.contains p = true := by
      rw [PathMap.contains_eq_isSome]
      cases he : ix.files.get? p with
      | none => simp [identifierOf?, he] at hid
      | some e => rfl
    obtain ⟨q,hq,hs⟩ := PathMap.exists_mem_files hknown
    exact ⟨q,hq,by rw [ix.identifierOf?_same hs, hid]⟩
  · rintro ⟨f,_,hid⟩
    have hd := (h.declares_iff identifier f).mpr hid
    unfold declares at hd
    cases hg : ix.declaring.get? identifier with
    | none => simp [hg] at hd
    | some files => exact ⟨files,rfl⟩

end SmaliNavigator.Index
