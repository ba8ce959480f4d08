import SmaliNavigator.Proofs.Index.History
import SmaliNavigator.Proofs.Index.Warnings
import SmaliNavigator.Proofs.Class.Faults

/-!
What the diagnostics of a file can be. They follow from the state of the file and from the files that
declare its class: `Diagnosed` says how, and every step of an index keeps it.

A file that is read lists all files that declare its class by then, and those that come later list
it. So of the files of one class only the one that was read when there was no other has no warning.
-/

set_option autoImplicit false

namespace SmaliNavigator

theorem Diagnostic.not_isConflict_of_isFatal {d : Diagnostic} (h : d.isFatal = true) :
    d.isConflict = false := by
  unfold isFatal DiagnosticKind.isFatal at h
  unfold isConflict
  simpa using h

namespace Index

/-- No warning, or one that stands at the name of the class and lists other files that declare it
now. -/
def Warned (ix : Index) (file : Path) (identifier text : String) : Prop :=
  ix.diagnosticsOf file = [] ∨ ∃ c others, Class.ofString text = .ok c ∧
    ix.diagnosticsOf file =
      [⟨c.name.span,.declaredTwice (readableIdentifier identifier) others⟩] ∧
    others ≠ [] ∧ others ⊆ otherTexts (ix.declarers identifier) file

/-- The diagnostics of a file go with its state. -/
def Explained (ix : Index) (file : Path) : Prop :=
  match ix.stateOf file with
  | .unparsed => ix.diagnosticsOf file = []
  | .failed _ _ => ∃ d, ix.diagnosticsOf file = [d] ∧ d.isFatal = true
  | .parsed identifier text => ix.Warned file identifier text

/-- The file is the only one of its class. -/
def Alone (ix : Index) (file : Path) : Prop :=
  ∀ identifier, ix.identifierOf? file = some identifier →
    otherTexts (ix.declarers identifier) file = []

structure Diagnosed (ix : Index) : Prop extends Mapped ix where
  explained : ∀ file, ix.Explained file
  single : ∀ f g i t u, ix.stateOf f = .parsed i t → ix.stateOf g = .parsed i u →
    ix.diagnosticsOf f = [] → ix.diagnosticsOf g = [] → f.same g = true

theorem explained_same (ix : Index) {f g : Path} (h : f.same g = true) :
    ix.Explained f ↔ ix.Explained g := by
  simp only [Explained, Warned, ix.stateOf_same h, ix.diagnosticsOf_same h, otherTexts_same _ h]

theorem diagnosed_new (config : Config) : (Index.new config).Diagnosed where
  toMapped := mapped_new config
  explained _ := rfl
  single _ _ _ _ _ hf := by simp [stateOf, new] at hf

/-! ### Files that a step is not about -/

/-- A file keeps its diagnostics while files may join its class, or its warning is brought in line
with the files that are left. -/
def Follows (ix jx : Index) (file : Path) : Prop :=
  (jx.diagnosticsOf file = ix.diagnosticsOf file ∧
    ∀ i, ix.identifierOf? file = some i → ix.declarers i ⊆ jx.declarers i) ∨
  ∃ i, ix.identifierOf? file = some i ∧ jx.diagnosticsOf file =
    withOthers i (otherTexts (jx.declarers i) file) (ix.diagnosticsOf file)

theorem Follows.warned {ix jx : Index} {file : Path} (h : ix.Follows jx file) {i t : String}
    (hid : ix.identifierOf? file = some i) (hw : ix.Warned file i t) : jx.Warned file i t := by
  rcases h with ⟨hsame,hmore⟩ | ⟨i',hid',hafter⟩
  · rcases hw with hnone | ⟨c,others,hc,hwarning,hne,hothers⟩
    · exact .inl (hsame.trans hnone)
    · exact .inr ⟨c,others,hc,hsame.trans hwarning,hne,
        fun x hx => otherTexts_mono (hmore i hid) file (hothers hx)⟩
  · obtain rfl : i = i' := Option.some.inj (hid.symm.trans hid')
    rcases hw with hnone | ⟨c,others,hc,hwarning,_,_⟩
    · exact .inl (by rw [hafter, hnone]; exact withOthers_of_no_conflict _ _ rfl)
    · -- the warning now lists exactly the files that are left
      rw [hwarning] at hafter
      by_cases hleft : otherTexts (jx.declarers i) file = []
      · exact .inl (by rw [hafter, hleft]; rfl)
      · refine .inr ⟨c,otherTexts (jx.declarers i) file,hc,?_,hleft,List.Subset.refl _⟩
        rw [hafter, withOthers, if_neg (by simpa using hleft)]
        rfl

theorem Follows.explained {ix jx : Index} {file : Path} (h : ix.Follows jx file)
    (hstate : jx.stateOf file = ix.stateOf file) (he : ix.Explained file) : jx.Explained file := by
  unfold Explained at he ⊢
  rw [hstate]
  cases hs : ix.stateOf file with
  | unparsed =>
    rw [hs] at he
    rcases h with ⟨hsame,_⟩ | ⟨i,hid,_⟩
    · exact hsame.trans he
    · simp [identifierOf?_eq, hs, FileState.identifier?] at hid
  | failed i t =>
    rw [hs] at he
    obtain ⟨d,hd,hfatal⟩ := he
    refine ⟨d,?_,hfatal⟩
    rcases h with ⟨hsame,_⟩ | ⟨i,_,hafter⟩
    · exact hsame.trans hd
    · rw [hafter, hd]
      exact withOthers_of_no_conflict _ _ (by simp [Diagnostic.not_isConflict_of_isFatal hfatal])
  | parsed i t =>
    rw [hs] at he
    exact h.warned (by simp [identifierOf?_eq, hs, FileState.identifier?]) he

theorem Follows.eq_nil_or_alone {ix jx : Index} {file : Path} (h : ix.Follows jx file)
    (hid : jx.identifierOf? file = ix.identifierOf? file) (hnone : jx.diagnosticsOf file = []) :
    ix.diagnosticsOf file = [] ∨ jx.Alone file := by
  rcases h with ⟨hsame,_⟩ | ⟨i,hi,hafter⟩
  · exact .inl (hsame.symm.trans hnone)
  · rw [hafter, withOthers] at hnone
    split at hnone
    · next hleft =>
      refine .inr fun i' hi' => ?_
      obtain rfl : i = i' := Option.some.inj (hi.symm.trans (hid.symm.trans hi'))
      simpa using hleft
    · exact .inl (List.map_eq_nil_iff.mp hnone)

theorem Mapped.same_of_alone {ix : Index} (h : ix.Mapped) {f g : Path} (ha : ix.Alone f)
    {i : String} (hf : ix.identifierOf? f = some i) (hg : ix.identifierOf? g = some i) :
    f.same g = true := by
  obtain ⟨p,hp,hpg⟩ := h.exists_mem_declarers hg
  cases hfg : f.same g with
  | true => rfl
  | false =>
    have hother : p.same f = false := by rw [Path.same_left hpg f, Path.same_comm, hfg]
    have hlisted := mem_otherTexts.mpr ⟨p,hp,hother,rfl⟩
    rw [ha i hf] at hlisted
    cases hlisted

/-- A step about one file. All others follow, and if that file has no diagnostics it is unread or
alone. -/
theorem Diagnosed.step {ix jx : Index} (h : ix.Diagnosed) (hmapped : jx.Mapped) (file : Path)
    (hothers : ∀ f, f.same file = false → jx.stateOf f = ix.stateOf f ∧ ix.Follows jx f)
    (hown : jx.Explained file) (halone : jx.diagnosticsOf file = [] → jx.Alone file) :
    jx.Diagnosed where
  toMapped := hmapped
  explained f := by
    by_cases hs : f.same file = true
    · exact (jx.explained_same hs).mpr hown
    · obtain ⟨hstate,hfollows⟩ := hothers f (by simpa using hs)
      exact hfollows.explained hstate (h.explained f)
  single f g i t u hf hg hnof hnog := by
    have hidf : jx.identifierOf? f = some i := by simp [identifierOf?_eq, hf, FileState.identifier?]
    have hidg : jx.identifierOf? g = some i := by simp [identifierOf?_eq, hg, FileState.identifier?]
    -- each of the two is alone in its class, or had no warning before
    have hcases : ∀ p, jx.diagnosticsOf p = [] → jx.Alone p ∨
        jx.stateOf p = ix.stateOf p ∧ ix.diagnosticsOf p = [] := by
      intro p hp
      by_cases hs : p.same file = true
      · rw [jx.diagnosticsOf_same hs] at hp
        refine .inl fun i hi => ?_
        rw [jx.identifierOf?_same hs] at hi
        rw [otherTexts_same _ hs]
        exact halone hp i hi
      · obtain ⟨hstate,hfollows⟩ := hothers p (by simpa using hs)
        have hid : jx.identifierOf? p = ix.identifierOf? p := by simp [identifierOf?_eq, hstate]
        rcases hfollows.eq_nil_or_alone hid hp with hbefore | ha
        · exact .inr ⟨hstate,hbefore⟩
        · exact .inl ha
    rcases hcases f hnof with ha | ⟨hstatef,hbeforef⟩
    · exact hmapped.same_of_alone ha hidf hidg
    · rcases hcases g hnog with ha | ⟨hstateg,hbeforeg⟩
      · rw [Path.same_comm]
        exact hmapped.same_of_alone ha hidg hidf
      · exact h.single f g i t u (hstatef ▸ hf) (hstateg ▸ hg) hbeforef hbeforeg

/-! ### The steps -/

theorem Follows.of_same {ix jx : Index} {file : Path} (hd : jx.diagnosticsOf file = ix.diagnosticsOf file)
    (hdeclaring : jx.declaring = ix.declaring) : ix.Follows jx file :=
  .inl ⟨hd,fun i _ => by rw [declarers_congr hdeclaring]; exact List.Subset.refl _⟩

theorem stateOf_insert {ix jx : Index} {file : Path} {e : FileEntry}
    (h : jx.files = ix.files.insert file e) (f : Path) :
    jx.stateOf f = if f.same file then e.state else ix.stateOf f := by
  unfold stateOf
  rw [h, PathMap.get?_insert]
  split <;> rfl

theorem declarers_unmap_of_ne (ix : Index) {old i : String} (h : i ≠ old) (file : Path) :
    (ix.unmap old file).declarers i = ix.declarers i := by
  have hget := ix.get?_undeclare old file i
  rw [if_neg h, ← (sameButWarnings_unmap ix old file).declaring] at hget
  simp [declarers, hget]

theorem declarers_map_of_ne (ix : Index) {identifier i : String} (h : i ≠ identifier) (file : Path) :
    (ix.map identifier file).declarers i = ix.declarers i := by
  simp [declarers, get?_map, h]

theorem Mapped.follows_of_left {ix jx : Index} (h : ix.Mapped) (old : String) {f : Path}
    (hd : jx.diagnosticsOf f =
      if ix.declares old f then
        withOthers old (otherTexts (jx.declarers old) f) (ix.diagnosticsOf f)
      else ix.diagnosticsOf f)
    (hmore : ∀ i, i ≠ old → ix.declarers i ⊆ jx.declarers i) : ix.Follows jx f := by
  cases hdeclares : ix.declares old f with
  | true => exact .inr ⟨old,(h.declares_iff old f).mp hdeclares,by simpa [hdeclares] using hd⟩
  | false =>
    refine .inl ⟨by simpa [hdeclares] using hd,fun i hi => hmore i ?_⟩
    rintro rfl
    simp [(h.declares_iff i f).mpr hi] at hdeclares

theorem Mapped.follows_accept {ix : Index} (h : ix.Mapped) {file f : Path}
    (hs : f.same file = false) (stamp : Stamp) (c : Class) :
    ix.Follows (ix.accept file stamp c) f := by
  have hd := ix.diagnosticsOf_accept file stamp c f
  have hdeclaring := ix.declaring_accept file stamp c
  rw [hs] at hd
  rcases ix.leavePrevious_cases file c.identifier with heq | ⟨old,hne,heq⟩
  · rw [heq] at hd hdeclaring
    refine .inl ⟨hd,fun i _ => ?_⟩
    rw [declarers_congr hdeclaring]
    exact ix.declarers_map_subset c.identifier file i
  · rw [heq] at hd hdeclaring
    refine h.follows_of_left old ?_ fun i hi => ?_
    · rw [declarers_congr hdeclaring, declarers_map_of_ne _ hne]
      exact hd.trans (ix.diagnosticsOf_unmap old hs)
    · rw [declarers_congr hdeclaring, ← declarers_unmap_of_ne ix hi file]
      exact declarers_map_subset _ c.identifier file i

theorem Mapped.follows_remove {ix : Index} (h : ix.Mapped) {file f : Path}
    (hs : f.same file = false) : ix.Follows (ix.remove file) f := by
  have hd := ix.diagnosticsOf_remove file f
  have hdeclaring : (ix.remove file).declaring = (ix.removeEntry file).declaring := by rw [remove_eq]
  rw [hs] at hd
  rcases ix.removeEntry_cases file with heq | ⟨old,heq⟩
  · rw [heq] at hd hdeclaring
    exact .of_same hd hdeclaring
  · rw [heq] at hd hdeclaring
    refine h.follows_of_left old ?_ fun i hi => ?_
    · rw [declarers_congr hdeclaring]
      exact hd.trans (diagnosticsOf_unmap _ old hs)
    · rw [declarers_congr hdeclaring, declarers_unmap_of_ne _ hi]
      exact List.Subset.refl _

/-! ### The steps -/

theorem conflicts_eq (ix : Index) (c : Class) (file : Path) :
    ix.conflicts c file =
      if otherTexts (ix.declarers c.identifier) file = [] then []
      else [⟨c.name.span,.declaredTwice (readableIdentifier c.identifier)
        (otherTexts (ix.declarers c.identifier) file)⟩] := by
  unfold conflicts
  split
  · next hnone => rw [if_pos hnone]
  · next hsome => rw [if_neg hsome]

theorem Diagnosed.accept {ix : Index} (h : ix.Diagnosed) (file : Path) {stamp : Stamp} {c : Class}
    (hc : Class.ofString stamp.text = .ok c) : (ix.accept file stamp c).Diagnosed := by
  have hstate := stateOf_insert (ix.files_accept file stamp c)
  have hown := ix.diagnosticsOf_accept file stamp c file
  rw [Path.same_refl, if_pos rfl, conflicts_eq] at hown
  refine h.step (h.toMapped.accept file stamp c) file (fun f hs => ?_) ?_ fun hnone i hi => ?_
  · exact ⟨by rw [hstate, hs]; rfl,h.toMapped.follows_accept hs stamp c⟩
  · unfold Explained
    rw [hstate, Path.same_refl, if_pos rfl]
    by_cases halone : otherTexts ((ix.accept file stamp c).declarers c.identifier) file = []
    · exact .inl (by rw [hown, if_pos halone])
    · exact .inr ⟨c,_,hc,by rw [hown, if_neg halone],halone,List.Subset.refl _⟩
  · obtain rfl : c.identifier = i := by
      simpa [identifierOf?_eq, hstate, FileState.identifier?] using hi
    by_cases halone : otherTexts ((ix.accept file stamp c).declarers c.identifier) file = []
    · exact halone
    · rw [hown, if_neg halone] at hnone
      cases hnone

theorem Diagnosed.reject {ix : Index} (h : ix.Diagnosed) (file : Path) (stamp : Stamp)
    {d : Diagnostic} (hd : d.isFatal = true) : (ix.reject file stamp d).Diagnosed := by
  have hstate := stateOf_insert (ix.files_reject file stamp d)
  have hown := ix.diagnosticsOf_reject file stamp d
  refine h.step (h.toMapped.reject file stamp d) file (fun f hs => ?_) ?_ fun hnone => ?_
  · refine ⟨by rw [hstate, hs]; rfl,.of_same ?_ rfl⟩
    rw [diagnosticsOf_reject_eq, hs]
    rfl
  · unfold Explained
    rw [hstate, Path.same_refl, if_pos rfl]
    exact ⟨d,hown,hd⟩
  · rw [hown] at hnone
    cases hnone

theorem Diagnosed.remove {ix : Index} (h : ix.Diagnosed) (file : Path) :
    (ix.remove file).Diagnosed := by
  have hstate (f : Path) :
      (ix.remove file).stateOf f = if f.same file then .unparsed else ix.stateOf f := by
    unfold stateOf
    rw [remove_eq]
    simp only [files_removeEntry, PathMap.get?_erase]
    split <;> rfl
  have hown := ix.diagnosticsOf_remove file file
  refine h.step (h.toMapped.remove file) file (fun f hs => ?_) ?_ fun _ i hi => ?_
  · exact ⟨by rw [hstate, hs]; rfl,h.toMapped.follows_remove hs⟩
  · unfold Explained
    rw [hstate, Path.same_refl, if_pos rfl]
    simpa using hown
  · simp [identifierOf?_eq, hstate, FileState.identifier?] at hi

theorem Diagnosed.congr {ix jx : Index} (h : ix.Diagnosed) (hf : jx.files = ix.files)
    (hd : jx.declaring = ix.declaring) (hw : jx.diagnostics = ix.diagnostics) : jx.Diagnosed where
  toMapped := h.toMapped.congr hf hd
  explained file := by
    simpa [Explained, Warned, stateOf, diagnosticsOf, declarers, hf, hd, hw] using h.explained file
  single := by simpa [stateOf, diagnosticsOf, hf, hw] using h.single

theorem Diagnosed.register {ix : Index} (h : ix.Diagnosed) (file : Path) :
    (ix.register file).Diagnosed := by
  have hmapped := h.toMapped.register file
  unfold Index.register at hmapped ⊢
  split
  · exact h
  · next hnew =>
    rw [if_neg hnew] at hmapped
    have hbefore : ix.stateOf file = .unparsed := by
      simp [stateOf, PathMap.get?_of_not_contains hnew]
    have hstate : ∀ f, ({ ix with files := ix.files.insert file ⟨.unparsed,none⟩ } : Index).stateOf f =
        if f.same file then .unparsed else ix.stateOf f :=
      stateOf_insert (e := ⟨.unparsed,none⟩) rfl
    refine h.step hmapped file (fun f hs => ?_) ?_ fun _ i hi => ?_
    · exact ⟨by rw [hstate, hs]; rfl,.of_same rfl rfl⟩
    · have he := h.explained file
      unfold Explained at he ⊢
      rw [hbefore] at he
      rw [hstate, Path.same_refl, if_pos rfl]
      exact he
    · simp [identifierOf?_eq, hstate, FileState.identifier?] at hi

theorem Diagnosed.parse {ix : Index} (h : ix.Diagnosed) (file : Path) (stamp : Stamp) :
    (ix.parse file stamp).2.Diagnosed := by
  unfold Index.parse
  split
  · next hc => exact h.accept file hc
  · next hd => exact h.reject file stamp (Class.fatal_ofString stamp.text _ hd)

theorem Diagnosed.materialize {ix : Index} (h : ix.Diagnosed) (file : Path) (state : FileState) :
    (ix.materialize file state).2.Diagnosed :=
  h.congr (ix.files_materialize file state) (ix.declaring_materialize file state)
    (ix.diagnostics_materialize file state)

theorem invariant_diagnosed : Invariant Diagnosed where
  new := diagnosed_new
  markReady h := h.congr rfl rfl rfl
  takeTouched h := h.congr rfl rfl rfl
  register file h := h.register file
  refresh {ix} file text version? h := by
    rcases ix.snd_refresh_cases file text version? with heq | heq | heq
    · rwa [heq]
    · rw [heq]
      exact h.materialize file _
    · rw [heq]
      exact h.parse file _
  remove file h := h.remove file
  consult _ h := h.congr rfl rfl rfl
  materialize file h := h.materialize file _

/-! ### Reachable indexes -/

theorem Reachable.perform {ix : Index} (h : Reachable ix) (steps : List (Surroundings × Operation)) :
    Reachable (Operation.perform ix steps).2 := by
  induction steps generalizing ix with
  | nil => exact h
  | cons x steps ih => exact ih (h.step x.1 x.2)

theorem Explained.cases {ix : Index} {file : Path} (h : ix.Explained file) :
    match ix.stateOf file with
    | .unparsed => ix.diagnosticsOf file = []
    | .failed _ _ => ∃ d, ix.diagnosticsOf file = [d] ∧ d.isFatal = true
    | .parsed _ _ => ix.diagnosticsOf file = [] ∨
        ∃ d, ix.diagnosticsOf file = [d] ∧ d.isConflict = true ∧ d.severity = .warning := by
  unfold Explained at h
  cases hs : ix.stateOf file with
  | unparsed => rwa [hs] at h
  | failed i t => rwa [hs] at h
  | parsed i t =>
    rw [hs] at h
    exact h.imp_right fun ⟨_,_,_,hwarning,_,_⟩ => ⟨_,hwarning,rfl,rfl⟩

theorem Explained.exists_of_isConflict {ix : Index} {file : Path} (h : ix.Explained file) {d : Diagnostic}
    (hd : d ∈ ix.diagnosticsOf file) (hconflict : d.isConflict = true) :
    ∃ identifier text c others, ix.stateOf file = .parsed identifier text ∧
      Class.ofString text = .ok c ∧
      d = ⟨c.name.span,.declaredTwice (readableIdentifier identifier) others⟩ ∧ others ≠ [] ∧
      others ⊆ otherTexts (ix.declarers identifier) file := by
  unfold Explained at h
  cases hs : ix.stateOf file with
  | unparsed =>
    rw [hs] at h
    dsimp only at h
    rw [h] at hd
    cases hd
  | failed i t =>
    rw [hs] at h
    obtain ⟨d',hd',hfatal⟩ := h
    obtain rfl : d = d' := by simpa [hd'] using hd
    simp [Diagnostic.not_isConflict_of_isFatal hfatal] at hconflict
  | parsed i t =>
    rw [hs] at h
    rcases h with hnone | ⟨c,others,hc,hwarning,hne,hothers⟩
    · rw [hnone] at hd
      cases hd
    · exact ⟨i,t,c,others,rfl,hc,by simpa [hwarning] using hd,hne,hothers⟩

theorem exists_entry_of_parsed {ix : Index} {file : Path} {i t : String}
    (h : ix.stateOf file = .parsed i t) : ∃ stamp?, ix.files.get? file = some ⟨.parsed i t,stamp?⟩ := by
  unfold stateOf at h
  cases he : ix.files.get? file with
  | none => simp [he] at h
  | some e => exact ⟨e.stamp?,by rw [he] at h; cases e; cases h; rfl⟩

/-- What is wrong with a file: nothing if it is not known or was not read, one fatal diagnostic if its
last text could not be read, and else nothing or a warning. A warning stands at the name of the class
and lists other files, one or more of those that declare the class now. Of the files of a class that
were read at most one has no warning. -/
theorem diagnosticsOf_of_reachable {ix : Index} (h : Reachable ix) :
    (∀ file, ix.files.get? file = none → ix.diagnosticsOf file = []) ∧
    (∀ file e, ix.files.get? file = some e →
      match e.state with
      | .unparsed => ix.diagnosticsOf file = []
      | .failed _ _ => ∃ d, ix.diagnosticsOf file = [d] ∧ d.isFatal = true
      | .parsed _ _ => ix.diagnosticsOf file = [] ∨
          ∃ d, ix.diagnosticsOf file = [d] ∧ d.isConflict = true ∧ d.severity = .warning) ∧
    (∀ file d, d ∈ ix.diagnosticsOf file → d.isConflict = true →
      ∃ identifier text stamp? c others,
        ix.files.get? file = some ⟨.parsed identifier text,stamp?⟩ ∧
        Class.ofString text = .ok c ∧ d.span = c.name.span ∧
        d.fault = .declaredTwice (readableIdentifier identifier) others ∧ others ≠ [] ∧
        ∀ other ∈ others, ∃ g ∈ ix.declarers identifier, g.same file = false ∧ g.text = other) ∧
    (∀ f g identifier t u stamp? stamp'?,
      ix.files.get? f = some ⟨.parsed identifier t,stamp?⟩ →
      ix.files.get? g = some ⟨.parsed identifier u,stamp'?⟩ →
      ix.diagnosticsOf f = [] → ix.diagnosticsOf g = [] → f.same g = true) := by
  have hdiagnosed := invariant_diagnosed.of_reachable h
  have hknown {file : Path} {e : FileEntry} (he : ix.files.get? file = some e) :
      ix.stateOf file = e.state := by simp [stateOf, he]
  refine ⟨fun file hnew => ?_,fun file e he => ?_,fun file d hd hconflict => ?_,?_⟩
  · have hcases := (hdiagnosed.explained file).cases
    rwa [show ix.stateOf file = .unparsed by simp [stateOf, hnew]] at hcases
  · have hcases := (hdiagnosed.explained file).cases
    rwa [hknown he] at hcases
  · obtain ⟨i,t,c,others,hs,hc,rfl,hne,hothers⟩ :=
      (hdiagnosed.explained file).exists_of_isConflict hd hconflict
    obtain ⟨stamp?,he⟩ := exists_entry_of_parsed hs
    exact ⟨i,t,stamp?,c,others,he,hc,rfl,rfl,hne,fun other ho => mem_otherTexts.mp (hothers ho)⟩
  · intro f g i t u _ _ hf hg
    exact hdiagnosed.single f g i t u (hknown hf) (hknown hg)

/-- Of three files of a class the first one cannot be read any more and the second one is removed. The
warning of the last one then lists the first one, which still declares the class. -/
theorem diagnosticsOf_of_reachable_removed :
    let s : Surroundings := ⟨MemoryProject.empty.source,.never⟩
    let a := Path.ofString "A.smali"
    let b := Path.ofString "B.smali"
    let c := Path.ofString "C.smali"
    let read (f : Path) := (s,Operation.refresh f ".class La;\n.super Lb;\n" none)
    let ix := (Operation.perform (.new .default)
      [read a,read b,read c,(s,.refresh a ".class La;\n" none),(s,.remove b)]).2
    Reachable ix ∧
      ix.diagnosticsOf c = [⟨.within 0 7 10,.declaredTwice "a" ["A.smali"]⟩] ∧
      ∃ g ∈ ix.declarers "La;", g.same c = false ∧ g.text = "A.smali" := by
  intro s a b c read ix
  have h : Reachable ix := (Reachable.new .default).perform _
  have hwarning : ix.diagnosticsOf c = [⟨.within 0 7 10,.declaredTwice "a" ["A.smali"]⟩] := by
    decide +kernel
  have hc : ix.files.get? c = some ⟨.parsed "La;" ".class La;\n.super Lb;\n",
      some ⟨none,".class La;\n.super Lb;\n"⟩⟩ := by
    decide +kernel
  refine ⟨h,hwarning,?_⟩
  obtain ⟨i,t,stamp?,_,others,hget,_,_,hfault,_,hothers⟩ :=
    (diagnosticsOf_of_reachable h).2.2.1 c _ (by rw [hwarning]; exact List.mem_singleton.mpr rfl) rfl
  obtain rfl : "La;" = i := by
    have hstate := congrArg (·.map (·.state.identifier?)) (hc.symm.trans hget)
    simpa [FileState.identifier?] using hstate
  obtain rfl : ["A.smali"] = others := by injection hfault
  exact hothers "A.smali" (by simp)

end Index

end SmaliNavigator
