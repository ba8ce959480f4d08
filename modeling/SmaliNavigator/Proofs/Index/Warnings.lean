import SmaliNavigator.Proofs.Index.Declared

/-!
What the steps of an index do to the diagnostics of files.

A file that leaves a class brings the warnings of the others in line. Those are the only diagnostics
that change with a file other than their own, and the files that they are of are marked as touched.
-/

set_option autoImplicit false

namespace SmaliNavigator

theorem PathMap.mem_files_insert {α : Type} {m : PathMap α} {q : Path} (h : q ∈ m.files) (p : Path)
    (a : α) : q ∈ (m.insert p a).files := by
  obtain ⟨⟨q,b⟩,hm,rfl⟩ := List.mem_map.mp h
  obtain ⟨⟨k,e⟩,he,hvalue⟩ := List.mem_map.mp hm
  obtain rfl : e = (q,b) := hvalue
  obtain rfl : k = q.key := (m.keyed _ he).symm
  dsimp only
  have hget : m.table.get? q.key = some (q,b) := (m.table.get?_eq_some_iff _ _).mpr he
  -- an entry that is written over keeps its path
  have hnew : ∃ b', (m.insert p a).table.get? q.key = some (q,b') := by
    unfold PathMap.insert
    rw [OrdMap.get?_insert]
    by_cases hk : q.key = p.key
    · have hspelling : m.spelling p = q := by simp [spelling, ← hk, hget]
      exact ⟨a,by simp [hk, hspelling]⟩
    · exact ⟨b,by simp [hk, hget]⟩
  obtain ⟨b',hb'⟩ := hnew
  have hentry := (OrdMap.get?_eq_some_iff _ _ _).mp hb'
  exact List.mem_map.mpr ⟨(q,b'),List.mem_map.mpr ⟨_,hentry,rfl⟩,rfl⟩

namespace Index

theorem declarers_congr {ix jx : Index} (h : jx.declaring = ix.declaring) (identifier : String) :
    jx.declarers identifier = ix.declarers identifier := by
  simp [declarers, h]

theorem declarers_map_subset (ix : Index) (i : String) (file : Path) (identifier : String) :
    ix.declarers identifier ⊆ (ix.map i file).declarers identifier := by
  intro f hf
  unfold declarers at hf ⊢
  rw [get?_map]
  split
  · next hi =>
    subst hi
    exact PathMap.mem_files_insert hf file ()
  · exact hf

/-! ### The files that a warning lists -/

theorem mem_otherTexts {files : List Path} {file : Path} {text : String} :
    text ∈ otherTexts files file ↔ ∃ f ∈ files, f.same file = false ∧ f.text = text := by
  simp [otherTexts, and_assoc]

theorem otherTexts_same (files : List Path) {f g : Path} (h : f.same g = true) :
    otherTexts files f = otherTexts files g := by
  simp only [otherTexts, Path.same_right h]

theorem otherTexts_mono {files later : List Path} (h : files ⊆ later) (file : Path) :
    otherTexts files file ⊆ otherTexts later file := by
  intro text ht
  obtain ⟨f,hf,hother,htext⟩ := mem_otherTexts.mp ht
  exact mem_otherTexts.mpr ⟨f,h hf,hother,htext⟩

theorem withOthers_of_no_conflict (identifier : String) (others : List String)
    {ds : List Diagnostic} (h : ds.any (·.isConflict) = false) :
    withOthers identifier others ds = ds := by
  have hno : ∀ d ∈ ds, d.isConflict = false := by simpa using h
  unfold withOthers
  split
  · exact List.filter_eq_self.mpr fun d hd => by simp [hno d hd]
  · exact (List.map_congr_left fun d hd => by simp [hno d hd]).trans (List.map_id ds)

theorem withOthers_withOthers (identifier : String) (others : List String) (ds : List Diagnostic) :
    withOthers identifier others (withOthers identifier others ds) =
      withOthers identifier others ds := by
  unfold withOthers
  split
  · simp
  · rw [List.map_map]
    refine List.map_congr_left fun d _ => ?_
    by_cases hd : d.isConflict = true <;> simp [hd]

/-! ### The diagnostics behind a step -/

theorem diagnosticsOf_same (ix : Index) {f g : Path} (h : f.same g = true) :
    ix.diagnosticsOf f = ix.diagnosticsOf g := by
  simp [diagnosticsOf, ix.diagnostics.get?_same h]

@[simp] theorem diagnosticsOf_setDiagnostics (ix : Index) (file : Path) (ds : List Diagnostic)
    (f : Path) :
    (ix.setDiagnostics file ds).diagnosticsOf f =
      if f.same file then ds else ix.diagnosticsOf f := by
  unfold setDiagnostics diagnosticsOf
  by_cases hs : f.same file = true <;> by_cases hd : ds = [] <;>
    simp [hs, hd, PathMap.get?_erase, PathMap.get?_insert]

theorem diagnosticsOf_refreshConflict (identifier : String) (files : List Path) (ix : Index)
    (file f : Path) :
    (refreshConflict identifier files ix file).diagnosticsOf f =
      if f.same file then withOthers identifier (otherTexts files f) (ix.diagnosticsOf f)
      else ix.diagnosticsOf f := by
  unfold refreshConflict
  dsimp only
  by_cases hs : f.same file = true
  · rw [ix.diagnosticsOf_same hs, otherTexts_same files hs, if_pos hs]
    split
    · change (ix.setDiagnostics file _).diagnosticsOf f = _
      simp [hs]
    · next hno =>
      rw [ix.diagnosticsOf_same hs, withOthers_of_no_conflict _ _ (by simpa using hno)]
  · rw [if_neg hs]
    split
    · change (ix.setDiagnostics file _).diagnosticsOf f = _
      simp [hs]
    · rfl

theorem diagnosticsOf_refreshConflicts (ix : Index) (identifier : String) (f : Path) :
    (ix.refreshConflicts identifier).diagnosticsOf f =
      if ix.declares identifier f then
        withOthers identifier (otherTexts (ix.declarers identifier) f) (ix.diagnosticsOf f)
      else ix.diagnosticsOf f := by
  unfold refreshConflicts
  rw [declares_eq_any]
  generalize ix.declarers identifier = all
  -- all files are told of the same others, also those that come behind the first ones
  have h (files : List Path) (ix : Index) :
      (files.foldl (refreshConflict identifier all) ix).diagnosticsOf f =
        if files.any (·.same f) then
          withOthers identifier (otherTexts all f) (ix.diagnosticsOf f)
        else ix.diagnosticsOf f := by
    induction files generalizing ix with
    | nil => rfl
    | cons g gs ih =>
      rw [List.foldl_cons, ih, diagnosticsOf_refreshConflict, List.any_cons, Path.same_comm g f]
      by_cases hg : f.same g = true <;> by_cases hgs : gs.any (·.same f) = true <;>
        simp only [hg, hgs, if_true, Bool.true_or, Bool.or_true, Bool.or_self,
          withOthers_withOthers, Bool.false_eq_true, if_false]
  exact h all ix

theorem diagnosticsOf_unmap (ix : Index) (identifier : String) {file f : Path}
    (hs : f.same file = false) :
    (ix.unmap identifier file).diagnosticsOf f =
      if ix.declares identifier f then
        withOthers identifier (otherTexts ((ix.unmap identifier file).declarers identifier) f)
          (ix.diagnosticsOf f)
      else ix.diagnosticsOf f := by
  have hdeclares := ix.declares_unmap identifier file identifier f
  rw [hs, Bool.and_false, Bool.not_false, Bool.and_true] at hdeclares
  rw [← hdeclares]
  cases hg : ix.declaring.get? identifier with
  | none =>
    have hsame : ix.unmap identifier file = ix := by simp [unmap, hg]
    simp [hsame, declares, hg]
  | some files =>
    by_cases he : (files.erase file).isEmpty = true
    · have hgone : ix.unmap identifier file =
          { ix with declaring := ix.declaring.erase identifier } := by simp [unmap, hg, he]
      rw [hgone]
      simp only [declares, OrdMap.get?_erase, Std.ReflCmp.compare_self, if_true, Option.any_none,
        Bool.false_eq_true, if_false]
      rfl
    · have hleft : ix.unmap identifier file =
          ({ ix with declaring := ix.declaring.insert identifier (files.erase file) }
            : Index).refreshConflicts identifier := by simp [unmap, hg, he]
      rw [hleft]
      have hd := (sameButWarnings_refreshConflicts
        { ix with declaring := ix.declaring.insert identifier (files.erase file) }
        identifier).declaring
      rw [declares_eq_any, declarers_congr hd, ← declares_eq_any, diagnosticsOf_refreshConflicts]
      rfl

theorem leavePrevious_cases (ix : Index) (file : Path) (identifier : String) :
    ix.leavePrevious file identifier = ix ∨
      ∃ old, old ≠ identifier ∧ ix.leavePrevious file identifier = ix.unmap old file := by
  unfold leavePrevious
  cases ix.identifierOf? file with
  | none => exact .inl rfl
  | some old =>
    by_cases hsame : old = identifier
    · exact .inl (by simp [hsame])
    · exact .inr ⟨old,hsame,by simp [hsame]⟩

theorem removeEntry_cases (ix : Index) (file : Path) :
    ix.removeEntry file = { ix with files := ix.files.erase file } ∨
      ∃ old, ix.removeEntry file = ({ ix with files := ix.files.erase file } : Index).unmap old file := by
  unfold removeEntry
  cases ix.identifierOf? file with
  | none => exact .inl rfl
  | some old => exact .inr ⟨old,rfl⟩

theorem diagnosticsOf_accept (ix : Index) (file : Path) (stamp : Stamp) (c : Class) (f : Path) :
    (ix.accept file stamp c).diagnosticsOf f =
      if f.same file then (ix.accept file stamp c).conflicts c file
      else (ix.leavePrevious file c.identifier).diagnosticsOf f :=
  diagnosticsOf_setDiagnostics _ file _ f

theorem diagnosticsOf_reject_eq (ix : Index) (file : Path) (stamp : Stamp) (d : Diagnostic)
    (f : Path) :
    (ix.reject file stamp d).diagnosticsOf f =
      if f.same file then [d] else ix.diagnosticsOf f := by
  unfold reject diagnosticsOf
  dsimp only
  rw [PathMap.get?_insert]
  split <;> rfl

theorem diagnosticsOf_remove (ix : Index) (file f : Path) :
    (ix.remove file).diagnosticsOf f =
      if f.same file then [] else (ix.removeEntry file).diagnosticsOf f := by
  rw [remove_eq]
  unfold diagnosticsOf
  dsimp only
  rw [PathMap.get?_erase]
  split <;> rfl

/-! ### Touched files -/

/-- The diagnostics of files change only if they are the step's own files, or are marked as
touched. -/
structure ChangesMarked (own : Path → Bool) (ix jx : Index) : Prop where
  touched : ∀ f, ix.touched.contains f = true → jx.touched.contains f = true
  diagnostics : ∀ f, own f = false → jx.touched.contains f = false →
    jx.diagnosticsOf f = ix.diagnosticsOf f

namespace ChangesMarked

theorem of_same {own : Path → Bool} {ix jx : Index} (ht : jx.touched = ix.touched)
    (hd : ∀ f, own f = false → jx.diagnosticsOf f = ix.diagnosticsOf f) :
    ChangesMarked own ix jx :=
  ⟨fun f hf => by rwa [ht],fun f hf _ => hd f hf⟩

theorem trans {own : Path → Bool} {ix jx kx : Index} (h : ChangesMarked own ix jx)
    (h' : ChangesMarked own jx kx) : ChangesMarked own ix kx where
  touched f hf := h'.touched f (h.touched f hf)
  diagnostics f hown hf := by
    have hbefore : jx.touched.contains f = false := by
      cases hj : jx.touched.contains f with
      | false => rfl
      | true => simp [h'.touched f hj] at hf
    rw [h'.diagnostics f hown hf, h.diagnostics f hown hbefore]

end ChangesMarked

variable (own : Path → Bool)

theorem changesMarked_refreshConflict (identifier : String) (files : List Path) (ix : Index)
    (file : Path) : ChangesMarked own ix (refreshConflict identifier files ix file) := by
  have htouched : (refreshConflict identifier files ix file).touched =
      if (ix.diagnosticsOf file).any (·.isConflict) then ix.touched.add file else ix.touched := by
    unfold refreshConflict
    dsimp only
    split <;> rfl
  constructor
  · intro f hf
    rw [htouched]
    split
    · simp [PathSet.contains_add, hf]
    · exact hf
  · intro f _ hf
    rw [diagnosticsOf_refreshConflict]
    split
    · next hs =>
      -- a file that is not touched has no warning to bring in line
      rw [htouched] at hf
      split at hf
      · simp [PathSet.contains_add, hs] at hf
      · next hno =>
        rw [ix.diagnosticsOf_same hs, withOthers_of_no_conflict _ _ (by simpa using hno)]
    · rfl

theorem changesMarked_refreshConflicts (ix : Index) (identifier : String) :
    ChangesMarked own ix (ix.refreshConflicts identifier) := by
  unfold refreshConflicts
  generalize ix.declarers identifier = all
  have h (files : List Path) (ix : Index) :
      ChangesMarked own ix (files.foldl (refreshConflict identifier all) ix) := by
    induction files generalizing ix with
    | nil => exact .of_same rfl fun _ _ => rfl
    | cons f fs ih => exact (changesMarked_refreshConflict own identifier all ix f).trans (ih _)
  exact h all ix

theorem changesMarked_unmap (ix : Index) (identifier : String) (file : Path) :
    ChangesMarked own ix (ix.unmap identifier file) := by
  unfold unmap
  cases ix.declaring.get? identifier with
  | none => exact .of_same rfl fun _ _ => rfl
  | some files =>
    dsimp only
    split
    · exact .of_same rfl fun _ _ => rfl
    · have hleft : ChangesMarked own ix
          { ix with declaring := ix.declaring.insert identifier (files.erase file) } :=
        .of_same rfl fun _ _ => rfl
      exact hleft.trans (changesMarked_refreshConflicts own _ identifier)

theorem changesMarked_accept (ix : Index) (file : Path) (stamp : Stamp) (c : Class) :
    ChangesMarked (·.same file) ix (ix.accept file stamp c) := by
  have hleft : ChangesMarked (·.same file) ix (ix.leavePrevious file c.identifier) := by
    rcases ix.leavePrevious_cases file c.identifier with heq | ⟨old,_,heq⟩
    · rw [heq]
      exact .of_same rfl fun _ _ => rfl
    · rw [heq]
      exact changesMarked_unmap _ ix old file
  refine hleft.trans (.of_same rfl fun f hf => ?_)
  rw [diagnosticsOf_accept, if_neg (by simpa using hf)]

theorem changesMarked_reject (ix : Index) (file : Path) (stamp : Stamp) (d : Diagnostic) :
    ChangesMarked (·.same file) ix (ix.reject file stamp d) := by
  refine .of_same rfl fun f hf => ?_
  rw [diagnosticsOf_reject_eq, if_neg (by simpa using hf)]

theorem changesMarked_refresh (ix : Index) (file : Path) (text : String) (version? : Option Int) :
    ChangesMarked (·.same file) ix (ix.refresh file text version?).2 := by
  rcases ix.snd_refresh_cases file text version? with heq | heq | heq
  · rw [heq]
    exact .of_same rfl fun _ _ => rfl
  · rw [heq, materialize_eq]
    exact .of_same rfl fun _ _ => rfl
  · rw [heq]
    unfold parse
    split
    · exact ix.changesMarked_accept file _ _
    · exact ix.changesMarked_reject file _ _

theorem changesMarked_register (ix : Index) (file : Path) :
    ChangesMarked own ix (ix.register file) := by
  unfold register
  split <;> exact .of_same rfl fun _ _ => rfl

theorem changesMarked_remove (ix : Index) (file : Path) :
    ChangesMarked (·.same file) ix (ix.remove file) := by
  have hentry : ChangesMarked (·.same file) ix (ix.removeEntry file) := by
    have hfiles : ChangesMarked (·.same file) ix { ix with files := ix.files.erase file } :=
      .of_same rfl fun _ _ => rfl
    rcases ix.removeEntry_cases file with heq | ⟨old,heq⟩
    · rwa [heq]
    · rw [heq]
      exact hfiles.trans (changesMarked_unmap _ _ old file)
  refine hentry.trans (.of_same (by rw [remove_eq]) fun f hf => ?_)
  rw [diagnosticsOf_remove, if_neg (by simpa using hf)]

end Index

end SmaliNavigator
