import SmaliNavigator.Proofs.Index.Currency
import SmaliNavigator.Proofs.Index.Diagnosed

/-!
What an index has of one file is made by the calls about that file alone. The part of a file is its
entry, the classes that it is listed under and its diagnostics but for warnings about other files;
`FilePart.call` says what a call makes of it, without the rest of the index. So the calls about
different files may come in any order.
-/

set_option autoImplicit false

namespace SmaliNavigator

namespace PathMap

variable {α : Type}

/-- The entry of a file, with the path that the map has for it. -/
def at? (m : PathMap α) (p : Path) : Option (Path × α) := m.table.get? p.key

theorem get?_eq_at? (m : PathMap α) (p : Path) : m.get? p = (m.at? p).map (·.2) := rfl

theorem spelling_eq_at? (m : PathMap α) (p : Path) :
    m.spelling p = ((m.at? p).map (·.1)).getD p := rfl

theorem at?_same (m : PathMap α) {p q : Path} (h : p.same q = true) : m.at? p = m.at? q := by
  unfold at?
  rw [(Path.same_iff p q).mp h]

theorem isSome_at? (m : PathMap α) (p : Path) : (m.at? p).isSome = m.contains p := by
  rw [contains_eq_isSome, get?_eq_at?, Option.isSome_map]

theorem at?_insert (m : PathMap α) (p : Path) (a : α) (q : Path) :
    (m.insert p a).at? q = if q.same p then some (m.spelling p,a) else m.at? q := by
  unfold at? insert
  rw [OrdMap.get?_insert]
  by_cases h : q.key = p.key <;> simp [Path.same, h]

theorem at?_erase (m : PathMap α) (p q : Path) :
    (m.erase p).at? q = if q.same p then none else m.at? q := by
  unfold at? erase
  rw [OrdMap.get?_erase]
  by_cases h : q.key = p.key <;> simp [Path.same, h]

theorem ext_at? {m n : PathMap α} (h : ∀ p, m.at? p = n.at? p) : m = n := by
  have hkeys {l : PathMap α} {k : PathKey} {e : Path × α} (hget : l.table.get? k = some e) :
      e.1.key = k := l.keyed _ ((l.table.get?_eq_some_iff _ _).mp hget)
  refine ext_table (OrdMap.ext_get? fun k => ?_)
  cases hm : m.table.get? k with
  | some e =>
    obtain rfl := hkeys hm
    exact hm.symm.trans (h e.1)
  | none =>
    cases hn : n.table.get? k with
    | none => rfl
    | some e =>
      obtain rfl := hkeys hn
      exact hm.symm.trans ((h e.1).trans hn)

end PathMap

/-- What can be done about one file. -/
inductive FileCall
  | register (file : Path)
  | refresh (file : Path) (text : String) (version? : Option Int)
  | remove (file : Path)

namespace FileCall

def file : FileCall → Path
  | register f => f
  | refresh f _ _ => f
  | remove f => f

/-- The calls about a file, in their order. -/
def about (g : Path) (calls : List FileCall) : List FileCall :=
  calls.filter (·.file.same g)

theorem about_swap {x y : FileCall} (h : x.file.same y.file = false) (g : Path)
    (calls : List FileCall) : about g (x :: y :: calls) = about g (y :: x :: calls) := by
  unfold about
  by_cases hx : x.file.same g = true
  · have hy : y.file.same g = false := by rw [← Path.same_right hx, Path.same_comm, h]
    simp [hx, hy]
  · simp [List.filter_cons, hx]

end FileCall

/-- What an index has of one file. -/
structure FilePart where
  /-- The entry, with the path that the index has for the file. -/
  known? : Option (Path × FileEntry)
  /-- The path that the file is listed with under a class. -/
  listed : String → Option Path
  /-- The diagnostics but for warnings about other files. -/
  faults : List Diagnostic

namespace FilePart

def entry (p : FilePart) : FileEntry := (p.known?.map (·.2)).getD .unread

/-- The path that the file has, which is the given one for a file that is not known. -/
def spelling (p : FilePart) (file : Path) : Path := (p.known?.map (·.1)).getD file

/-- A text is read as the new content of the file. -/
def parse (p : FilePart) (file : Path) (s : Stamp) : FilePart where
  known? := some (p.spelling file,⟨p.entry.state.after s.text,some s⟩)
  listed i :=
    match Class.ofString s.text with
    | .ok c => if i = c.identifier then some ((p.listed i).getD file) else none
    | .error _ => p.listed i
  faults :=
    match Class.ofString s.text with
    | .ok _ => []
    | .error d => [d]

/-- A text that is older than the last one or the same is not read. -/
def refresh (p : FilePart) (file : Path) (s : Stamp) : FilePart :=
  if p.entry.stamp?.any fun r => s.isOlderThan r || r.text == s.text then p else p.parse file s

def call (p : FilePart) : FileCall → FilePart
  | .register f => { p with known? := some (p.known?.getD (f,.unread)) }
  | .refresh f text version? => p.refresh f ⟨version?,text⟩
  | .remove _ => ⟨none,fun _ => none,[]⟩

end FilePart

namespace Index

def call (ix : Index) : FileCall → Index
  | .register f => ix.register f
  | .refresh f text version? => (ix.refresh f text version?).2
  | .remove f => ix.remove f

def callAll (ix : Index) (calls : List FileCall) : Index := calls.foldl call ix

theorem Reachable.call {ix : Index} (h : Reachable ix) (x : FileCall) : Reachable (ix.call x) := by
  let s : Surroundings := ⟨MemoryProject.empty.source,.never⟩
  cases x with
  | register f => exact h.step s (.register f)
  | refresh f text version? => exact h.step s (.refresh f text version?)
  | remove f => exact h.step s (.remove f)

theorem Reachable.callAll {ix : Index} (h : Reachable ix) (calls : List FileCall) :
    Reachable (ix.callAll calls) := by
  induction calls generalizing ix with
  | nil => exact h
  | cons x xs ih => exact ih (h.call x)

/-! ### The part of a file -/

/-- The path that a file is listed with under a class. -/
def listed (ix : Index) (identifier : String) (file : Path) : Option Path :=
  (ix.declaring.get? identifier).bind fun files => (files.at? file).map (·.1)

/-- The diagnostics of a file but for warnings about other files. -/
def faultsOf (ix : Index) (file : Path) : List Diagnostic :=
  (ix.diagnosticsOf file).filter (!·.isConflict)

def partOf (ix : Index) (file : Path) : FilePart where
  known? := ix.files.at? file
  listed i := ix.listed i file
  faults := ix.faultsOf file

@[simp] theorem entry_partOf (ix : Index) (file : Path) :
    (ix.partOf file).entry = ix.entryOf file := rfl

theorem partOf_same (ix : Index) {f g : Path} (h : f.same g = true) :
    ix.partOf f = ix.partOf g := by
  have hat (files : PathSet) : files.at? f = files.at? g := files.at?_same h
  simp only [partOf, listed, faultsOf, ix.files.at?_same h, ix.diagnosticsOf_same h, hat]

theorem partOf_congr {ix jx : Index} (hf : jx.files = ix.files)
    (hd : jx.declaring = ix.declaring) (hw : jx.diagnostics = ix.diagnostics) (file : Path) :
    jx.partOf file = ix.partOf file := by
  simp [partOf, listed, faultsOf, diagnosticsOf, hf, hd, hw]

theorem listed_congr {ix jx : Index} (h : jx.declaring = ix.declaring) (i : String) (file : Path) :
    jx.listed i file = ix.listed i file := by
  simp [listed, h]

theorem isSome_listed (ix : Index) (i : String) (file : Path) :
    (ix.listed i file).isSome = ix.declares i file := by
  unfold listed declares
  cases ix.declaring.get? i with
  | none => rfl
  | some files =>
    rw [Option.bind_some, Option.isSome_map]
    exact files.isSome_at? file

theorem Mapped.listed_eq_none {ix : Index} (h : ix.Mapped) {i : String} {file : Path}
    (hid : ix.identifierOf? file ≠ some i) : ix.listed i file = none := by
  have hdeclares : ¬ ix.declares i file = true := fun hd => hid ((h.declares_iff i file).mp hd)
  rw [← isSome_listed] at hdeclares
  simpa using hdeclares

/-- Maps from classes to files are the same where all files are listed alike and no class is without
a file. -/
theorem declaring_ext {ix jx : Index} (hi : ix.NoneEmpty) (hj : jx.NoneEmpty)
    (h : ∀ i file, ix.listed i file = jx.listed i file) : ix.declaring = jx.declaring := by
  have hnonempty {files : PathSet} (hne : files.isEmpty = false) :
      ∃ file, (files.at? file).isSome = true := by
    refine Classical.byContradiction fun hno => ?_
    have hnone : ∀ file, PathMap.contains files file = false := by
      intro file
      rw [← PathMap.isSome_at?]
      simpa using fun h => hno ⟨file,h⟩
    simp [(PathMap.isEmpty_iff files).mpr hnone] at hne
  refine OrdMap.ext_get? fun i => ?_
  have hlisted := h i
  unfold listed at hlisted
  cases hx : ix.declaring.get? i with
  | none =>
    cases hy : jx.declaring.get? i with
    | none => rfl
    | some files =>
      obtain ⟨file,hfile⟩ := hnonempty (hj i files hy)
      have hfile' := hlisted file
      rw [hx, hy, Option.bind_none, Option.bind_some] at hfile'
      rw [Option.map_eq_none_iff.mp hfile'.symm] at hfile
      cases hfile
  | some files =>
    cases hy : jx.declaring.get? i with
    | none =>
      obtain ⟨file,hfile⟩ := hnonempty (hi i files hx)
      have hfile' := hlisted file
      rw [hx, hy, Option.bind_none, Option.bind_some] at hfile'
      rw [Option.map_eq_none_iff.mp hfile'] at hfile
      cases hfile
    | some files' =>
      rw [hx, hy] at hlisted
      refine congrArg some (PathMap.ext_at? fun file => ?_)
      have hpath : (files.at? file).map (·.1) = (files'.at? file).map (·.1) := hlisted file
      cases ha : files.at? file with
      | none => rw [ha] at hpath; exact (Option.map_eq_none_iff.mp hpath.symm).symm
      | some e =>
        rw [ha, Option.map_some, eq_comm, Option.map_eq_some_iff] at hpath
        obtain ⟨e',he',hpath⟩ := hpath
        rw [he', show e' = e from Prod.ext hpath rfl]

/-! ### The steps, for each file -/

theorem listed_undeclare (ix : Index) (identifier : String) (file : Path) (i : String) (f : Path) :
    (ix.undeclare identifier file).listed i f =
      if i = identifier ∧ f.same file = true then none else ix.listed i f := by
  unfold listed
  rw [get?_undeclare]
  by_cases hi : i = identifier
  · subst hi
    cases hg : ix.declaring.get? i with
    | none => simp
    | some files =>
      have herase := files.at?_erase file f
      by_cases he : (files.erase file).isEmpty = true
      · have hgone := (PathMap.isEmpty_iff _).mp he f
        rw [← PathMap.isSome_at?] at hgone
        have hnone : (files.erase file).at? f = none := by simpa using hgone
        rw [hnone] at herase
        by_cases hs : f.same file = true
        · simp [he, hs, Option.filter]
        · rw [if_neg hs] at herase
          simp [he, hs, Option.filter, ← herase]
      · by_cases hs : f.same file = true <;> simp [he, hs, Option.filter, herase]
  · simp [hi]

theorem listed_map (ix : Index) (identifier : String) (file : Path) (i : String) (f : Path) :
    (ix.map identifier file).listed i f =
      if i = identifier ∧ f.same file = true then some ((ix.listed i f).getD file)
      else ix.listed i f := by
  unfold listed
  rw [get?_map]
  by_cases hi : i = identifier
  · subst hi
    have hadd (files : PathSet) : (files.add file).at? f =
        if f.same file then some (files.spelling file,()) else files.at? f :=
      files.at?_insert file () f
    cases hg : ix.declaring.get? i with
    | none =>
      have hnone (p : Path) : (∅ : PathSet).at? p = none := rfl
      by_cases hs : f.same file = true <;> simp [hadd, hs, PathMap.spelling_eq_at?, hnone]
    | some files =>
      by_cases hs : f.same file = true
      · simp [hadd, hs, PathMap.spelling_eq_at?, files.at?_same hs]
      · simp [hadd, hs]
  · simp [hi]

theorem listed_unmap (ix : Index) (identifier : String) (file : Path) (i : String) (f : Path) :
    (ix.unmap identifier file).listed i f =
      if i = identifier ∧ f.same file = true then none else ix.listed i f := by
  rw [← listed_undeclare]
  exact listed_congr (sameButWarnings_unmap ix identifier file).declaring i f

theorem Mapped.listed_leavePrevious {ix : Index} (h : ix.Mapped) (file : Path)
    (identifier : String) (i : String) (f : Path) :
    (ix.leavePrevious file identifier).listed i f =
      if i ≠ identifier ∧ f.same file = true then none else ix.listed i f := by
  have hnone : f.same file = true → ix.identifierOf? file ≠ some i → ix.listed i f = none := by
    intro hs hid
    exact h.listed_eq_none (by rwa [ix.identifierOf?_same hs])
  unfold leavePrevious
  by_cases hs : f.same file = true
  · cases hold : ix.identifierOf? file with
    | none => simp [hnone hs (by simp [hold])]
    | some old =>
      by_cases hi : i = old
      · subst hi
        by_cases hsame : i = identifier <;> simp [hsame, listed_unmap, hs]
      · have hno := hnone hs (by simpa [hold] using Ne.symm hi)
        by_cases hsame : old = identifier <;> simp [hsame, listed_unmap, hno]
  · cases ix.identifierOf? file with
    | none => simp [hs]
    | some old => by_cases hsame : old = identifier <;> simp [hsame, listed_unmap, hs]

theorem Mapped.listed_accept {ix : Index} (h : ix.Mapped) (file : Path) (stamp : Stamp) (c : Class)
    (i : String) (f : Path) :
    (ix.accept file stamp c).listed i f =
      if f.same file then if i = c.identifier then some ((ix.listed i f).getD file) else none
      else ix.listed i f := by
  rw [listed_congr (ix.declaring_accept file stamp c), listed_map, h.listed_leavePrevious]
  by_cases hs : f.same file = true <;> by_cases hi : i = c.identifier <;> simp [hs, hi]

theorem Mapped.listed_remove {ix : Index} (h : ix.Mapped) (file : Path) (i : String) (f : Path) :
    (ix.remove file).listed i f = if f.same file then none else ix.listed i f := by
  have hentry : (ix.remove file).listed i f = (ix.removeEntry file).listed i f := by
    rw [remove_eq]
    rfl
  have herased : listed { ix with files := ix.files.erase file } i f = ix.listed i f := rfl
  rw [hentry]
  unfold removeEntry
  by_cases hs : f.same file = true
  · have hnone : ix.identifierOf? file ≠ some i → ix.listed i f = none := by
      intro hid
      exact h.listed_eq_none (by rwa [ix.identifierOf?_same hs])
    cases hold : ix.identifierOf? file with
    | none => simp [herased, hs, hnone (by simp [hold])]
    | some old =>
      by_cases hi : i = old
      · simp [listed_unmap, hs, hi]
      · simp [listed_unmap, herased, hs, hnone (by simpa [hold] using Ne.symm hi)]
  · cases ix.identifierOf? file <;> simp [listed_unmap, herased, hs]

theorem filter_withOthers (identifier : String) (others : List String) (ds : List Diagnostic) :
    (withOthers identifier others ds).filter (!·.isConflict) = ds.filter (!·.isConflict) := by
  unfold withOthers
  split
  · rw [List.filter_filter]
    simp
  · induction ds with
    | nil => rfl
    | cons d ds ih =>
      rw [List.map_cons, List.filter_cons, List.filter_cons, ih]
      cases hd : d.isConflict with
      | false => simp [hd]
      | true =>
        have hconflict : (⟨d.span,.declaredTwice (readableIdentifier identifier) others⟩
            : Diagnostic).isConflict = true := rfl
        simp [hconflict]

theorem faultsOf_unmap (ix : Index) (identifier : String) {file f : Path}
    (hs : f.same file = false) : (ix.unmap identifier file).faultsOf f = ix.faultsOf f := by
  unfold faultsOf
  rw [ix.diagnosticsOf_unmap identifier hs]
  split
  · exact filter_withOthers _ _ _
  · rfl

theorem faultsOf_accept (ix : Index) (file : Path) (stamp : Stamp) (c : Class) (f : Path) :
    (ix.accept file stamp c).faultsOf f = if f.same file then [] else ix.faultsOf f := by
  have hd := ix.diagnosticsOf_accept file stamp c f
  cases hs : f.same file with
  | true =>
    rw [hs, if_pos rfl, conflicts_eq] at hd
    rw [if_pos rfl, faultsOf, hd]
    split <;> rfl
  | false =>
    rw [hs] at hd
    have hleft : (ix.accept file stamp c).faultsOf f =
        (ix.leavePrevious file c.identifier).faultsOf f := congrArg (List.filter _) hd
    rw [hleft]
    rcases ix.leavePrevious_cases file c.identifier with heq | ⟨old,_,heq⟩
    · rw [heq]
      rfl
    · rw [heq]
      exact ix.faultsOf_unmap old hs

theorem faultsOf_remove (ix : Index) (file f : Path) :
    (ix.remove file).faultsOf f = if f.same file then [] else ix.faultsOf f := by
  have hd := ix.diagnosticsOf_remove file f
  cases hs : f.same file with
  | true =>
    rw [hs] at hd
    simp only [if_true] at hd ⊢
    rw [faultsOf, hd]
    rfl
  | false =>
    rw [hs] at hd
    have hleft : (ix.remove file).faultsOf f = (ix.removeEntry file).faultsOf f :=
      congrArg (List.filter _) hd
    rw [hleft]
    rcases ix.removeEntry_cases file with heq | ⟨old,heq⟩
    · rw [heq]
      rfl
    · rw [heq]
      exact faultsOf_unmap _ old hs

theorem faultsOf_reject (ix : Index) (file : Path) (stamp : Stamp) {d : Diagnostic}
    (hfatal : d.isFatal = true) (f : Path) :
    (ix.reject file stamp d).faultsOf f = if f.same file then [d] else ix.faultsOf f := by
  unfold faultsOf
  rw [diagnosticsOf_reject_eq]
  split
  · simp [Diagnostic.not_isConflict_of_isFatal hfatal]
  · rfl

/-! ### A call -/

theorem Reachable.holds {ix : Index} (h : Reachable ix) (file : Path) :
    ix.Holds file (ix.entryOf file) := by
  have hstamped := invariant_stamped.of_reachable h file
  refine ⟨rfl,fun hunparsed => ?_,fun i t hparsed => ?_,fun i t hfailed => ?_⟩
  · cases hr : (ix.entryOf file).stamp? with
    | none => rfl
    | some r =>
      have hsettled := hstamped.settled r hr
      rw [hunparsed] at hsettled
      cases hc : Class.ofString r.text with
      | ok c => simp [FileState.after_ok hc] at hsettled
      | error d => simp [FileState.after_error hc] at hsettled
  · have hgrounded := (invariant_sound.of_reachable h).grounded file
    rw [stateOf_eq, hparsed] at hgrounded
    obtain ⟨c,hc,_⟩ := hgrounded
    exact ⟨c,hc⟩
  · have hexplained := (invariant_diagnosed.of_reachable h).explained file
    unfold Explained at hexplained
    rw [stateOf_eq, hfailed] at hexplained
    obtain ⟨d,hd,hfatal⟩ := hexplained
    simp [firstFatal?, hd, hfatal]

/-- A text that is older than the last one or the same changes the cache at most, and any other is
read. -/
theorem Holds.snd_refresh {ix : Index} {file : Path} {e : FileEntry} (h : ix.Holds file e)
    (s : Stamp) :
    if e.stamp?.any fun r => s.isOlderThan r || r.text == s.text then
      ∃ cache, (ix.refresh file s.text s.version?).2 = { ix with cache }
    else (ix.refresh file s.text s.version?).2 = (ix.parse file s).2 := by
  have hknown {state : FileState} {r : Stamp} (he : ix.files.get? file = some ⟨state,some r⟩) :
      e = ⟨state,some r⟩ := by simp [← h.entry, entryOf, he]
  have hmade (state : FileState) : ∃ cache, (ix.materialize file state).2 = { ix with cache } :=
    ⟨_,ix.materialize_eq file state⟩
  rcases ix.refresh_cases file s.text s.version? with
    ⟨state,r,he,hold,hr⟩ | ⟨state,r,answer,he,_,htext,hanswer,hr⟩ | ⟨hr,hnew⟩
  · obtain rfl := hknown he
    rw [if_pos (by simp [hold]), hr, answerStale_snd]
    exact hmade state
  · obtain rfl := hknown he
    rw [if_pos (by simp [htext]), hr]
    rcases snd_of_answerRepeated? hanswer with heq | heq
    · exact ⟨ix.cache,heq⟩
    · rw [heq]
      exact hmade state
  · have hread : e.stamp?.any (fun r => s.isOlderThan r || r.text == s.text) = false := by
      cases hs : e.stamp? with
      | none => rfl
      | some r =>
        obtain ⟨hold,hrepeated⟩ := hnew e.state r (h.get?_files hs)
        have htext : r.text ≠ s.text := by
          intro htext
          have hsome := h.isSome_answerRepeated? (by simp [hs])
          simp [hrepeated htext] at hsome
        simp [hold, htext]
    rw [hread, hr]
    rfl

theorem Mapped.partOf_parse {ix : Index} (h : ix.Mapped) (file : Path) (s : Stamp) (g : Path) :
    (ix.parse file s).2.partOf g =
      if file.same g then (ix.partOf g).parse file s else ix.partOf g := by
  have hfiles := congrArg (·.at? g) (ix.files_parse file s)
  rw [PathMap.at?_insert, Path.same_comm g file] at hfiles
  unfold Index.parse at hfiles ⊢
  cases hs : file.same g with
  | true =>
    have hsame : g.same file = true := by rwa [Path.same_comm]
    rw [hs, if_pos rfl] at hfiles
    rw [if_pos rfl, FilePart.parse]
    have hentry : some (ix.files.spelling file,
        (⟨(ix.stateOf file).after s.text,some s⟩ : FileEntry)) =
        some ((ix.partOf g).spelling file,⟨(ix.partOf g).entry.state.after s.text,some s⟩) := by
      rw [ix.partOf_same hsame, entry_partOf, ← stateOf_eq]
      rfl
    cases hc : Class.ofString s.text with
    | ok c =>
      rw [hc] at hfiles
      simp only [partOf, FilePart.mk.injEq]
      refine ⟨hfiles.trans hentry,funext fun i => ?_,?_⟩
      · rw [h.listed_accept, hsame]
        rfl
      · rw [faultsOf_accept, hsame]
        rfl
    | error d =>
      rw [hc] at hfiles
      simp only [partOf, FilePart.mk.injEq]
      refine ⟨hfiles.trans hentry,rfl,?_⟩
      rw [faultsOf_reject _ _ _ (Class.fatal_ofString s.text d hc), hsame]
      rfl
  | false =>
    have hother : g.same file = false := by rwa [Path.same_comm]
    rw [hs] at hfiles
    cases hc : Class.ofString s.text with
    | ok c =>
      rw [hc] at hfiles
      simp only [partOf, FilePart.mk.injEq, Bool.false_eq_true, if_false]
      refine ⟨hfiles,funext fun i => ?_,?_⟩
      · rw [h.listed_accept, hother]
        rfl
      · rw [faultsOf_accept, hother]
        rfl
    | error d =>
      rw [hc] at hfiles
      simp only [partOf, FilePart.mk.injEq, Bool.false_eq_true, if_false]
      refine ⟨hfiles,rfl,?_⟩
      rw [faultsOf_reject _ _ _ (Class.fatal_ofString s.text d hc), hother]
      rfl

theorem partOf_register (ix : Index) (file g : Path) :
    (ix.register file).partOf g =
      if file.same g then (ix.partOf g).call (.register file) else ix.partOf g := by
  unfold register
  split
  · next hknown =>
    split
    · next hs =>
      rw [← PathMap.isSome_at?, ix.files.at?_same hs] at hknown
      obtain ⟨e,he⟩ := Option.isSome_iff_exists.mp hknown
      simp [partOf, FilePart.call, he]
    · rfl
  · next hnew =>
    have hat := ix.files.at?_insert file ⟨.unparsed,none⟩ g
    rw [Path.same_comm g file] at hat
    rw [← PathMap.isSome_at?] at hnew
    have hnone : ix.files.at? file = none := by simpa using hnew
    split
    · next hs =>
      rw [hs, if_pos rfl, PathMap.spelling_eq_at?, hnone] at hat
      rw [ix.files.at?_same hs] at hnone
      simp only [partOf, FilePart.call, FilePart.mk.injEq]
      exact ⟨by rw [hat, hnone]; rfl,rfl,rfl⟩
    · next hs =>
      rw [if_neg hs] at hat
      simp only [partOf, FilePart.mk.injEq]
      exact ⟨hat,rfl,rfl⟩

theorem Mapped.partOf_remove {ix : Index} (h : ix.Mapped) (file g : Path) :
    (ix.remove file).partOf g =
      if file.same g then (ix.partOf g).call (.remove file) else ix.partOf g := by
  have hat : (ix.remove file).files.at? g = if g.same file then none else ix.files.at? g := by
    rw [remove_eq, ← PathMap.at?_erase]
    exact congrArg (·.at? g) (ix.files_removeEntry file)
  rw [Path.same_comm file g]
  have hpart : (ix.remove file).partOf g = ⟨if g.same file then none else ix.files.at? g,
      fun i => if g.same file then none else ix.listed i g,
      if g.same file then [] else ix.faultsOf g⟩ := by
    simp only [partOf, hat, h.listed_remove, faultsOf_remove]
  rw [hpart]
  split <;> rfl

theorem Reachable.partOf_refresh {ix : Index} (h : Reachable ix) (file : Path) (s : Stamp)
    (g : Path) :
    (ix.refresh file s.text s.version?).2.partOf g =
      if file.same g then (ix.partOf g).refresh file s else ix.partOf g := by
  have hentry : file.same g = true → (ix.partOf g).entry = ix.entryOf file := by
    intro hs
    rw [← ix.partOf_same hs, entry_partOf]
  have hrefresh := (h.holds file).snd_refresh s
  split at hrefresh
  · next hdropped =>
    obtain ⟨cache,heq⟩ := hrefresh
    have hsame : ({ ix with cache } : Index).partOf g = ix.partOf g := partOf_congr rfl rfl rfl g
    rw [heq, hsame]
    split
    · next hs => rw [FilePart.refresh, hentry hs, if_pos hdropped]
    · rfl
  · next hread =>
    rw [hrefresh, (invariant_mapped.of_reachable h).partOf_parse file s g]
    split
    · next hs => rw [FilePart.refresh, hentry hs, if_neg hread]
    · rfl

theorem Reachable.partOf_call {ix : Index} (h : Reachable ix) (x : FileCall) (g : Path) :
    (ix.call x).partOf g = if x.file.same g then (ix.partOf g).call x else ix.partOf g := by
  cases x with
  | register file => exact ix.partOf_register file g
  | refresh file text version? => exact h.partOf_refresh file ⟨version?,text⟩ g
  | remove file => exact (invariant_mapped.of_reachable h).partOf_remove file g

/-- The part of a file behind some calls is what the calls about that file make of it. -/
theorem Reachable.partOf_callAll {ix : Index} (h : Reachable ix) (calls : List FileCall)
    (g : Path) :
    (ix.callAll calls).partOf g = (FileCall.about g calls).foldl FilePart.call (ix.partOf g) := by
  induction calls generalizing ix with
  | nil => rfl
  | cons x xs ih =>
    have hrest := ih (h.call x)
    rw [h.partOf_call x g] at hrest
    unfold FileCall.about at hrest ⊢
    rw [List.filter_cons]
    split
    · next hs =>
      rw [if_pos hs] at hrest
      exact hrest
    · next hs =>
      rw [if_neg hs] at hrest
      exact hrest

/-! ### All files -/

theorem settings_call (ix : Index) (x : FileCall) :
    (ix.call x).config = ix.config ∧ (ix.call x).ready = ix.ready := by
  cases x with
  | register file =>
    unfold call register
    dsimp only
    split <;> exact ⟨rfl,rfl⟩
  | refresh file text version? =>
    unfold call
    dsimp only
    rcases ix.snd_refresh_cases file text version? with heq | heq | heq
    · rw [heq]
      exact ⟨rfl,rfl⟩
    · rw [heq]
      exact ⟨ix.config_materialize file _,ix.ready_materialize file _⟩
    · rw [heq, parse]
      split
      · exact ⟨ix.config_accept file _ _,ix.ready_accept file _ _⟩
      · exact ⟨rfl,rfl⟩
  | remove file =>
    unfold call
    dsimp only
    rw [remove_eq]
    refine ⟨ix.config_removeEntry file,?_⟩
    dsimp only
    rcases ix.removeEntry_cases file with heq | ⟨old,heq⟩
    · rw [heq]
    · rw [heq, ready_unmap]

theorem settings_callAll (ix : Index) (calls : List FileCall) :
    (ix.callAll calls).config = ix.config ∧ (ix.callAll calls).ready = ix.ready := by
  induction calls generalizing ix with
  | nil => exact ⟨rfl,rfl⟩
  | cons x xs ih =>
    obtain ⟨hconfig,hready⟩ := ih (ix.call x)
    obtain ⟨hconfig',hready'⟩ := ix.settings_call x
    exact ⟨hconfig.trans hconfig',hready.trans hready'⟩

theorem Reachable.refresh_unread {ix : Index} (h : Reachable ix) {file : Path}
    (hs : ix.stateOf file = .unparsed) (text : String) (version? : Option Int) :
    ix.refresh file text version? = ix.parse file ⟨version?,text⟩ := by
  rw [stateOf_eq] at hs
  exact refresh_of_no_stamp ((h.holds file).unparsed hs) text version?

/-- The class of a file that was read is that of its last good text, whatever is cached, and a file
that was never read is read now. -/
theorem Reachable.fst_ask_classOf? {ix : Index} (h : Reachable ix) (s : Surroundings) (file : Path) :
    ((Query.classOf? file).ask s ix).1 = some (
      if ix.stateOf file = .unparsed then
        (s.source.open? file).toOption.bind fun live => (Class.ofString live.text).toOption
      else ix.goodClass? file) := by
  have hsound := invariant_sound.of_reachable h
  unfold Query.ask
  by_cases hs : ix.stateOf file = .unparsed
  · rw [if_pos hs, Query.run_classOf?_unread hs (hsound.not_cached hs)]
    cases s.source.open? file with
    | error e => rfl
    | ok live =>
      dsimp only [readLive]
      rw [h.refresh_unread hs, fst_parse]
      rfl
  · rw [if_neg hs, Query.run_classOf?_known fun hu => absurd hu hs]
    exact congrArg some (fst_materialize hsound file)

/-- Calls about different files may come in any order. What is known of the files, the classes that
they declare, what is wrong with each of them and the class that it has are the same, as long as the
calls about each single file come in the same order. -/
theorem callAll_eq_of_about_eq {ix : Index} (h : Reachable ix) {calls calls' : List FileCall}
    (horder : ∀ file, FileCall.about file calls = FileCall.about file calls') :
    (ix.callAll calls).files = (ix.callAll calls').files ∧
    (ix.callAll calls).declaring = (ix.callAll calls').declaring ∧
    (∀ file, (ix.callAll calls).faultsOf file = (ix.callAll calls').faultsOf file) ∧
    (ix.callAll calls).config = (ix.callAll calls').config ∧
    (ix.callAll calls).ready = (ix.callAll calls').ready ∧
    (∀ s file, ((Query.classOf? file).ask s (ix.callAll calls)).1 =
      ((Query.classOf? file).ask s (ix.callAll calls')).1) ∧
    ∀ file identifier text, (ix.callAll calls).stateOf file = .parsed identifier text →
      ∃ c, Class.ofString text = .ok c ∧ c.identifier = identifier ∧
        ∀ s, ((Query.classOf? file).ask s (ix.callAll calls)).1 = some (some c) := by
  have hend := h.callAll calls
  have hend' := h.callAll calls'
  have hpart (file : Path) : (ix.callAll calls).partOf file = (ix.callAll calls').partOf file := by
    rw [h.partOf_callAll, h.partOf_callAll, horder]
  have hfiles : (ix.callAll calls).files = (ix.callAll calls').files :=
    PathMap.ext_at? fun file => congrArg FilePart.known? (hpart file)
  have hdeclaring : (ix.callAll calls).declaring = (ix.callAll calls').declaring :=
    declaring_ext (invariant_mapped.of_reachable hend).noneEmpty
      (invariant_mapped.of_reachable hend').noneEmpty
      fun i file => congrFun (congrArg FilePart.listed (hpart file)) i
  obtain ⟨hconfig,hready⟩ := ix.settings_callAll calls
  obtain ⟨hconfig',hready'⟩ := ix.settings_callAll calls'
  refine ⟨hfiles,hdeclaring,fun file => congrArg FilePart.faults (hpart file),
    hconfig.trans hconfig'.symm,hready.trans hready'.symm,fun s file => ?_,
    fun file identifier text hparsed => ?_⟩
  · have hstate : (ix.callAll calls).stateOf file = (ix.callAll calls').stateOf file := by
      rw [stateOf, stateOf, hfiles]
    rw [hend.fst_ask_classOf?, hend'.fst_ask_classOf?, goodClass?, goodClass?, hstate]
  · have hgrounded := (invariant_sound.of_reachable hend).grounded file
    rw [hparsed] at hgrounded
    obtain ⟨c,hc,hid⟩ := hgrounded
    refine ⟨c,hc,(Option.some.inj hid).symm,fun s => ?_⟩
    rw [hend.fst_ask_classOf?, if_neg (by simp [hparsed])]
    simp [goodClass?, hparsed, FileState.goodText?, hc, Except.toOption]

/-- Two files of one class, the first of which cannot be read any more. The warning is about the one
that came later, and nothing else depends on which of them that is. -/
theorem callAll_eq_of_two_files :
    let a := Path.ofString "A.smali"
    let b := Path.ofString "B.smali"
    let readA := FileCall.refresh a ".class La;\n.super Lb;\n" (some 1)
    let readB := FileCall.refresh b ".class La;\n.super Lc;\n" none
    let broken := FileCall.refresh a ".class La;\n" (some 2)
    let ix := (new .default).callAll [readA,readB,broken]
    let jx := (new .default).callAll [readB,readA,broken]
    ix.files = jx.files ∧ ix.declaring = jx.declaring ∧
      ((Query.classOf? b).ask ⟨MemoryProject.empty.source,.never⟩ ix).1 =
        ((Query.classOf? b).ask ⟨MemoryProject.empty.source,.never⟩ jx).1 ∧
      ix.stateOf a = .failed (some "La;") (some ".class La;\n.super Lb;\n") ∧
      ix.diagnosticsOf b ≠ [] ∧ jx.diagnosticsOf b = [] := by
  intro a b readA readB broken ix jx
  have hsame := callAll_eq_of_about_eq (.new .default)
    (fun file => FileCall.about_swap (x := readA) (y := readB) (by decide +kernel) file [broken])
  exact ⟨hsame.1,hsame.2.1,hsame.2.2.2.2.2.1 _ b,by decide +kernel,by decide +kernel,
    by decide +kernel⟩

end Index

end SmaliNavigator
