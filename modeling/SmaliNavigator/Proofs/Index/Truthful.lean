import Mathlib.Data.List.Pairwise
import SmaliNavigator.Proofs.Index.Loading
import SmaliNavigator.Proofs.Query.Correspondence

/-!
Indexes that have nothing but what the files have now, and of some files nothing yet.

The class of a file that was read is the one that its text makes. Of the files that can have a class
that is looked for, the ones that were read are among those that declare it, so that together with
the unread ones they are all.
-/

set_option autoImplicit false

namespace SmaliNavigator

namespace Source

/-- The text of a file. -/
def textOf? (s : Source) (file : Path) : Option Document :=
  (s.open? file).toOption.map fun live => .ofString live.text

/-- The class that the text of a file makes. -/
def classOf? (s : Source) (file : Path) : Option Class :=
  (s.open? file).toOption.bind fun live => (Class.ofString live.text).toOption

/-- No two files declare the same class. -/
def DeclaresOnce (s : Source) : Prop :=
  ∀ f g c d, s.classOf? f = some c → s.classOf? g = some d → c.identifier = d.identifier →
    f.same g = true

theorem IgnoresSpelling.toOption {s : Source} (h : s.IgnoresSpelling) {f g : Path} (hs : f.same g = true) :
    (s.open? f).toOption = (s.open? g).toOption := by
  cases hf : s.open? f with
  | ok live => rw [h f g live hs hf]
  | error e =>
    cases hg : s.open? g with
    | error e' => rfl
    | ok live =>
      have hf' := h g f live (Path.same_comm f g ▸ hs) hg
      rw [hf] at hf'
      cases hf'

theorem IgnoresSpelling.textOf? {s : Source} (h : s.IgnoresSpelling) {f g : Path}
    (hs : f.same g = true) : s.textOf? f = s.textOf? g := by
  rw [Source.textOf?, Source.textOf?, h.toOption hs]

theorem IgnoresSpelling.classOf? {s : Source} (h : s.IgnoresSpelling) {f g : Path} (hs : f.same g = true) :
    s.classOf? f = s.classOf? g := by
  rw [Source.classOf?, Source.classOf?, h.toOption hs]

/-- The known files once a file was read, which makes it known if it can be. -/
def taken (s : Source) (known : PathSet) (file : Path) : PathSet :=
  match s.open? file with
  | .ok _ => known.add file
  | .error _ => known

theorem taken_of_contains {s : Source} {known : PathSet} {file : Path}
    (h : PathMap.contains known file = true) : s.taken known file = known := by
  unfold taken
  split
  · exact PathSet.add_of_contains h
  · rfl

/-- The classes of an identifier that some files declare. -/
def declaredAmong (s : Source) (identifier : String) (files : List Path) : List (Path × Class) :=
  files.flatMap fun f =>
    ((s.classOf? f).filter (·.identifier = identifier)).toList.map fun c => (f,c)

theorem mem_declaredAmong {s : Source} {identifier : String} {files : List Path} {f : Path} {c : Class} :
    (f,c) ∈ s.declaredAmong identifier files ↔
      f ∈ files ∧ s.classOf? f = some c ∧ c.identifier = identifier := by
  unfold declaredAmong
  rw [List.mem_flatMap]
  constructor
  · rintro ⟨g,hg,hc⟩
    obtain ⟨d,hd,heq⟩ := List.mem_map.mp hc
    obtain ⟨rfl,rfl⟩ := Prod.mk.inj heq
    obtain ⟨hclass,hid⟩ := Option.filter_eq_some_iff.mp (Option.mem_toList.mp hd)
    exact ⟨hg,hclass,by simpa using hid⟩
  · rintro ⟨hf,hclass,hid⟩
    refine ⟨f,hf,List.mem_map.mpr ⟨c,?_,rfl⟩⟩
    exact Option.mem_toList.mpr (Option.filter_eq_some_iff.mpr ⟨hclass,by simpa using hid⟩)

theorem declaredAmong_append (s : Source) (identifier : String) (fs gs : List Path) :
    s.declaredAmong identifier (fs ++ gs) =
      s.declaredAmong identifier fs ++ s.declaredAmong identifier gs :=
  List.flatMap_append

theorem DeclaresOnce.declaredAmong {s : Source} (h : s.DeclaresOnce) (identifier : String)
    {files : List Path} (hapart : files.Pairwise fun f g => f.same g = false) :
    s.declaredAmong identifier files = [] ∨ ∃ x, s.declaredAmong identifier files = [x] := by
  induction files with
  | nil => exact .inl rfl
  | cons f fs ih =>
    obtain ⟨hfirst,hrest⟩ := List.pairwise_cons.mp hapart
    rw [← List.singleton_append, declaredAmong_append]
    cases hhere : (s.classOf? f).filter (·.identifier = identifier) with
    | none =>
      have hnone : s.declaredAmong identifier [f] = [] := by simp [Source.declaredAmong, hhere]
      rw [hnone, List.nil_append]
      exact ih hrest
    | some c =>
      have hone : s.declaredAmong identifier [f] = [(f,c)] := by simp [Source.declaredAmong, hhere]
      obtain ⟨hc,hid⟩ := Option.filter_eq_some_iff.mp hhere
      have hnone : s.declaredAmong identifier fs = [] := by
        refine List.eq_nil_iff_forall_not_mem.mpr fun ⟨g,d⟩ hg => ?_
        obtain ⟨hmem,hd,hid'⟩ := mem_declaredAmong.mp hg
        have hsame := h f g c d hc hd ((by simpa using hid : c.identifier = identifier).trans hid'.symm)
        rw [hfirst g hmem] at hsame
        cases hsame
      rw [hone, hnone]
      exact .inr ⟨_,rfl⟩

/-- What a search for an identifier may answer: the one class that a file declares, with a path of the
file, and nothing if none of the files declares it. -/
def IsFound (s : Source) (identifier : String) (files : List Path) (found : List (Path × Class)) :
    Prop :=
  (found = [] ∧ ∀ f ∈ files, ∀ c, s.classOf? f = some c → c.identifier ≠ identifier) ∨
  ∃ f c, found = [(f,c)] ∧ (∃ g ∈ files, g.same f = true) ∧ s.classOf? f = some c ∧
    c.identifier = identifier

theorem IsFound.agree {s : Source} (hspelling : s.IgnoresSpelling) (honce : s.DeclaresOnce)
    {identifier : String} {files : List Path} {xs ys : List (Path × Class)}
    (hx : s.IsFound identifier files xs) (hy : s.IsFound identifier files ys) :
    List.Forall₂ (Path.At fun p q => p.same q = true) xs ys := by
  have hnot {f : Path} {c : Class} (hknown : ∃ g ∈ files, g.same f = true) (hc : s.classOf? f = some c)
      (hid : c.identifier = identifier)
      (hnone : ∀ f ∈ files, ∀ c, s.classOf? f = some c → c.identifier ≠ identifier) : False := by
    obtain ⟨g,hg,hsame⟩ := hknown
    exact hnone g hg c ((hspelling.classOf? hsame).trans hc) hid
  rcases hx with ⟨rfl,hnone⟩ | ⟨f,c,rfl,hf,hc,hid⟩
  · rcases hy with ⟨rfl,-⟩ | ⟨g,d,-,hg,hd,hid'⟩
    · exact .nil
    · exact (hnot hg hd hid' hnone).elim
  · rcases hy with ⟨-,hnone⟩ | ⟨g,d,rfl,hg,hd,hid'⟩
    · exact (hnot hf hc hid hnone).elim
    · have hsame := honce f g c d hc hd (hid.trans hid'.symm)
      have hclass : c = d := Option.some.inj (hc.symm.trans ((hspelling.classOf? hsame).trans hd))
      exact .cons ⟨hsame,hclass⟩ .nil

/-- What some files of the project declare is all that is found, if it is something or they are all. -/
theorem DeclaresOnce.isFound {s : Source} (honce : s.DeclaresOnce) (hspelling : s.IgnoresSpelling)
    {identifier : String} {files among : List Path} (hapart : among.Pairwise fun f g => f.same g = false)
    (hknown : ∀ f ∈ among, ∃ g ∈ files, g.same f = true)
    (hall : s.declaredAmong identifier among ≠ [] ∨ ∀ f ∈ files, ∀ c, s.classOf? f = some c →
      c.identifier = identifier → ∃ g ∈ among, g.same f = true) :
    s.IsFound identifier files (s.declaredAmong identifier among) := by
  rcases honce.declaredAmong identifier hapart with hnone | ⟨⟨f,c⟩,hone⟩
  · refine .inl ⟨hnone,fun f hf c hc hid => ?_⟩
    obtain ⟨g,hg,hsame⟩ := hall.resolve_left (not_not_intro hnone) f hf c hc hid
    have hmem := mem_declaredAmong.mpr ⟨hg,(hspelling.classOf? hsame).trans hc,hid⟩
    rw [hnone] at hmem
    cases hmem
  · obtain ⟨hf,hc,hid⟩ := mem_declaredAmong.mp (hone ▸ List.mem_singleton.mpr rfl)
    exact .inr ⟨f,c,hone,hknown f hf,hc,hid⟩

end Source

namespace MemoryProject

/-- The classes that the files of a project declare. -/
def identifiers (m : MemoryProject) : List String :=
  m.files.files.filterMap fun f => (m.source.classOf? f).map (·.identifier)

theorem contains_of_classOf? {m : MemoryProject} {f : Path} {c : Class} (h : m.source.classOf? f = some c) :
    m.files.contains f = true := by
  rw [PathMap.contains_eq_isSome]
  cases hf : m.files.get? f with
  | some live => rfl
  | none =>
    have hopen : (m.source.open? f).toOption = none := by
      simp only [source, read, hf]
      split <;> rfl
    simp [Source.classOf?, hopen] at h

theorem declaresOnce_iff (m : MemoryProject) : m.source.DeclaresOnce ↔ m.identifiers.Nodup := by
  unfold identifiers
  rw [List.Nodup, List.pairwise_filterMap]
  constructor
  · intro h
    refine m.files.pairwise_files.imp fun {f g} hfg i hi j hj hij => ?_
    obtain ⟨c,hc,rfl⟩ := Option.map_eq_some_iff.mp hi
    obtain ⟨d,hd,rfl⟩ := Option.map_eq_some_iff.mp hj
    rw [h f g c d hc hd hij] at hfg
    cases hfg
  · intro h f g c d hc hd hid
    have hlisted {f : Path} {c : Class} (hc : m.source.classOf? f = some c) :
        ∃ f' ∈ m.files.files, f'.same f = true ∧ m.source.classOf? f' = some c := by
      obtain ⟨f',hf',hsame⟩ := PathMap.exists_mem_files (contains_of_classOf? hc)
      exact ⟨f',hf',hsame,(m.ignoresSpelling.classOf? hsame).trans hc⟩
    obtain ⟨f',hf',hf,hc'⟩ := hlisted hc
    obtain ⟨g',hg',hg,hd'⟩ := hlisted hd
    have heq : f' = g' := by
      by_contra hne
      have : Std.Symm fun f g => ∀ i, (m.source.classOf? f).map (·.identifier) = some i →
          ∀ j, (m.source.classOf? g).map (·.identifier) = some j → i ≠ j :=
        ⟨fun f g hfg i hi j hj => (hfg j hj i hi).symm⟩
      exact h.forall hf' hg' hne c.identifier (by rw [hc']; rfl) d.identifier (by rw [hd']; rfl) hid
    rw [← Path.same_left hf, heq, hg]

instance (m : MemoryProject) : Decidable m.source.DeclaresOnce :=
  decidable_of_iff _ m.declaresOnce_iff.symm

end MemoryProject

namespace Index

/-! ### The files that are known -/

def known (ix : Index) : PathSet := ix.files.mapValues fun _ => ()

theorem knownFiles_eq (ix : Index) : ix.knownFiles = ix.known.files :=
  (ix.files.files_mapValues _).symm

theorem known_congr {ix jx : Index} (h : jx.files = ix.files) : jx.known = ix.known := by
  rw [known, h]
  rfl

theorem contains_known (ix : Index) (file : Path) : ix.known.contains file = ix.files.contains file := by
  rw [PathMap.contains_eq_isSome, PathMap.contains_eq_isSome, known, PathMap.get?_mapValues,
    Option.isSome_map]

theorem known_insert {ix jx : Index} {file : Path} {e : FileEntry}
    (h : jx.files = ix.files.insert file e) : jx.known = ix.known.add file := by
  rw [known, h, PathMap.mapValues_insert]
  rfl

theorem known_of_contains {ix jx : Index} {file : Path} (h : ix.files.contains file = true)
    (hf : jx.files = ix.files) : jx.known = ix.known.add file := by
  rw [PathSet.add_of_contains (by rw [contains_known, h]), known_congr hf]

theorem known_register (ix : Index) (file : Path) : (ix.register file).known = ix.known.add file := by
  unfold register
  split
  · next h => exact known_of_contains h rfl
  · exact known_insert rfl

theorem known_refresh (ix : Index) (file : Path) (text : String) (version? : Option Int) :
    (ix.refresh file text version?).2.known = ix.known.add file := by
  have hcontains {e : FileEntry} (he : ix.files.get? file = some e) : ix.files.contains file = true := by
    rw [PathMap.contains_eq_isSome, he]
    rfl
  rcases ix.files_refresh_cases file text version? with hf | hf
  · rcases ix.refresh_cases file text version? with ⟨_,_,he,_⟩ | ⟨_,_,_,he,_⟩ | ⟨hparse,-⟩
    · exact known_of_contains (hcontains he) hf
    · exact known_of_contains (hcontains he) hf
    · rw [hparse]
      exact known_insert (files_parse ix file _)
  · exact known_insert hf

theorem knownFiles_refresh {ix : Index} {file : Path} (h : file ∈ ix.knownFiles) (text : String)
    (version? : Option Int) : (ix.refresh file text version?).2.knownFiles = ix.knownFiles := by
  have hcontains : ix.known.contains file = true :=
    (ix.contains_known file).trans (PathMap.contains_of_mem_files h)
  rw [knownFiles_eq, known_refresh, PathSet.add_of_contains hcontains, knownFiles_eq]

theorem known_takeIn (source : Source) (ix : Index) (file : Path) :
    (ix.takeIn source file).known = ix.known.add file := by
  unfold takeIn
  split
  · exact known_refresh ix file _ _
  · exact known_register ix file

/-! ### What is answered about one file -/

/-- An index that has nothing but what the files have now, as far as they were read. -/
structure Truthful (ix : Index) (source : Source) : Prop where
  sound : ix.Sound
  mapped : ix.Mapped
  upToDate : ix.UpToDate source

theorem truthful_new (config : Config) {source : Source} (h : source.IgnoresSpelling) :
    (Index.new config).Truthful source :=
  ⟨sound_new config,mapped_new config,(takenIn_new config h).upToDate⟩

theorem Truthful.register {ix : Index} {source : Source} (h : ix.Truthful source) (file : Path) :
    (ix.register file).Truthful source :=
  ⟨h.sound.register file,h.mapped.register file,h.upToDate.register file⟩

theorem Truthful.refresh {ix : Index} {source : Source} (h : ix.Truthful source) {file : Path}
    {live : LiveText} (hopen : source.open? file = .ok live) :
    (ix.refresh file live.text live.version?).2.Truthful source :=
  ⟨h.sound.refresh file _ _,h.mapped.refresh file _ _,h.upToDate.refresh hopen⟩

theorem Truthful.alike {ix jx : Index} {source : Source} (h : ix.Truthful source) (ha : Alike ix jx) :
    jx.Truthful source :=
  ⟨ha.sound',h.mapped.congr ha.files.symm ha.declaring.symm,h.upToDate.congr ha.files.symm⟩

theorem Truthful.markReady {ix : Index} {source : Source} (h : ix.Truthful source) :
    ix.markReady.Truthful source :=
  ⟨h.sound.congr rfl fun _ => rfl,h.mapped.congr rfl rfl,h.upToDate.congr rfl⟩

theorem Truthful.takeIn {ix : Index} {source : Source} (h : ix.Truthful source) (file : Path) :
    (ix.takeIn source file).Truthful source := by
  unfold Index.takeIn
  split
  · next hopen => exact h.refresh hopen
  · exact h.register file

theorem Truthful.entry {ix : Index} {source : Source} (h : ix.Truthful source) (file : Path) :
    ix.stateOf file = .unparsed ∧ (ix.entryOf file).stamp? = none ∨
      ∃ text version?, ix.stateOf file = FileState.unparsed.after text ∧
        source.open? file = .ok ⟨text,version?⟩ := by
  have hfresh := h.upToDate.fresh file
  rw [stateOf_eq]
  unfold FileEntry.Fresh at hfresh
  split at hfresh
  · next hstamp => exact .inl ⟨hfresh,hstamp⟩
  · next r _ =>
    obtain ⟨hstate,version?,hopen⟩ := hfresh
    exact .inr ⟨r.text,version?,hstate,hopen⟩

theorem Truthful.goodClass? {ix : Index} {source : Source} (h : ix.Truthful source) {file : Path}
    (hread : ix.stateOf file ≠ .unparsed) : ix.goodClass? file = source.classOf? file := by
  rcases h.entry file with ⟨hunread,-⟩ | ⟨text,version?,hstate,hopen⟩
  · exact absurd hunread hread
  · rw [Index.goodClass?, Source.classOf?, hstate, hopen]
    cases hc : Class.ofString text with
    | ok c => simp [FileState.after_ok hc, FileState.goodText?, hc, Except.toOption]
    | error d => simp [FileState.after_error hc, FileState.goodText?, hc, Except.toOption]

theorem Truthful.refresh_unread {ix : Index} {source : Source} (h : ix.Truthful source) {file : Path}
    (hunread : ix.stateOf file = .unparsed) (text : String) (version? : Option Int) :
    ix.refresh file text version? = ix.parse file ⟨version?,text⟩ := by
  have hstamp : (ix.entryOf file).stamp? = none := by
    rcases h.entry file with ⟨-,hstamp⟩ | ⟨text,_,hstate,-⟩
    · exact hstamp
    · exact absurd (hstate.symm.trans hunread) (FileState.after_ne_unparsed _ _)
  exact refresh_of_no_stamp hstamp text version?

/-! ### Where a class may be found -/

variable {ix : Index} {source : Source}

theorem Mapped.read_of_mem_declarers (h : ix.Mapped) {identifier : String} {f : Path}
    (hf : f ∈ ix.declarers identifier) : ix.stateOf f ≠ .unparsed := by
  intro hstate
  have hid := h.identifierOf?_of_mem_declarers hf
  simp [identifierOf?_eq, hstate, FileState.identifier?] at hid

theorem contains_of_read {f : Path} (hread : ix.stateOf f ≠ .unparsed) :
    ix.files.contains f = true := by
  rw [PathMap.contains_eq_isSome]
  cases he : ix.files.get? f with
  | none => exact absurd (by simp [stateOf, he]) hread
  | some e => rfl

/-- The files that declare a class and those that were not read are all that can have it, and no two
of them are the same. -/
theorem Truthful.pairwise_candidates (h : ix.Truthful source) (identifier : String) :
    (ix.declarers identifier ++ Query.unparsedFiles ix).Pairwise fun f g => f.same g = false := by
  refine List.pairwise_append.mpr ⟨PathMap.pairwise_files _,?_,fun f hf g hg => ?_⟩
  · exact (PathMap.pairwise_files _).sublist (List.filter_sublist.map _)
  · refine Bool.eq_false_iff.mpr fun hsame => h.mapped.read_of_mem_declarers hf ?_
    rw [ix.stateOf_same hsame]
    exact (Query.mem_unparsedFiles.mp hg).2

theorem Truthful.mem_candidates (h : ix.Truthful source) {f : Path} (hf : f ∈ ix.knownFiles)
    {c : Class} (hc : source.classOf? f = some c) :
    ∃ g ∈ ix.declarers c.identifier ++ Query.unparsedFiles ix, g.same f = true := by
  by_cases hstate : ix.stateOf f = .unparsed
  · exact ⟨f,List.mem_append_right _ (Query.mem_unparsedFiles.mpr ⟨hf,hstate⟩),f.same_refl⟩
  · have hgood : ix.goodClass? f = some c := (h.goodClass? hstate).trans hc
    obtain ⟨g,hg,hsame⟩ := h.mapped.exists_mem_declarers (h.sound.identifierOf?_of_goodClass? hgood)
    exact ⟨g,List.mem_append_left _ hg,hsame⟩

theorem Truthful.known_candidates (h : ix.Truthful source) (identifier : String) {f : Path}
    (hf : f ∈ ix.declarers identifier ++ Query.unparsedFiles ix) :
    ∃ g ∈ ix.knownFiles, g.same f = true := by
  rcases List.mem_append.mp hf with hf | hf
  · exact PathMap.exists_mem_files (contains_of_read (h.mapped.read_of_mem_declarers hf))
  · exact ⟨f,(Query.mem_unparsedFiles.mp hf).1,f.same_refl⟩

end Index

end SmaliNavigator
