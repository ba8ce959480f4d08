import Mathlib.Data.List.Nodup
import SmaliNavigator.Proofs.Index.Occurrence
import SmaliNavigator.Proofs.Index.Budget

/-!
What is answered over a project that was read as a whole. Nothing is left to read then, so that a
question that is not called off has one answer, whatever the cache has, and leaves all but the cache
as it was.
-/

set_option autoImplicit false

namespace SmaliNavigator

namespace Index

/-- The project was taken in: a file that is still unread cannot be read. -/
structure AllRead (ix : Index) (source : Source) : Prop where
  reachable : ix.Reachable
  ready : ix.ready = true
  unread : ∀ file ∈ ix.knownFiles, ix.stateOf file = .unparsed → ∃ e, source.open? file = .error e

/-- The project was taken in, and the classes are those of the texts that the files still have. -/
structure Complete (ix : Index) (source : Source) : Prop extends AllRead ix source where
  live : ∀ file ∈ ix.knownFiles, ∀ text, (ix.stateOf file).goodText? = some text →
    ∃ version?, source.open? file = .ok ⟨text,version?⟩

/-- Every file was read as a class, and from the text that it still has. -/
structure Loaded (ix : Index) (source : Source) : Prop where
  reachable : ix.Reachable
  ready : ix.ready = true
  read : ∀ file ∈ ix.knownFiles, ∃ i text version?,
    ix.stateOf file = .parsed i text ∧ source.open? file = .ok ⟨text,version?⟩

theorem Loaded.complete {ix : Index} {source : Source} (h : ix.Loaded source) :
    ix.Complete source where
  reachable := h.reachable
  ready := h.ready
  unread file hfile hunread := by
    obtain ⟨_,_,_,hstate,_⟩ := h.read file hfile
    simp [hstate] at hunread
  live file hfile text ht := by
    obtain ⟨i,text',version?,hstate,hopen⟩ := h.read file hfile
    obtain rfl : text' = text := by simpa [hstate, FileState.goodText?] using ht
    exact ⟨version?,hopen⟩

/-- Whether a file was read as a class from the text that it still has. -/
def isRead (ix : Index) (source : Source) (file : Path) : Bool :=
  match ix.stateOf file, source.open? file with
  | .parsed _ text, .ok live => text == live.text
  | _, _ => false

theorem Loaded.of_all {ix : Index} {source : Source} (hreachable : ix.Reachable)
    (h : (ix.ready && ix.knownFiles.all (ix.isRead source)) = true) : ix.Loaded source := by
  obtain ⟨hready,hread⟩ := Bool.and_eq_true_iff.mp h
  refine ⟨hreachable,hready,fun file hfile => ?_⟩
  have hhere := List.all_eq_true.mp hread file hfile
  unfold isRead at hhere
  split at hhere
  · next i text live hstate hopen =>
    obtain rfl := eq_of_beq hhere
    exact ⟨i,live.text,live.version?,hstate,hopen⟩
  · cases hhere

/-- The classes of a project with the files that they were read from. -/
def classes (ix : Index) : List (Path × Class) :=
  ix.knownFiles.filterMap fun f => (ix.goodClass? f).map fun c => (f,c)

/-- The classes of an identifier that some files have. -/
def declaredAmong (ix : Index) (identifier : String) (files : List Path) : List (Path × Class) :=
  files.flatMap fun f =>
    ((ix.goodClass? f).filter (·.identifier = identifier)).toList.map fun c => (f,c)

/-- The classes of an identifier with their files. -/
def declared (ix : Index) (identifier : String) : List (Path × Class) :=
  ix.declaredAmong identifier (ix.declarers identifier)

/-- The texts of the classes of a project. -/
def texts (ix : Index) : List (Path × Document) := ix.classes.map fun x => (x.1,x.2.document)

/-- The texts that the files of a project have, with those that cannot be read as a class. -/
def liveTexts (ix : Index) (source : Source) : List (Path × Document) :=
  ix.knownFiles.filterMap fun f =>
    (source.open? f).toOption.map fun live => (f,.ofString live.text)

theorem mem_classes {ix : Index} {file : Path} {c : Class} :
    (file,c) ∈ ix.classes ↔ file ∈ ix.knownFiles ∧ ix.goodClass? file = some c := by
  unfold classes
  rw [List.mem_filterMap]
  constructor
  · rintro ⟨f,hf,hc⟩
    obtain ⟨c',hc',heq⟩ := Option.map_eq_some_iff.mp hc
    obtain ⟨rfl,rfl⟩ := Prod.mk.inj heq
    exact ⟨hf,hc'⟩
  · rintro ⟨hf,hc⟩
    exact ⟨file,hf,by rw [hc]; rfl⟩

theorem mem_texts {ix : Index} {file : Path} {d : Document} :
    (file,d) ∈ ix.texts ↔ ∃ c, (file,c) ∈ ix.classes ∧ c.document = d := by
  unfold texts
  rw [List.mem_map]
  constructor
  · rintro ⟨⟨f,c⟩,hc,heq⟩
    obtain ⟨rfl,rfl⟩ := Prod.mk.inj heq
    exact ⟨c,hc,rfl⟩
  · rintro ⟨c,hc,rfl⟩
    exact ⟨_,hc,rfl⟩

theorem Sound.identifierOf?_of_goodClass? {ix : Index} (h : ix.Sound) {file : Path} {c : Class}
    (hc : ix.goodClass? file = some c) : ix.identifierOf? file = some c.identifier := by
  obtain ⟨t,ht,hread⟩ := goodClass?_eq_some hc
  have hgrounded := h.grounded file
  rw [FileState.Grounded, ht] at hgrounded
  obtain ⟨c',hread',hid⟩ := hgrounded
  obtain rfl : c' = c := Except.ok.inj (hread'.symm.trans hread)
  rw [identifierOf?_eq, hid]

theorem eq_of_goodClass? {ix : Index} {f g : Path} {c d : Class} (hc : ix.goodClass? f = some c)
    (hd : ix.goodClass? g = some d) (hsame : f.same g = true) : c = d := by
  rw [ix.goodClass?_same hsame, hd] at hc
  exact (Option.some.inj hc).symm

theorem mem_declaredAmong {ix : Index} {identifier : String} {files : List Path} {file : Path} {c : Class} :
    (file,c) ∈ ix.declaredAmong identifier files ↔
      file ∈ files ∧ ix.goodClass? file = some c ∧ c.identifier = identifier := by
  unfold declaredAmong
  rw [List.mem_flatMap]
  constructor
  · rintro ⟨f,hf,hc⟩
    obtain ⟨c',hc',heq⟩ := List.mem_map.mp hc
    obtain ⟨rfl,rfl⟩ := Prod.mk.inj heq
    obtain ⟨hgood,hid⟩ := Option.filter_eq_some_iff.mp (Option.mem_toList.mp hc')
    exact ⟨hf,hgood,by simpa using hid⟩
  · rintro ⟨hf,hgood,hid⟩
    refine ⟨file,hf,List.mem_map.mpr ⟨c,?_,rfl⟩⟩
    rw [Option.mem_toList]
    exact Option.filter_eq_some_iff.mpr ⟨hgood,by simpa using hid⟩

theorem mem_declared {ix : Index} {identifier : String} {file : Path} {c : Class} :
    (file,c) ∈ ix.declared identifier ↔ file ∈ ix.declarers identifier ∧
      ix.goodClass? file = some c ∧ c.identifier = identifier :=
  mem_declaredAmong

theorem declaredAmong_append (ix : Index) (identifier : String) (fs gs : List Path) :
    ix.declaredAmong identifier (fs ++ gs) =
      ix.declaredAmong identifier fs ++ ix.declaredAmong identifier gs :=
  List.flatMap_append

theorem nodup_declaredAmong {ix : Index} {identifier : String} {files : List Path} (h : files.Nodup) :
    (ix.declaredAmong identifier files).Nodup := by
  refine List.Nodup.of_map Prod.fst (h.sublist ?_)
  clear h
  induction files with
  | nil => exact .slnil
  | cons f fs ih =>
    rw [← List.singleton_append, declaredAmong_append, List.map_append]
    refine .append ?_ ih
    cases h : (ix.goodClass? f).filter (·.identifier = identifier) <;> simp [declaredAmong, h]

theorem nodup_declared (ix : Index) (identifier : String) : (ix.declared identifier).Nodup :=
  nodup_declaredAmong (PathMap.nodup_files _)

theorem mem_classes_of_goodClass? {ix : Index} {file : Path} {c : Class} (hc : ix.goodClass? file = some c) :
    ∃ g, g.same file = true ∧ (g,c) ∈ ix.classes := by
  have hcontains : ix.files.contains file = true := by
    rw [PathMap.contains_eq_isSome]
    cases he : ix.files.get? file with
    | none => simp [goodClass?, stateOf, he, FileState.goodText?] at hc
    | some e => rfl
  obtain ⟨g,hg,hsame⟩ := PathMap.exists_mem_files hcontains
  exact ⟨g,hsame,mem_classes.mpr ⟨hg,(ix.goodClass?_same hsame).trans hc⟩⟩

end Index

namespace Query

open Index (Alike)

variable {α β : Type} {s : Surroundings} {ix : Index}

/-- Asked of an index, or of one that differs from it in the cache, a question answers this and
leaves such an index. -/
def Answers (s : Surroundings) (ix : Index) (q : Query α) (x : α) : Prop :=
  ∀ a, Alike ix a.index → ∃ b, q.run s a = (some x,b) ∧ Alike ix b.index

theorem Answers.pure (x : α) : Answers s ix (Pure.pure x) x :=
  fun a ha => ⟨a,rfl,ha⟩

theorem Answers.bind {q : Query α} {f : α → Query β} {x : α} {y : β} (h : Answers s ix q x)
    (hf : Answers s ix (f x) y) : Answers s ix (q >>= f) y := by
  intro a ha
  obtain ⟨b,hq,hb⟩ := h a ha
  obtain ⟨c,hrun,hc⟩ := hf b hb
  exact ⟨c,by rw [run_bind, hq]; exact hrun,hc⟩

theorem Answers.map {q : Query α} {x : α} (f : α → β) (h : Answers s ix q x) :
    Answers s ix (f <$> q) (f x) :=
  h.bind (.pure (f x))

theorem answers_getIndex {f : Index → Query β} {y : β}
    (h : ∀ jx, Alike ix jx → Answers s ix (f jx) y) : Answers s ix (getIndex >>= f) y :=
  fun a ha => h a.index ha a ha

theorem Answers.fst_ask {q : Query α} {x : α} (h : Answers s ix q x) (hsound : ix.Sound) :
    (q.ask s ix).1 = some x := by
  obtain ⟨b,hrun,_⟩ := h ⟨ix,0,0⟩ ⟨rfl,hsound,hsound⟩
  rw [ask, hrun]

theorem Answers.eq_of_fst_ask {q : Query α} {x y : α} (h : Answers s ix q x) (hsound : ix.Sound)
    (hy : (q.ask s ix).1 = some y) : x = y :=
  Option.some.inj ((h.fst_ask hsound).symm.trans hy)

theorem answers_isCalledOff (hnever : s.cancellation = .never) :
    Answers s ix isCalledOff false :=
  fun a ha => ⟨_,run_isCalledOff_never hnever a,ha⟩

/-- Asked of an index of a kind, a question has an answer that meets a condition, and it leaves an index
of that kind. -/
def Meets (s : Surroundings) (K : Index → Prop) (q : Query α) (P : α → Prop) : Prop :=
  ∀ a, K a.index → ∃ x b, q.run s a = (some x,b) ∧ P x ∧ K b.index

namespace Meets

variable {K : Index → Prop} {P Q : α → Prop} {R : β → Prop}

theorem pure {x : α} (h : P x) : Meets s K (Pure.pure x) P := fun a ha => ⟨x,a,rfl,h,ha⟩

theorem bind {q : Query α} {f : α → Query β} (h : Meets s K q P) (hf : ∀ x, P x → Meets s K (f x) R) :
    Meets s K (q >>= f) R := by
  intro a ha
  obtain ⟨x,b,hq,hx,hb⟩ := h a ha
  obtain ⟨y,c,hrun,hy,hc⟩ := hf x hx b hb
  exact ⟨y,c,by rw [run_bind, hq]; exact hrun,hy,hc⟩

theorem bind_eq {q : Query α} {f : α → Query β} {x : α} (h : Meets s K q (· = x))
    (hf : Meets s K (f x) R) : Meets s K (q >>= f) R :=
  h.bind fun _ hx => hx ▸ hf

theorem map {q : Query α} {f : α → β} (h : Meets s K q P) (hf : ∀ x, P x → R (f x)) :
    Meets s K (f <$> q) R :=
  h.bind fun x hx => .pure (hf x hx)

theorem imp {q : Query α} (h : Meets s K q P) (hPQ : ∀ x, P x → Q x) : Meets s K q Q := by
  intro a ha
  obtain ⟨x,b,hq,hx,hb⟩ := h a ha
  exact ⟨x,b,hq,hPQ x hx,hb⟩

theorem getIndex {f : Index → Query β} (h : ∀ jx, K jx → Meets s K (f jx) R) :
    Meets s K (getIndex >>= f) R :=
  fun a ha => h a.index ha a ha

theorem isCalledOff (hnever : s.cancellation = .never) : Meets s K isCalledOff (· = false) :=
  fun a ha => ⟨_,_,run_isCalledOff_never hnever a,rfl,ha⟩

theorem waitReady (h : ∀ jx, K jx → jx.ready = true) : Meets s K waitReady fun _ => True :=
  fun a ha => ⟨_,_,run_waitReady (h a.index ha),trivial,ha⟩

theorem exists_fst_ask {q : Query α} (h : Meets s K q P) (hix : K ix) :
    ∃ x, (q.ask s ix).1 = some x ∧ P x := by
  obtain ⟨x,b,hrun,hx,_⟩ := h ⟨ix,0,0⟩ hix
  exact ⟨x,by rw [ask, hrun],hx⟩

end Meets

theorem answers_iff_meets {q : Query α} {x : α} :
    Answers s ix q x ↔ Meets s (Alike ix) q (· = x) := by
  constructor
  · intro h a ha
    obtain ⟨b,hrun,hb⟩ := h a ha
    exact ⟨x,b,hrun,rfl,hb⟩
  · intro h a ha
    obtain ⟨_,b,hrun,rfl,hb⟩ := h a ha
    exact ⟨b,hrun,hb⟩

/-- It can be open whether the question is called off where that does not matter. -/
theorem answers_isCalledOff_then {f : Bool → Query β} {y : β} (h : ∀ called, Answers s ix (f called) y) :
    Answers s ix (isCalledOff >>= f) y :=
  fun a ha => h (s.cancellation.isCalledOff a.looks a.reads) { a with looks := a.looks + 1 } ha

theorem answers_arrangedUnparsed :
    Answers s ix arrangedUnparsed (s.order.arrange (unparsedFiles ix)) := by
  refine fun a ha => ⟨a,?_,ha⟩
  rw [unparsedFiles, ha.files]
  rfl

theorem answers_openFile {file : Path} {f : Except Failure LiveText → Query β} {y : β}
    (h : Answers s ix (f (s.source.open? file)) y) : Answers s ix (openFile file >>= f) y :=
  fun a ha => h { a with reads := a.reads + 1 } ha

theorem answers_classOf? {file : Path}
    (hread : ix.stateOf file = .unparsed → ∃ e, s.source.open? file = .error e) :
    Answers s ix (classOf? file) (ix.goodClass? file) := by
  intro a ha
  by_cases hstate : ix.stateOf file = .unparsed
  · obtain ⟨e,hopen⟩ := hread hstate
    have hstate' : a.index.stateOf file = .unparsed := (ha.stateOf file).symm.trans hstate
    have hrun := run_classOf?_unread (s := s) hstate' (ha.sound'.not_cached hstate')
    rw [hopen] at hrun
    have hnone : ix.goodClass? file = none := by simp [Index.goodClass?, hstate, FileState.goodText?]
    rw [hnone]
    exact ⟨_,hrun,ha⟩
  · have hrun := run_classOf?_known (s := s) (a := a) fun hs =>
      absurd ((ha.stateOf file).trans hs) hstate
    obtain ⟨_,hafter⟩ := ha.materialize file
    rw [Index.fst_materialize ha.sound', ← ha.goodClass? file] at hrun
    refine ⟨_,hrun,?_⟩
    exact ⟨ha.core.trans (Index.core_materialize ..).symm,ha.sound,ha.sound'.materialize file⟩

theorem answers_classOf?_some {file : Path} {c : Class} (hc : ix.goodClass? file = some c) :
    Answers s ix (classOf? file) (some c) := by
  rw [← hc]
  refine answers_classOf? fun hstate => ?_
  simp [Index.goodClass?, hstate, FileState.goodText?] at hc

theorem answers_declaredIn? {identifier : String} {file : Path}
    (hread : ix.stateOf file = .unparsed → ∃ e, s.source.open? file = .error e) :
    Answers s ix (declaredIn? identifier file)
      (((ix.goodClass? file).filter (·.identifier = identifier)).map fun c => (file,c)) := by
  refine (answers_classOf? hread).bind ?_
  cases ix.goodClass? file with
  | none => exact .pure _
  | some c =>
    dsimp only
    by_cases hid : c.identifier = identifier <;> simpa [Option.filter, hid] using .pure _

theorem answers_declaredAmong {identifier : String} (files : List Path)
    (hread : ∀ f ∈ files, ix.stateOf f = .unparsed → ∃ e, s.source.open? f = .error e) :
    Answers s ix (declaredAmong identifier files) (ix.declaredAmong identifier files) := by
  induction files with
  | nil => exact .pure _
  | cons f fs ih =>
    refine (answers_declaredIn? (hread f (by simp))).bind ((ih fun g hg => hread g (by simp [hg])).bind ?_)
    rw [show ix.declaredAmong identifier (f :: fs) = _ ++ ix.declaredAmong identifier fs from
      List.flatMap_cons, Option.toList_map]
    exact .pure _

/-- Among files that cannot be read there is no class, whether the search is called off or not. -/
theorem answers_searchAmong_nil {identifier : String} (files : List Path)
    (hunread : ∀ f ∈ files, ix.stateOf f = .unparsed ∧ ∃ e, s.source.open? f = .error e) :
    Answers s ix (searchAmong identifier files) [] := by
  induction files with
  | nil => exact .pure _
  | cons f fs ih =>
    refine answers_isCalledOff_then fun called => ?_
    cases called with
    | true => exact .pure _
    | false =>
      obtain ⟨hstate,hopen⟩ := hunread f (by simp)
      have hnone : ix.goodClass? f = none := by simp [Index.goodClass?, hstate, FileState.goodText?]
      have hhere : Answers s ix (declaredIn? identifier f) _ := answers_declaredIn? fun _ => hopen
      rw [hnone] at hhere
      exact hhere.bind ((ih fun g hg => hunread g (by simp [hg])).bind (.pure _))

theorem mem_unparsedFiles {f : Path} :
    f ∈ unparsedFiles ix ↔ f ∈ ix.knownFiles ∧ ix.stateOf f = .unparsed := by
  have hentry {g : Path} {e : FileEntry} (he : (g,e) ∈ ix.files.toList) : ix.stateOf g = e.state := by
    have hget : ix.files.get? g = some e := (ix.files.get?_eq_some_iff g e).mpr ⟨g,g.same_refl,he⟩
    simp [Index.stateOf, hget]
  constructor
  · intro hf
    obtain ⟨⟨g,e⟩,hmem,rfl⟩ := List.mem_map.mp hf
    obtain ⟨he,hunread⟩ := List.mem_filter.mp hmem
    exact ⟨List.mem_map.mpr ⟨_,he,rfl⟩,by simpa [hentry he] using hunread⟩
  · rintro ⟨hknown,hstate⟩
    obtain ⟨⟨g,e⟩,he,rfl⟩ := List.mem_map.mp hknown
    exact List.mem_map.mpr ⟨(g,e),List.mem_filter.mpr ⟨he,by simpa [hentry he] using hstate⟩,rfl⟩

end Query

namespace Index

open Query (Answers)

variable {s : Surroundings} {ix : Index}

section AllRead

variable (h : ix.AllRead s.source)
include h

theorem AllRead.sound : ix.Sound := invariant_sound.of_reachable h.reachable

theorem AllRead.mapped : ix.Mapped := invariant_mapped.of_reachable h.reachable

theorem AllRead.exists_mem_declared {file : Path} {c : Class} (hc : (file,c) ∈ ix.classes) :
    ∃ g, g.same file = true ∧ (g,c) ∈ ix.declared c.identifier := by
  obtain ⟨_,hgood⟩ := mem_classes.mp hc
  obtain ⟨g,hg,hsame⟩ := h.mapped.exists_mem_declarers (h.sound.identifierOf?_of_goodClass? hgood)
  exact ⟨g,hsame,mem_declared.mpr ⟨hg,(ix.goodClass?_same hsame).trans hgood,rfl⟩⟩

theorem AllRead.answers_waitReady : Answers s ix Query.waitReady () := by
  refine Query.answers_getIndex fun jx ha => ?_
  have hready : jx.ready = true := (congrArg (·.ready) ha.core).symm.trans h.ready
  rw [hready]
  exact .pure ()

theorem AllRead.answers_classOf? {file : Path} (hfile : file ∈ ix.knownFiles) :
    Answers s ix (Query.classOf? file) (ix.goodClass? file) :=
  Query.answers_classOf? (h.unread file hfile)

/-- No file is left to be read, so that the classes are those of the files that declare them. -/
theorem AllRead.answers_findClasses (identifier : String) :
    Answers s ix (Query.findClasses identifier) (ix.declared identifier) := by
  refine h.answers_waitReady.bind (Query.answers_getIndex fun jx ha => ?_)
  have hdeclarers : jx.declarers identifier = ix.declarers identifier := by
    simp [declarers, ha.declaring]
  rw [hdeclarers]
  have hread : ∀ f ∈ ix.declarers identifier, ix.stateOf f = .unparsed →
      ∃ e, s.source.open? f = .error e := by
    intro f hf hstate
    have hid := h.mapped.identifierOf?_of_mem_declarers hf
    simp [identifierOf?_eq, hstate, FileState.identifier?] at hid
  refine (Query.answers_declaredAmong _ hread).bind (Query.answers_arrangedUnparsed.bind ?_)
  have hnothing (p : Path → Bool) : Answers s ix
      (Query.searchAmong identifier ((s.order.arrange (Query.unparsedFiles ix)).filter p)) [] := by
    refine Query.answers_searchAmong_nil _ fun f hf => ?_
    obtain ⟨hknown,hstate⟩ :=
      Query.mem_unparsedFiles.mp (FileOrder.mem_arrange.mp (List.mem_filter.mp hf).1)
    exact ⟨hstate,h.unread f hknown hstate⟩
  dsimp only
  rw [List.partition_eq_filter_filter]
  refine (hnothing _).bind ?_
  simp only [List.append_nil]
  split
  · next hempty =>
    rw [List.isEmpty_iff] at hempty
    rw [declared, hempty]
    exact hnothing _
  · exact .pure _

end AllRead

section Complete

variable (h : ix.Complete s.source)
include h

theorem Complete.open?_of_goodClass? {file : Path} (hfile : file ∈ ix.knownFiles) {c : Class}
    (hc : ix.goodClass? file = some c) :
    (s.source.open? file).toOption.map (fun live => Document.ofString live.text) =
      some c.document := by
  obtain ⟨t,ht,hread⟩ := goodClass?_eq_some hc
  obtain ⟨version?,hopen⟩ := h.live file hfile t ht
  simp [hopen, Except.toOption, Class.document_of_ofDocument hread]

theorem Complete.answers_sourceOf? {file : Path} (hfile : file ∈ ix.knownFiles) :
    Answers s ix (Query.sourceOf? file)
      ((s.source.open? file).toOption.map fun live => .ofString live.text) := by
  intro a ha
  obtain ⟨reads,hrun⟩ := Query.run_sourceOf? file s a
  rw [Query.sought?_of_live ha.sound'] at hrun
  · exact ⟨_,hrun,ha.core,ha.sound,ha.sound'.consult file⟩
  · rw [← ha.stateOf file]
    exact h.live file hfile

theorem Complete.answers_readTexts (hnever : s.cancellation = .never) (files : List Path)
    (hfiles : ∀ f ∈ files, f ∈ ix.knownFiles) :
    Answers s ix (Query.readTexts files) (files.filterMap fun f =>
      (s.source.open? f).toOption.map fun live => (f,.ofString live.text)) := by
  induction files with
  | nil => exact .pure []
  | cons f fs ih =>
    have hrest := ih fun g hg => hfiles g (by simp [hg])
    refine (Query.answers_isCalledOff hnever).bind
      ((h.answers_sourceOf? (hfiles f (by simp))).bind (hrest.bind ?_))
    rw [List.filterMap_cons]
    cases (s.source.open? f).toOption with
    | none => exact .pure _
    | some live => exact .pure _

theorem Complete.answers_findOccurrences (hnever : s.cancellation = .never) (symbols : List String) :
    Answers s ix (Query.findOccurrences symbols) (occurrencesIn symbols (ix.liveTexts s.source)) := by
  refine h.answers_waitReady.bind (Query.answers_getIndex fun jx ha => ?_)
  have hfiles : jx.knownFiles = ix.knownFiles := by simp [knownFiles, ha.files]
  rw [hfiles]
  exact (h.answers_readTexts hnever _ fun _ hf => hf).bind (.pure _)

end Complete

namespace Loaded

variable (h : ix.Loaded s.source)
include h

theorem sound : ix.Sound := h.complete.sound

theorem liveTexts_eq : ix.liveTexts s.source = ix.texts := by
  rw [liveTexts, texts, classes, List.map_filterMap]
  refine List.filterMap_congr fun f hf => ?_
  obtain ⟨i,text,version?,hstate,hopen⟩ := h.read f hf
  obtain ⟨c,hread,_⟩ : (FileState.parsed i text).Grounded := hstate ▸ h.sound.grounded f
  have hgood : ix.goodClass? f = some c := by
    simp [goodClass?, hstate, FileState.goodText?, hread, Except.toOption]
  simp [hopen, hgood, Except.toOption, Class.document_of_ofDocument hread]

theorem answers_findOccurrences (hnever : s.cancellation = .never) (symbols : List String) :
    Answers s ix (Query.findOccurrences symbols) (occurrencesIn symbols ix.texts) :=
  h.liveTexts_eq ▸ h.complete.answers_findOccurrences hnever symbols

end Loaded

end Index

end SmaliNavigator
