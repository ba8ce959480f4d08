import SmaliNavigator.Proofs.Index.Outlook
import SmaliNavigator.Proofs.Query.Demand

/-!
Projects whose files are read when they are asked for, whatever was done with the index before.

All classes of an identifier are found then if each unread file is where its class is expected to be,
or is the only one that has it. With that, questions work on the index that there will be once all
files have been read.
-/

set_option autoImplicit false

namespace SmaliNavigator

namespace Index

open Query (unparsedFiles mem_unparsedFiles isConventional)

/-- An unread file is where its class is expected to be, or no other file has the class. -/
def UnreadApart (ix : Index) (source : Source) : Prop :=
  ∀ f ∈ unparsedFiles ix, ∀ c ∈ source.classOf? f, isConventional c.identifier f = true ∨
    ∀ g ∈ ix.knownFiles, g ≠ f → ∀ d ∈ ix.classIn? source g, d.identifier ≠ c.identifier

instance (ix : Index) (source : Source) : Decidable (ix.UnreadApart source) :=
  inferInstanceAs (Decidable (∀ f ∈ unparsedFiles ix, ∀ c ∈ source.classOf? f, _ ∨ _))

/-- The project was taken in, and the classes that are unread yet are found when they are asked for. -/
structure Accessible (ix : Index) (source : Source) : Prop where
  reachable : ix.Reachable
  ready : ix.ready = true
  apart : ix.UnreadApart source

/-- The texts that were read as classes are those that the files still have. -/
def KeepsTexts (ix : Index) (source : Source) : Prop :=
  ∀ file ∈ ix.knownFiles, ∀ text, (ix.stateOf file).goodText? = some text →
    ∃ version?, source.open? file = .ok ⟨text,version?⟩

/-- A project that was read at the load meets the conditions, and is what it comes to
(`AllRead.readAll_eq`). -/
theorem AllRead.accessible {ix : Index} {source : Source} (h : ix.AllRead source) :
    ix.Accessible source where
  reachable := h.reachable
  ready := h.ready
  apart f hf c hc := by
    obtain ⟨hknown,hstate⟩ := mem_unparsedFiles.mp hf
    obtain ⟨e,hopen⟩ := h.unread f hknown hstate
    simp [Source.classOf?, hopen, Except.toOption] at hc

/-! ### The index behind all reading -/

namespace ReadFurther

variable {source : Source} {ix jx : Index} {f : Path}

theorem classIn? (h : ReadFurther source ix jx) (hf : f ∈ ix.knownFiles) :
    jx.classIn? source f = ix.classIn? source f := by
  rw [Index.classIn?, h.stateIn f hf, Index.classIn?]

variable (h : ReadFurther source ix jx) (hix : ix.Reachable)
include h hix

theorem stateOf_readAll (hf : f ∈ ix.knownFiles) :
    (ix.readAll source).stateOf f = jx.stateIn source f := by
  obtain ⟨hall,hend⟩ := hix.readFurther_readAll source
  rw [h.stateIn f hf, ← hall.stateIn f hf]
  by_cases hstate : (ix.readAll source).stateOf f = .unparsed
  · obtain ⟨e,hopen⟩ := hend f hf hstate
    exact (stateIn_of_error hopen).symm
  · exact (stateIn_of_read hstate).symm

theorem goodClass?_readAll (hf : f ∈ ix.knownFiles) :
    (ix.readAll source).goodClass? f = jx.classIn? source f := by
  rw [Index.goodClass?, h.stateOf_readAll hix hf, Index.classIn?]

theorem goodClass?_of_read (hread : jx.stateOf f ≠ .unparsed) :
    (ix.readAll source).goodClass? f = jx.goodClass? f := by
  obtain ⟨g,hg,hsame⟩ := PathMap.exists_mem_files (contains_of_read hread)
  have hg' : g ∈ ix.knownFiles := h.knownFiles ▸ hg
  rw [← jx.stateOf_same hsame] at hread
  rw [← goodClass?_same _ hsame, h.goodClass?_readAll hix hg', classIn?_of_read hread,
    jx.goodClass?_same hsame]

theorem mem_declarers_readAll {identifier : String} :
    f ∈ (ix.readAll source).declarers identifier ↔ jx.WillDeclare source identifier f := by
  obtain ⟨hall,hend⟩ := hix.readFurther_readAll source
  rw [h.willDeclare, ← hall.willDeclare, WillDeclare, or_iff_left]
  rintro ⟨hunread,hid⟩
  obtain ⟨hknown,hstate⟩ := mem_unparsedFiles.mp hunread
  obtain ⟨e,hopen⟩ := hend f (hall.knownFiles ▸ hknown) hstate
  rw [stateIn_of_error hopen, hstate] at hid
  cases hid

/-- The classes of an identifier are those of the files that declare it and of the unread ones. -/
theorem mem_declared_readAll {identifier : String} {c : Class} :
    (f,c) ∈ (ix.readAll source).declared identifier ↔
      (f ∈ jx.declarers identifier ∨ f ∈ unparsedFiles jx) ∧
        (ix.readAll source).goodClass? f = some c ∧ c.identifier = identifier := by
  obtain ⟨hall,-⟩ := hix.readFurther_readAll source
  rw [mem_declared, h.mem_declarers_readAll hix, WillDeclare]
  refine and_congr_left fun hgood => or_congr_right (and_iff_left_of_imp fun hf => ?_)
  obtain ⟨hc,hid⟩ := hgood
  have hknown : f ∈ ix.knownFiles := h.knownFiles ▸ (mem_unparsedFiles.mp hf).1
  rw [← h.stateOf_readAll hix hknown, ← identifierOf?_eq,
    hall.sound.identifierOf?_of_goodClass? hc, hid]

theorem perm_declared_readAll {identifier : String} {files : List Path} (hnodup : files.Nodup)
    (hfiles : ∀ f c, (ix.readAll source).goodClass? f = some c → c.identifier = identifier →
      (f ∈ files ↔ f ∈ jx.declarers identifier ∨ f ∈ unparsedFiles jx)) :
    ((ix.readAll source).declaredAmong identifier files).Perm
      ((ix.readAll source).declared identifier) := by
  refine (List.perm_ext_iff_of_nodup (nodup_declaredAmong hnodup)
    (nodup_declared _ identifier)).mpr fun ⟨f,c⟩ => ?_
  rw [mem_declaredAmong, h.mem_declared_readAll hix]
  exact and_congr_left fun ⟨hc,hid⟩ => hfiles f c hc hid

end ReadFurther

end Index

namespace Query

open Index (ReadFurther)

variable {s : Surroundings} {ix : Index} (hix : ix.Reachable)
include hix

/-- The class of a file is the one that it will have, whether it is read for that or was before. -/
theorem meets_classOf? {f : Path} (hf : f ∈ ix.knownFiles) :
    Meets s (ReadFurther s.source ix) (classOf? f) (· = (ix.readAll s.source).goodClass? f) := by
  intro a ha
  rw [ha.goodClass?_readAll hix hf]
  by_cases hstate : a.index.stateOf f = .unparsed
  · have hrun := run_classOf?_unread (s := s) hstate (ha.sound.not_cached hstate)
    rw [Index.classIn?_of_unread hstate, Source.classOf?]
    cases hopen : s.source.open? f with
    | error e =>
      rw [hopen] at hrun
      exact ⟨_,_,hrun,rfl,ha⟩
    | ok live =>
      rw [hopen] at hrun
      refine ⟨_,_,hrun,?_,ha.refresh (ha.knownFiles ▸ hf) hstate hopen⟩
      rw [Index.readLive, ha.refresh_eq hstate, Index.fst_parse]
      rfl
  · have hrun := run_classOf?_known (s := s) (a := a) fun hs => absurd hs hstate
    refine ⟨_,_,hrun,?_,ha.alike ⟨?_,ha.sound,ha.sound.materialize f⟩⟩
    · rw [Index.fst_materialize ha.sound, Index.classIn?_of_read hstate]
    · exact (Index.core_materialize ..).symm

theorem meets_declaredIn? (identifier : String) {f : Path} (hf : f ∈ ix.knownFiles) :
    Meets s (ReadFurther s.source ix) (declaredIn? identifier f)
      (·.toList = (ix.readAll s.source).declaredAmong identifier [f]) := by
  refine (meets_classOf? hix hf).bind_eq ?_
  unfold Index.declaredAmong
  rw [List.flatMap_singleton]
  cases (ix.readAll s.source).goodClass? f with
  | none => exact .pure rfl
  | some c =>
    refine .pure ?_
    by_cases hid : c.identifier = identifier <;> simp [Option.filter, hid]

theorem meets_searchAmong (hnever : s.cancellation = .never) (identifier : String) {files : List Path}
    (hfiles : ∀ f ∈ files, f ∈ ix.knownFiles) :
    Meets s (ReadFurther s.source ix) (searchAmong identifier files)
      (· = (ix.readAll s.source).declaredAmong identifier files) := by
  induction files with
  | nil => exact .pure rfl
  | cons f fs ih =>
    obtain ⟨hf,hfs⟩ := List.forall_mem_cons.mp hfiles
    refine (Meets.isCalledOff hnever).bind_eq ((meets_declaredIn? hix identifier hf).bind fun x? hx? => ?_)
    refine (ih hfs).bind_eq (.pure ?_)
    rw [hx?, ← Index.declaredAmong_append]
    rfl

theorem run_declaredAmong_further {a : Activity} (ha : ReadFurther s.source ix a.index)
    (identifier : String) :
    ∃ b, (declaredAmong identifier (a.index.declarers identifier)).run s a =
        (some ((ix.readAll s.source).declaredAmong identifier (a.index.declarers identifier)),b) ∧
      Index.Alike a.index b.index := by
  have hread {f : Path} (hf : f ∈ a.index.declarers identifier) := ha.mapped.read_of_mem_declarers hf
  have hanswers : Answers s a.index (declaredAmong identifier (a.index.declarers identifier)) _ :=
    answers_declaredAmong _ fun f hf hstate => absurd hstate (hread hf)
  obtain ⟨b,hrun,hb⟩ := hanswers a ⟨rfl,ha.sound,ha.sound⟩
  refine ⟨b,?_,hb⟩
  rw [hrun, Index.declaredAmong, Index.declaredAmong]
  congr 2
  exact List.flatMap_congr fun f hf => by rw [ha.goodClass?_of_read hix (hread hf)]

/-! ### The classes of an identifier -/

/-- What is found among the files that declare a class and the likely ones is all that is found, if it
is anything. -/
theorem run_findClasses_further (hready : ix.ready = true) (hnever : s.cancellation = .never) {a : Activity}
    (ha : ReadFurther s.source ix a.index) (identifier : String) :
    ∃ files b, (findClasses identifier).run s a =
        (some ((ix.readAll s.source).declaredAmong identifier files),b) ∧
      ReadFurther s.source ix b.index ∧
      (files = a.index.declarers identifier ++ likely s a.index identifier ∧
          (ix.readAll s.source).declaredAmong identifier files ≠ [] ∨
        files = unlikely s a.index identifier ∧ (ix.readAll s.source).declaredAmong identifier
          (a.index.declarers identifier ++ likely s a.index identifier) = []) := by
  have hknown {f : Path} (hf : f ∈ unparsedFiles a.index) : f ∈ ix.knownFiles :=
    ha.knownFiles ▸ (mem_unparsedFiles.mp hf).1
  obtain ⟨b,hmapped,hb⟩ := run_declaredAmong_further hix ha identifier
  obtain ⟨_,c,hlikely,rfl,hc⟩ := meets_searchAmong hix hnever identifier
    (fun f hf => hknown (mem_likely.mp hf).1) b (ha.alike hb)
  have hrun := run_findClasses (ha.ready.trans hready) hmapped hb hlikely
  rw [← Index.declaredAmong_append] at hrun
  by_cases hempty : (ix.readAll s.source).declaredAmong identifier
      (a.index.declarers identifier ++ likely s a.index identifier) = []
  · rw [if_pos (List.isEmpty_iff.mpr hempty)] at hrun
    obtain ⟨_,d,hrest,rfl,hd⟩ := meets_searchAmong hix hnever identifier
      (fun f hf => hknown (mem_unlikely.mp hf).1) c hc
    exact ⟨_,d,hrun.trans hrest,hd,.inr ⟨rfl,hempty⟩⟩
  · rw [if_neg (mt List.isEmpty_iff.mp hempty)] at hrun
    exact ⟨_,c,hrun,hc,.inl ⟨rfl,hempty⟩⟩

/-- Where the unread files are apart, one of them that is not where its class is expected to be has the
class alone. -/
theorem identifier_ne_of_unlikely (hapart : ix.UnreadApart s.source) {jx : Index}
    (hj : ReadFurther s.source ix jx) {f g : Path} {c d : Class}
    (hf : f ∈ unlikely s jx c.identifier) (hc : (ix.readAll s.source).goodClass? f = some c)
    (hg : g ∈ jx.declarers c.identifier ++ likely s jx c.identifier)
    (hd : (ix.readAll s.source).goodClass? g = some d) : d.identifier ≠ c.identifier := by
  obtain ⟨hunread,hunlikely⟩ := mem_unlikely.mp hf
  obtain ⟨hknown,hstate⟩ := mem_unparsedFiles.mp hunread
  rw [hj.knownFiles] at hknown
  have hclass : s.source.classOf? f = some c := by
    rw [← Index.classIn?_of_unread hstate, ← hj.goodClass?_readAll hix hknown, hc]
  have halone := (hapart f (mem_unparsedFiles.mpr ⟨hknown,hj.unread f hstate⟩) c hclass).resolve_left
    (by simp [hunlikely])
  have hother {g' : Path} (hg' : g' ∈ jx.knownFiles) (hne : g' ≠ f)
      (hd' : (ix.readAll s.source).goodClass? g' = some d) : d.identifier ≠ c.identifier := by
    rw [hj.knownFiles] at hg'
    refine halone g' hg' hne d ?_
    rw [← hj.classIn? hg', ← hj.goodClass?_readAll hix hg', hd']
    rfl
  rcases List.mem_append.mp hg with hg | hg
  · have hread := hj.mapped.read_of_mem_declarers hg
    obtain ⟨g',hg',hsame⟩ := PathMap.exists_mem_files (Index.contains_of_read hread)
    refine hother hg' ?_ ((Index.goodClass?_same _ hsame).trans hd)
    rintro rfl
    exact hread ((jx.stateOf_same hsame).symm.trans hstate)
  · obtain ⟨hg,hlikely⟩ := mem_likely.mp hg
    refine hother (mem_unparsedFiles.mp hg).1 ?_ hd
    rintro rfl
    rw [hunlikely] at hlikely
    cases hlikely

omit hix in
/-- All classes of an identifier are found, in whatever order the table comes upon the unread files. -/
theorem meets_findClasses (h : ix.Accessible s.source) (hnever : s.cancellation = .never)
    (identifier : String) :
    Meets s (ReadFurther s.source ix) (findClasses identifier)
      (·.Perm ((ix.readAll s.source).declared identifier)) := by
  intro a ha
  obtain ⟨files,b,hrun,hb,hfiles⟩ := run_findClasses_further h.reachable h.ready hnever ha identifier
  have harranged : (s.order.arrange (unparsedFiles a.index)).Nodup :=
    (s.order.arrange_perm _).nodup_iff.mpr a.index.nodup_unparsedFiles
  refine ⟨_,b,hrun,?_,hb⟩
  rcases hfiles with ⟨rfl,hsome⟩ | ⟨rfl,hnone⟩
  · refine ha.perm_declared_readAll h.reachable ?_ fun f c hc hid => ?_
    · refine List.nodup_append.mpr ⟨PathMap.nodup_files _,harranged.filter _,fun f hf g hg => ?_⟩
      rintro rfl
      exact ha.mapped.read_of_mem_declarers hf (mem_unparsedFiles.mp (mem_likely.mp hg).1).2
    · rw [List.mem_append, mem_likely]
      refine or_congr_right (and_iff_left_of_imp fun hf => ?_)
      by_contra hunlikely
      subst hid
      obtain ⟨⟨g,d⟩,hfound⟩ := List.exists_mem_of_ne_nil _ hsome
      obtain ⟨hg,hd,hid⟩ := Index.mem_declaredAmong.mp hfound
      exact identifier_ne_of_unlikely h.reachable h.apart ha
        (mem_unlikely.mpr ⟨hf,by simpa using hunlikely⟩) hc hg hd hid
  · refine ha.perm_declared_readAll h.reachable (harranged.filter _) fun f c hc hid => ?_
    -- nothing was found up to here, so that no file but the others can have the class
    have hnot : f ∉ a.index.declarers identifier ++ likely s a.index identifier := by
      intro hf
      have hfound := Index.mem_declaredAmong.mpr ⟨hf,hc,hid⟩
      rw [hnone] at hfound
      cases hfound
    rw [List.mem_append, mem_likely] at hnot
    rw [mem_unlikely]
    grind

theorem exists_readFurther {f g : Path} (hg : g ∈ ix.knownFiles) {d : Class}
    (hd : d ∈ ix.classIn? s.source g) (hf : f ∈ ix.knownFiles) (hunread : ix.stateOf f = .unparsed)
    (hne : f ≠ g) : ∃ jx, ReadFurther s.source ix jx ∧ jx.stateOf g ≠ .unparsed ∧
      jx.stateOf f = .unparsed := by
  have hself : ReadFurther s.source ix ix := .refl hix
  by_cases hstate : ix.stateOf g = .unparsed
  · rw [Index.classIn?_of_unread hstate] at hd
    cases hlive : s.source.open? g with
    | error e => simp [Source.classOf?, hlive, Except.toOption] at hd
    | ok live =>
      refine ⟨_,hself.refresh hg hstate hlive,?_,?_⟩
      · rw [hself.stateOf_refresh_self hstate]
        exact FileState.after_ne_unparsed _ _
      · rw [hself.stateOf_refresh_other hg hstate hf hne, hunread]
  · exact ⟨ix,hself,hstate,hunread⟩

/-- What the unread files must be like for every class of every identifier to be found, whatever has been
read in between. -/
theorem unreadApart_iff_findClasses (hready : ix.ready = true) (hnever : s.cancellation = .never) :
    ix.UnreadApart s.source ↔ ∀ jx, ReadFurther s.source ix jx → ∀ identifier, ∃ found,
      ((findClasses identifier).ask s jx).1 = some found ∧
        found.Perm ((ix.readAll s.source).declared identifier) := by
  refine ⟨fun hapart jx hj identifier =>
    (meets_findClasses ⟨hix,hready,hapart⟩ hnever identifier).exists_fst_ask hj,fun hall f hf c hc => ?_⟩
  by_contra hnot
  push Not at hnot
  obtain ⟨hunlikely,g,hg,hne,d,hd,hid⟩ := hnot
  obtain ⟨hknown,hstate⟩ := mem_unparsedFiles.mp hf
  obtain ⟨jx,hj,hread,hunread⟩ := exists_readFurther hix hg hd hknown hstate hne.symm
  obtain ⟨found,hasked,hperm⟩ := hall jx hj c.identifier
  obtain ⟨files,b,hrun,-,hfiles⟩ :=
    run_findClasses_further hix hready hnever (a := ⟨jx,0,0⟩) hj c.identifier
  rw [ask, hrun] at hasked
  obtain rfl := Option.some.inj hasked
  have hunread' : f ∈ unparsedFiles jx := mem_unparsedFiles.mpr ⟨hj.knownFiles ▸ hknown,hunread⟩
  have hgood : (ix.readAll s.source).goodClass? f = some c := by
    rw [hj.goodClass?_readAll hix hknown, Index.classIn?_of_unread hunread, hc]
  have hmem := hperm.mem_iff.mpr ((hj.mem_declared_readAll hix).mpr ⟨.inr hunread',hgood,rfl⟩)
  rcases hfiles with ⟨rfl,-⟩ | ⟨-,hnone⟩
  · rcases List.mem_append.mp (Index.mem_declaredAmong.mp hmem).1 with hdeclares | hlikely
    · exact hj.mapped.read_of_mem_declarers hdeclares hunread
    · exact hunlikely (mem_likely.mp hlikely).2
  · rw [← hj.classIn? hg, Index.classIn?_of_read hread] at hd
    obtain ⟨g',hg',hsame⟩ := hj.mapped.exists_mem_declarers (hj.sound.identifierOf?_of_goodClass? hd)
    have hgood' : (ix.readAll s.source).goodClass? g' = some d := by
      rw [Index.goodClass?_same _ hsame, hj.goodClass?_of_read hix hread, hd]
    have hfound := Index.mem_declaredAmong.mpr
      ⟨List.mem_append_left (likely s jx c.identifier) (hid ▸ hg'),hgood',hid⟩
    rw [hnone] at hfound
    cases hfound

end Query

end SmaliNavigator
