import SmaliNavigator.Navigation.Rename
import SmaliNavigator.Proofs.Index.Levels
import SmaliNavigator.Proofs.Index.Ancestry
import SmaliNavigator.Proofs.Index.Truthful

/-!
What is found over texts that files still have. An index may have read some of its files and others
not yet, and a question may be called off at any time: what is found by then are classes that files
have now, and texts that files have now.
-/

set_option autoImplicit false

namespace SmaliNavigator

namespace Source

theorem exists_of_classOf? {s : Source} {file : Path} {c : Class} (h : s.classOf? file = some c) :
    ∃ d, s.textOf? file = some d ∧ Class.ofDocument d = .ok c := by
  obtain ⟨live,hopen,hc⟩ := Option.bind_eq_some_iff.mp h
  refine ⟨.ofString live.text,by rw [textOf?, hopen]; rfl,?_⟩
  change Class.ofString live.text = .ok c
  cases hread : Class.ofString live.text with
  | ok c' => simpa [hread, Except.toOption] using hc
  | error e => simp [hread, Except.toOption] at hc

/-- One of some files declares a class. -/
def Declares (s : Source) (known : PathSet) (file : Path) (c : Class) : Prop :=
  PathMap.contains known file = true ∧ s.classOf? file = some c

end Source

namespace Index

/-- An index that knows no files but some, and has nothing from texts that these have no more. -/
structure DrawnFrom (ix : Index) (source : Source) (known : PathSet) : Prop where
  sound : ix.Sound
  mapped : ix.Mapped
  known : ∀ file, ix.files.contains file = true → PathMap.contains known file = true
  live : ∀ file text, (ix.stateOf file).goodText? = some text →
    ∃ version?, source.open? file = .ok ⟨text,version?⟩

namespace DrawnFrom

variable {ix jx : Index} {source : Source} {known : PathSet} {file : Path}

theorem alike (h : ix.DrawnFrom source known) (hsound : jx.Sound) (hf : jx.files = ix.files)
    (hd : jx.declaring = ix.declaring) : jx.DrawnFrom source known where
  sound := hsound
  mapped := h.mapped.congr hf hd
  known f hcontains := h.known f (hf ▸ hcontains)
  live f text ht := by
    rw [stateOf, hf] at ht
    exact h.live f text ht

theorem consult (h : ix.DrawnFrom source known) (file : Path) :
    DrawnFrom { ix with cache := (ix.cache.get file).2 } source known :=
  h.alike (h.sound.consult file) rfl rfl

theorem materialize (h : ix.DrawnFrom source known) (file : Path) :
    (ix.materialize file (ix.stateOf file)).2.DrawnFrom source known :=
  h.alike (h.sound.materialize file) (files_materialize ..) (declaring_materialize ..)

theorem goodText?_refresh {text t : String} {version? : Option Int} {f : Path}
    (h : ((ix.refresh file text version?).2.stateOf f).goodText? = some t) :
    (ix.stateOf f).goodText? = some t ∨ f.same file = true ∧ t = text := by
  rcases ix.files_refresh_cases file text version? with hf | hf
  · rw [stateOf, hf] at h
    exact .inl h
  · rw [stateOf, hf, PathMap.get?_insert] at h
    split at h
    · next hs =>
      cases hc : Class.ofString text with
      | ok c =>
        rw [FileState.after_ok hc] at h
        exact .inr ⟨hs,(Option.some.inj h).symm⟩
      | error d =>
        rw [FileState.after_error hc] at h
        rw [ix.stateOf_same hs]
        exact .inl h
    · exact .inl h

theorem refresh (h : ix.DrawnFrom source known) (hspelling : source.IgnoresSpelling)
    (hknown : PathMap.contains known file = true) {live : LiveText}
    (hopen : source.open? file = .ok live) :
    (ix.refresh file live.text live.version?).2.DrawnFrom source known where
  sound := h.sound.refresh file _ _
  mapped := h.mapped.refresh file _ _
  known f hcontains := by
    rw [← contains_known, known_refresh, PathSet.contains_add, Bool.or_eq_true] at hcontains
    rcases hcontains with hs | hcontains
    · rw [PathMap.contains_eq_isSome] at hknown ⊢
      rwa [PathMap.get?_same _ hs]
    · exact h.known f (by rwa [← contains_known])
  live f t ht := by
    rcases goodText?_refresh ht with ht | ⟨hs,rfl⟩
    · exact h.live f t ht
    · exact ⟨live.version?,hspelling file f live (Path.same_comm f file ▸ hs) hopen⟩

/-- An index that was built from nothing, where files still have the texts that it has good classes
from. -/
theorem of_reachable (hreachable : ix.Reachable) (hspelling : source.IgnoresSpelling)
    (hknown : ∀ file, ix.files.contains file = true → PathMap.contains known file = true)
    (hlive : ∀ f ∈ ix.knownFiles, ∀ text, (ix.stateOf f).goodText? = some text →
      ∃ version?, source.open? f = .ok ⟨text,version?⟩) : ix.DrawnFrom source known where
  sound := invariant_sound.of_reachable hreachable
  mapped := invariant_mapped.of_reachable hreachable
  known := hknown
  live f text ht := by
    have hread : ix.stateOf f ≠ .unparsed := by
      intro hunread
      simp [hunread, FileState.goodText?] at ht
    obtain ⟨g,hg,hsame⟩ := PathMap.exists_mem_files (contains_of_read hread)
    obtain ⟨version?,hopen⟩ := hlive g hg text (by rwa [ix.stateOf_same hsame])
    exact ⟨version?,hspelling g f _ hsame hopen⟩

theorem classOf? (h : ix.DrawnFrom source known) {c : Class} (hc : ix.goodClass? file = some c) :
    source.classOf? file = some c := by
  obtain ⟨t,ht,hread⟩ := goodClass?_eq_some hc
  obtain ⟨version?,hopen⟩ := h.live file t ht
  simp [Source.classOf?, hopen, hread, Except.toOption]

end DrawnFrom

theorem ofString_of_refresh_unread {ix : Index} {file : Path} (hsound : ix.Sound)
    (hunread : ix.stateOf file = .unparsed) {text : String} {version? : Option Int} {c : Class}
    (h : (ix.refresh file text version?).1 = .ok c) : Class.ofString text = .ok c := by
  have hstate {state : FileState} {stamp? : Option Stamp}
      (he : ix.files.get? file = some ⟨state,stamp?⟩) : state = .unparsed := by
    rw [← hunread]
    simp [stateOf, he]
  rcases ix.refresh_cases file text version? with
    ⟨state,_,he,_,hr⟩ | ⟨state,_,answer,he,_,_,hanswer,hr⟩ | ⟨hr,_⟩
  · have hnone : (ix.materialize file state).1 = none := by
      rw [hstate he, ← hunread, fst_materialize hsound]
      simp [goodClass?, hunread, FileState.goodText?]
    rw [hr, answerStale_fst, hnone] at h
    cases h
  · obtain rfl := hstate he
    cases hanswer
  · rw [hr, Index.parse] at h
    cases hread : Class.ofString text with
    | ok c' =>
      rw [hread] at h
      exact h
    | error d =>
      rw [hread] at h
      cases h

end Index

namespace Query

variable {α β : Type} {s : Surroundings} {known : PathSet}

/-- Over an index of texts that files still have, a question that is answered leaves such an index,
and its answer is of a kind. -/
def Finds (s : Surroundings) (known : PathSet) (q : Query α) (P : α → Prop) : Prop :=
  ∀ a, a.index.DrawnFrom s.source known → ∀ x b, q.run s a = (some x,b) →
    b.index.DrawnFrom s.source known ∧ P x

namespace Finds

variable {q : Query α} {P : α → Prop}

theorem pure {x : α} (h : P x) : Finds s known (Pure.pure x) P := by
  intro a ha y b hrun
  obtain ⟨hx,rfl⟩ := Prod.mk.inj hrun
  obtain rfl := Option.some.inj hx
  exact ⟨ha,h⟩

theorem mono {Q : α → Prop} (h : Finds s known q P) (hPQ : ∀ x, P x → Q x) : Finds s known q Q :=
  fun a ha x b hrun => (h a ha x b hrun).imp_right (hPQ x)

theorem bind {f : α → Query β} {Q : β → Prop} (h : Finds s known q P)
    (hf : ∀ x, P x → Finds s known (f x) Q) : Finds s known (q >>= f) Q := by
  intro a ha y c hrun
  rw [run_bind] at hrun
  rcases hq : q.run s a with ⟨_ | x,b⟩
  · rw [hq] at hrun
    cases hrun
  · rw [hq] at hrun
    obtain ⟨hb,hx⟩ := h a ha x b hq
    exact hf x hx b hb y c hrun

theorem map {f : α → β} {Q : β → Prop} (h : Finds s known q P) (hf : ∀ x, P x → Q (f x)) :
    Finds s known (f <$> q) Q :=
  h.bind fun x hx => .pure (hf x hx)

theorem failure : Finds s known (Alternative.failure : Query α) P :=
  fun _ _ _ _ hrun => by cases hrun

theorem of_ask (h : Finds s known q P) {ix : Index} (hix : ix.DrawnFrom s.source known) {x : α}
    (hx : (q.ask s ix).1 = some x) : P x := by
  rcases hrun : q.run s ⟨ix,0,0⟩ with ⟨y?,b⟩
  rw [ask, hrun] at hx
  obtain rfl : y? = some x := hx
  exact (h ⟨ix,0,0⟩ hix x b hrun).2

end Finds

/-! ### The steps that look at an index or at the surroundings -/

theorem finds_getIndex {f : Index → Query β} {Q : β → Prop}
    (h : ∀ ix, ix.DrawnFrom s.source known → Finds s known (f ix) Q) :
    Finds s known (getIndex >>= f) Q :=
  fun a ha => h a.index ha a ha

theorem finds_isCalledOff {f : Bool → Query β} {Q : β → Prop}
    (h : ∀ called, Finds s known (f called) Q) : Finds s known (isCalledOff >>= f) Q :=
  fun a ha => h (s.cancellation.isCalledOff a.looks a.reads) { a with looks := a.looks + 1 } ha

theorem finds_openFile {file : Path} {f : Except Failure LiveText → Query β} {Q : β → Prop}
    (h : Finds s known (f (s.source.open? file)) Q) : Finds s known (openFile file >>= f) Q :=
  fun a ha => h { a with reads := a.reads + 1 } ha

theorem finds_arrangedUnparsed : Finds s known arrangedUnparsed fun files =>
    ∀ f ∈ files, PathMap.contains known f = true := by
  intro a ha files b hrun
  obtain ⟨hfiles,rfl⟩ := Prod.mk.inj hrun
  obtain rfl := Option.some.inj hfiles
  refine ⟨ha,fun f hf => ha.known f (PathMap.contains_of_mem_files ?_)⟩
  exact (mem_unparsedFiles.mp (FileOrder.mem_arrange.mp hf)).1

theorem finds_waitReady : Finds s known waitReady fun _ => True := by
  refine finds_getIndex fun ix _ => ?_
  cases ix.ready with
  | true => exact .pure trivial
  | false => exact .failure

/-! ### Texts -/

theorem finds_sourceOf? (file : Path) :
    Finds s known (sourceOf? file) fun d? => ∀ d ∈ d?, s.source.textOf? file = some d := by
  intro a ha x b hrun
  obtain ⟨reads,hsource⟩ := run_sourceOf? file s a
  rw [hsource] at hrun
  obtain ⟨hx,rfl⟩ := Prod.mk.inj hrun
  refine ⟨ha.consult file,fun d hd => ?_⟩
  rw [← Option.some.inj hx, sought?_of_live ha.sound fun t ht => ha.live file t ht] at hd
  exact hd

theorem finds_document? (file : Path) :
    Finds s known (document? file) fun d? => ∀ d ∈ d?, s.source.textOf? file = some d := by
  refine finds_openFile ?_
  cases hopen : s.source.open? file with
  | ok live =>
    refine .pure fun d hd => ?_
    rw [Source.textOf?, hopen]
    exact hd
  | error e =>
    intro a ha x b hrun
    have hindexed := hrun
    dsimp only at hindexed
    rw [Index.run_indexedText? ha.sound] at hindexed
    obtain ⟨hx,rfl⟩ := Prod.mk.inj hindexed
    refine ⟨ha.consult file,fun d hd => ?_⟩
    rw [← Option.some.inj hx] at hd
    obtain ⟨t,ht,_⟩ := Option.map_eq_some_iff.mp hd
    obtain ⟨version?,hlive⟩ := ha.live file t ht
    rw [hopen] at hlive
    cases hlive

theorem finds_readTexts (files : List Path) :
    Finds s known (readTexts files) fun xs => ∀ x ∈ xs, s.source.textOf? x.1 = some x.2 := by
  induction files with
  | nil => exact .pure (by simp)
  | cons f fs ih =>
    refine finds_isCalledOff fun called => ?_
    cases called with
    | true => exact .pure (by simp)
    | false =>
      refine (finds_sourceOf? f).bind fun d? hd => ih.bind fun xs hxs => .pure fun x hx => ?_
      rcases List.mem_append.mp hx with hx | hx
      · obtain ⟨d,hmem,rfl⟩ := List.mem_map.mp hx
        exact hd d (Option.mem_toList.mp hmem)
      · exact hxs x hx

theorem finds_findOccurrences (symbols : List String) :
    Finds s known (findOccurrences symbols) fun found => ∃ texts : List (Path × Document),
      (∀ x ∈ texts, s.source.textOf? x.1 = some x.2) ∧ found = occurrencesIn symbols texts :=
  finds_waitReady.bind fun _ _ => finds_getIndex fun ix _ =>
    (finds_readTexts ix.knownFiles).bind fun texts htexts => .pure ⟨texts,htexts,rfl⟩

/-! ### Classes -/

variable (hspelling : s.source.IgnoresSpelling)
include hspelling

theorem finds_classOf? {file : Path} (hfile : PathMap.contains known file = true) :
    Finds s known (classOf? file) fun c? => ∀ c ∈ c?, s.source.Declares known file c := by
  intro a ha x b hrun
  by_cases hread : a.index.stateOf file = .unparsed ∧ (a.index.cache.get file).1 = none
  · rw [run_classOf?_unread hread.1 hread.2] at hrun
    obtain ⟨hx,rfl⟩ := Prod.mk.inj hrun
    obtain rfl := Option.some.inj hx
    unfold Index.readLive
    cases hopen : s.source.open? file with
    | error e => exact ⟨ha,by simp⟩
    | ok live =>
      refine ⟨ha.refresh hspelling hfile hopen,fun c hc => ⟨hfile,?_⟩⟩
      dsimp only at hc
      cases hanswer : (a.index.refresh file live.text live.version?).1 with
      | error d => simp [hanswer, Except.toOption] at hc
      | ok c' =>
        obtain rfl : c' = c := by simpa [hanswer, Except.toOption] using hc
        have hclass := Index.ofString_of_refresh_unread ha.sound hread.1 hanswer
        simp [Source.classOf?, hopen, hclass, Except.toOption]
  · rw [run_classOf?_known fun hs hc => hread ⟨hs,hc⟩] at hrun
    obtain ⟨hx,rfl⟩ := Prod.mk.inj hrun
    obtain rfl := Option.some.inj hx
    refine ⟨ha.materialize file,fun c hc => ⟨hfile,ha.classOf? ?_⟩⟩
    rwa [Index.fst_materialize ha.sound] at hc

theorem finds_declaredIn? (identifier : String) {file : Path}
    (hfile : PathMap.contains known file = true) :
    Finds s known (declaredIn? identifier file) fun x? =>
      ∀ x ∈ x?, s.source.Declares known x.1 x.2 ∧ x.2.identifier = identifier := by
  refine (finds_classOf? hspelling hfile).bind fun c? hc => ?_
  cases c? with
  | none => exact .pure (by simp)
  | some c =>
    refine .pure fun x hx => ?_
    by_cases hid : c.identifier = identifier
    · obtain rfl : (file,c) = x := by simpa [hid] using hx
      exact ⟨hc c rfl,hid⟩
    · simp [hid] at hx

theorem finds_declaredAmong (identifier : String) {files : List Path}
    (hfiles : ∀ f ∈ files, PathMap.contains known f = true) :
    Finds s known (declaredAmong identifier files) fun xs =>
      ∀ x ∈ xs, s.source.Declares known x.1 x.2 ∧ x.2.identifier = identifier := by
  induction files with
  | nil => exact .pure (by simp)
  | cons f fs ih =>
    obtain ⟨hf,hfs⟩ := List.forall_mem_cons.mp hfiles
    refine (finds_declaredIn? hspelling identifier hf).bind fun x? hx? =>
      (ih hfs).bind fun xs hxs => .pure fun x hx => ?_
    rcases List.mem_append.mp hx with hx | hx
    · exact hx? x (Option.mem_toList.mp hx)
    · exact hxs x hx

theorem finds_searchAmong (identifier : String) {files : List Path}
    (hfiles : ∀ f ∈ files, PathMap.contains known f = true) :
    Finds s known (searchAmong identifier files) fun xs =>
      ∀ x ∈ xs, s.source.Declares known x.1 x.2 ∧ x.2.identifier = identifier := by
  induction files with
  | nil => exact .pure (by simp)
  | cons f fs ih =>
    refine finds_isCalledOff fun called => ?_
    cases called with
    | true => exact .pure (by simp)
    | false =>
      obtain ⟨hf,hfs⟩ := List.forall_mem_cons.mp hfiles
      refine (finds_declaredIn? hspelling identifier hf).bind fun x? hx? =>
        (ih hfs).bind fun xs hxs => .pure fun x hx => ?_
      rcases List.mem_append.mp hx with hx | hx
      · exact hx? x (Option.mem_toList.mp hx)
      · exact hxs x hx

theorem finds_findClasses (identifier : String) :
    Finds s known (findClasses identifier) fun xs =>
      ∀ x ∈ xs, s.source.Declares known x.1 x.2 ∧ x.2.identifier = identifier := by
  refine finds_waitReady.bind fun _ _ => finds_getIndex fun ix hix => ?_
  have hdeclarers : ∀ f ∈ ix.declarers identifier, PathMap.contains known f = true := fun f hf =>
    hix.known f (Index.contains_of_read (hix.mapped.read_of_mem_declarers hf))
  refine (finds_declaredAmong hspelling identifier hdeclarers).bind fun mapped hmapped =>
    finds_arrangedUnparsed.bind fun unparsed hunread => ?_
  have hunparsed (p : Path → Bool) : ∀ f ∈ unparsed.filter p, PathMap.contains known f = true :=
    fun f hf => hunread f (List.mem_filter.mp hf).1
  dsimp only
  rw [List.partition_eq_filter_filter]
  refine (finds_searchAmong hspelling identifier (hunparsed _)).bind fun likely hlikely => ?_
  dsimp only
  split
  · exact finds_searchAmong hspelling identifier (hunparsed _)
  · exact .pure (List.forall_mem_append.mpr ⟨hmapped,hlikely⟩)

theorem finds_membersOf (select : Class → List α) (identifier : String) :
    Finds s known (membersOf select identifier) fun ds => ∀ d ∈ ds,
      s.source.Declares known d.file d.owner ∧ d.member ∈ select d.owner := by
  refine (finds_findClasses hspelling identifier).map fun xs hxs d hd => ?_
  obtain ⟨⟨f,c⟩,hx,hd⟩ := List.mem_flatMap.mp hd
  obtain ⟨m,hm,rfl⟩ := List.mem_map.mp hd
  exact ⟨(hxs _ hx).1,hm⟩

theorem finds_firstMembers (select : Class → List α) (identifiers : List String) :
    Finds s known (firstMembers select identifiers) fun ds => ∀ d ∈ ds,
      s.source.Declares known d.file d.owner ∧ d.member ∈ select d.owner := by
  induction identifiers with
  | nil => exact .pure (by simp)
  | cons id ids ih =>
    refine (finds_membersOf hspelling select id).bind fun found hfound => ?_
    split
    · exact ih
    · exact .pure hfound

theorem finds_nameLocations (select : Class → List Token) (identifiers : List String) :
    Finds s known (nameLocations select identifiers) fun ls => ∀ l ∈ ls,
      ∃ c, s.source.Declares known l.file c ∧ ∃ t ∈ select c, l.span = t.span := by
  induction identifiers with
  | nil => exact .pure (by simp)
  | cons id ids ih =>
    refine (finds_membersOf hspelling select id).bind fun here hhere =>
      ih.bind fun later hlater => .pure (List.forall_mem_append.mpr ⟨fun l hl => ?_,hlater⟩)
    obtain ⟨d,hd,rfl⟩ := List.mem_map.mp hl
    exact ⟨d.owner,(hhere d hd).1,d.member,(hhere d hd).2,rfl⟩

/-! ### Inheritance -/

theorem finds_ascend (origin : String) (level chain : List String) :
    Finds s known (ascend origin level chain) fun _ => True := by
  induction level generalizing chain with
  | nil => exact .pure trivial
  | cons id level ih =>
    refine finds_isCalledOff fun called => ?_
    cases called with
    | true => exact .pure trivial
    | false =>
      have hparents : Finds s known (parentsOf id) fun _ => True :=
        (finds_findClasses hspelling id).map fun _ _ => trivial
      exact hparents.bind fun _ _ => (ih _).bind fun _ _ => .pure trivial

theorem finds_superclasses (identifier : String) :
    Finds s known (superclasses identifier) fun _ => True := by
  have hall (fuel : Nat) (level chain : List String) :
      Finds s known (ascendAll identifier fuel level chain) fun _ => True := by
    induction fuel generalizing level chain with
    | zero => exact .pure trivial
    | succ fuel ih =>
      cases level with
      | nil => exact .pure trivial
      | cons id level => exact (finds_ascend hspelling identifier _ chain).bind fun _ _ => ih _ _
  exact finds_getIndex fun _ _ => hall _ _ _

theorem finds_resolveField (owner : String) (f : Field) :
    Finds s known (resolveField owner f) fun ds => ∀ d ∈ ds,
      s.source.Declares known d.file d.owner ∧ d.member ∈ d.owner.fieldsLike f := by
  have horder : Finds s known (lookupOrder owner) fun _ => True :=
    (finds_superclasses hspelling owner).map fun _ h => h
  exact horder.bind fun _ _ => finds_firstMembers hspelling _ _

section Identifiers

variable {P : String → Prop} (hP : ∀ f c, s.source.Declares known f c → P c.identifier)
include hP

theorem finds_descend (origin : String) (level : List String) {files : List Path}
    (hfiles : ∀ f ∈ files, PathMap.contains known f = true) {found : List String}
    (hfound : ∀ x ∈ found, P x) :
    Finds s known (descend origin level files found) fun r => ∀ x ∈ r.1, P x := by
  induction files generalizing found with
  | nil => exact .pure hfound
  | cons f fs ih =>
    obtain ⟨hf,hfs⟩ := List.forall_mem_cons.mp hfiles
    refine finds_isCalledOff fun called => ?_
    cases called with
    | true => exact .pure hfound
    | false =>
      have hlater (child? : Option String) (hchild : ∀ x ∈ child?, P x) :
          Finds s known (do
            let r ← descend origin level fs (addNew found child?.toList).1
            return (r.1, (addNew found child?.toList).2 ++ r.2)) fun r => ∀ x ∈ r.1, P x := by
        refine (ih hfs fun x hx => ?_).bind fun r hr => .pure hr
        rcases mem_fst_addNew.mp hx with hx | hx
        · exact hfound x hx
        · exact hchild x (Option.mem_toList.mp hx)
      refine (finds_sourceOf? f).bind fun d? _ => ?_
      cases d? with
      | none => exact hlater none (by simp)
      | some d =>
        dsimp only
        split
        · refine (finds_classOf? hspelling hf).bind fun c? hc => ?_
          cases c? with
          | none => exact hlater none (by simp)
          | some c =>
            dsimp only
            split
            · exact hlater (some c.identifier) (by simpa using hP f c (hc c rfl))
            · exact hlater none (by simp)
        · exact hlater none (by simp)

theorem finds_subclasses (identifier : String) :
    Finds s known (subclasses identifier) fun xs => ∀ x ∈ xs, P x := by
  have hall (fuel : Nat) (level : List String) {found : List String} (hfound : ∀ x ∈ found, P x) :
      Finds s known (descendAll identifier fuel level found) fun xs => ∀ x ∈ xs, P x := by
    induction fuel generalizing level found with
    | zero => exact .pure hfound
    | succ fuel ih =>
      cases level with
      | nil => exact .pure hfound
      | cons id level =>
        refine finds_isCalledOff fun called => ?_
        cases called with
        | true => exact .pure hfound
        | false =>
          refine finds_getIndex fun ix hix => ?_
          have hfiles : ∀ f ∈ ix.knownFiles, PathMap.contains known f = true := fun f hf =>
            hix.known f (PathMap.contains_of_mem_files hf)
          exact (finds_descend hspelling hP identifier _ hfiles hfound).bind fun r hr => ih _ hr
  exact finds_waitReady.bind fun _ _ => finds_getIndex fun _ _ => hall _ _ (by simp)

theorem finds_withSubclasses {identifiers family : List String} (hids : ∀ x ∈ identifiers, P x)
    (hfamily : ∀ x ∈ family, P x) :
    Finds s known (withSubclasses identifiers family) fun xs => ∀ x ∈ xs, P x := by
  induction identifiers generalizing family with
  | nil => exact .pure hfamily
  | cons id ids ih =>
    obtain ⟨hid,hids⟩ := List.forall_mem_cons.mp hids
    refine (finds_subclasses hspelling hP id).bind fun below hbelow => ih hids fun x hx => ?_
    rcases mem_fst_addNew.mp hx with hx | hx
    · exact hfamily x hx
    · rcases List.mem_cons.mp hx with rfl | hx
      · exact hid
      · exact hbelow x hx

theorem finds_ancestor (m : Method) (acceptPrivate : Bool) (identifier : String) :
    Finds s known (ancestor m acceptPrivate identifier) fun node =>
      node.declares = true → P node.identifier := by
  refine (finds_findClasses hspelling identifier).bind fun xs hxs => .pure fun hdeclares => ?_
  obtain ⟨c,hc,_⟩ := List.any_eq_true.mp hdeclares
  obtain ⟨⟨f,c'⟩,hx,rfl⟩ := List.mem_map.mp hc
  obtain ⟨hdeclared,rfl⟩ := hxs _ hx
  exact hP f c' hdeclared

theorem finds_surveyLevel (m : Method) (acceptPrivate : Bool) (level : List String) {a : Ancestry}
    (ha : ∀ node ∈ a, node.declares = true → P node.identifier) :
    Finds s known (surveyLevel m acceptPrivate level a) fun r =>
      ∀ node ∈ r.1, node.declares = true → P node.identifier := by
  induction level generalizing a with
  | nil => exact .pure ha
  | cons id level ih =>
    unfold surveyLevel
    split
    · exact ih ha
    · refine finds_isCalledOff fun called => ?_
      cases called with
      | true => exact ih ha
      | false =>
        refine (finds_ancestor hspelling hP m acceptPrivate id).bind fun node hnode => ?_
        refine (ih (List.forall_mem_append.mpr ⟨ha,?_⟩)).bind fun r hr => .pure hr
        simpa using hnode

theorem finds_rootDeclarers (identifier : String) (m : Method) (acceptPrivate : Bool) :
    Finds s known (rootDeclarers identifier m acceptPrivate) fun xs => ∀ x ∈ xs, P x := by
  have hall (fuel : Nat) (level : List String) {a : Ancestry}
      (ha : ∀ node ∈ a, node.declares = true → P node.identifier) :
      Finds s known (survey m acceptPrivate fuel level a) fun a =>
        ∀ node ∈ a, node.declares = true → P node.identifier := by
    induction fuel generalizing level a with
    | zero => exact .pure ha
    | succ fuel ih =>
      cases level with
      | nil => exact .pure ha
      | cons id level =>
        exact (finds_surveyLevel hspelling hP m acceptPrivate _ ha).bind fun r hr => ih _ hr
  unfold rootDeclarers
  split
  · refine (finds_findClasses hspelling identifier).bind fun xs hxs => .pure fun x hx => ?_
    dsimp only at hx
    split at hx
    · next hany =>
      obtain ⟨⟨f,c⟩,hc,_⟩ := List.any_eq_true.mp hany
      obtain ⟨hdeclared,rfl⟩ := hxs _ hc
      rw [List.mem_singleton.mp hx]
      exact hP f c hdeclared
    · cases hx
  · refine finds_getIndex fun ix _ => (hall _ _ (by simp)).bind fun a ha => .pure fun x hx => ?_
    obtain ⟨_,node,hnode,hdeclares⟩ := Ancestry.reflTransGen_of_mem_roots hx
    obtain ⟨hmem,rfl⟩ := Ancestry.mem_of_find? hnode
    exact ha node hmem hdeclares

end Identifiers

end Query

end SmaliNavigator
