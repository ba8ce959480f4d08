import SmaliNavigator.Proofs.Index.Truthful
import SmaliNavigator.Proofs.Navigation.Correspondence

/-!
Questions that read the files they need. Where no two files declare the same class, the answers do
not depend on which files were read before.
-/

set_option autoImplicit false

namespace SmaliNavigator

namespace Index

/-- A loaded index whose files are read when they are asked for. Which of the known ones were read is
left open. -/
structure OnDemand (ix : Index) (source : Source) (known : PathSet) : Prop where
  truthful : ix.Truthful source
  ready : ix.ready = true
  known : ix.known = known

theorem OnDemand.alike {ix jx : Index} {source : Source} {known : PathSet}
    (h : ix.OnDemand source known) (ha : Alike ix jx) : jx.OnDemand source known where
  truthful := h.truthful.alike ha
  ready := (congrArg (·.ready) ha.core).symm.trans h.ready
  known := (known_congr ha.files.symm).trans h.known

theorem OnDemand.knownFiles {ix : Index} {source : Source} {known : PathSet}
    (h : ix.OnDemand source known) : ix.knownFiles = known.files := by
  rw [knownFiles_eq, h.known]

/-- Two loaded indexes that know the same files. -/
def Twins (source : Source) (ix jx : Index) : Prop :=
  ∃ known, ix.OnDemand source known ∧ jx.OnDemand source known

end Index

namespace Query

open Index (OnDemand Twins)

variable {s : Surroundings} {o : FileOrder} {a : Activity} {known : PathSet}

/-! ### Single files -/

/-- The class of a file is the one that its text makes, and a file that can be read is known now. -/
theorem run_classOf?_onDemand (h : a.index.OnDemand s.source known) (file : Path) :
    ∃ b, (classOf? file).run s a = (some (s.source.classOf? file),b) ∧
      b.index.OnDemand s.source (s.source.taken known file) := by
  by_cases hstate : a.index.stateOf file = .unparsed
  · have hrun := run_classOf?_unread (s := s) hstate (h.truthful.sound.not_cached hstate)
    unfold Source.classOf? Source.taken
    cases hopen : s.source.open? file with
    | error e =>
      rw [hopen] at hrun
      exact ⟨_,hrun,h⟩
    | ok live =>
      rw [hopen] at hrun
      have hanswer : (a.index.readLive file (.ok live)).1 = (Class.ofString live.text).toOption := by
        rw [Index.readLive, h.truthful.refresh_unread hstate, Index.fst_parse]
      rw [hanswer] at hrun
      refine ⟨_,hrun,h.truthful.refresh hopen,?_,?_⟩
      · exact (a.index.ready_refresh file _ _).trans h.ready
      · exact (a.index.known_refresh file _ _).trans (congrArg (·.add file) h.known)
  · have hrun := run_classOf?_known (s := s) (a := a) fun hs => absurd hs hstate
    rw [Index.fst_materialize h.truthful.sound, h.truthful.goodClass? hstate] at hrun
    have hfiles := a.index.files_materialize file (a.index.stateOf file)
    have hready := (a.index.ready_materialize file (a.index.stateOf file)).trans h.ready
    refine ⟨_,hrun,⟨?_,?_,?_⟩,hready,?_⟩
    · exact h.truthful.sound.materialize file
    · exact h.truthful.mapped.materialize file _
    · exact h.truthful.upToDate.congr hfiles
    · have hcontains : PathMap.contains known file = true := by
        rw [← h.known, Index.contains_known]
        exact Index.contains_of_read hstate
      rw [Source.taken_of_contains hcontains, ← h.known]
      exact Index.known_congr hfiles

theorem run_sourceOf?_onDemand (h : a.index.OnDemand s.source known) (file : Path) :
    ∃ b, (sourceOf? file).run s a = (some (s.source.textOf? file),b) ∧
      b.index.OnDemand s.source known := by
  obtain ⟨_,hrun⟩ := run_sourceOf? file s a
  rw [h.truthful.upToDate.sought? h.truthful.sound] at hrun
  have hsound := h.truthful.sound
  exact ⟨_,hrun,h.alike ⟨rfl,hsound,hsound.consult file⟩⟩

/-- Nothing is known of a file that cannot be opened, so that there is no older text to show. -/
theorem run_document?_onDemand (h : a.index.OnDemand s.source known) (file : Path) :
    ∃ b, (document? file).run s a = (some (s.source.textOf? file),b) ∧
      b.index.OnDemand s.source known := by
  have hsound := h.truthful.sound
  unfold document? Source.textOf?
  rw [run_bind, run_openFile]
  dsimp only
  cases hopen : s.source.open? file with
  | ok live => exact ⟨_,rfl,h⟩
  | error e =>
    have hnone : (a.index.stateOf file).goodText? = none := by
      obtain ⟨hunread,-⟩ | ⟨_,_,-,hlive⟩ := h.truthful.entry file
      · rw [hunread]
        rfl
      · rw [hopen] at hlive
        cases hlive
    have hrun := Index.run_indexedText? (a := { a with reads := a.reads + 1 }) (s := s) hsound file
    rw [hnone] at hrun
    exact ⟨_,hrun,h.alike ⟨rfl,hsound,hsound.consult file⟩⟩

/-! ### The classes of an identifier -/

theorem run_declaredAmong_onDemand (h : a.index.OnDemand s.source known) (identifier : String) :
    ∃ b, (declaredAmong identifier (a.index.declarers identifier)).run s a =
        (some (s.source.declaredAmong identifier (a.index.declarers identifier)),b) ∧
      Index.Alike a.index b.index := by
  have hread {f : Path} (hf : f ∈ a.index.declarers identifier) :=
    h.truthful.mapped.read_of_mem_declarers hf
  have hanswers : Answers s a.index (declaredAmong identifier (a.index.declarers identifier)) _ :=
    answers_declaredAmong _ fun f hf hstate => absurd hstate (hread hf)
  obtain ⟨b,hrun,hb⟩ := hanswers a ⟨rfl,h.truthful.sound,h.truthful.sound⟩
  refine ⟨b,?_,hb⟩
  rw [hrun, Source.declaredAmong]
  congr 2
  exact List.flatMap_congr fun f hf => by rw [h.truthful.goodClass? (hread hf)]

theorem run_declaredIn?_onDemand (h : a.index.OnDemand s.source known) (identifier : String)
    {file : Path} (hfile : PathMap.contains known file = true) :
    ∃ b, (declaredIn? identifier file).run s a =
        (some (((s.source.classOf? file).filter (·.identifier = identifier)).map fun c => (file,c)),b) ∧
      b.index.OnDemand s.source known := by
  obtain ⟨b,hrun,hb⟩ := run_classOf?_onDemand h file
  rw [Source.taken_of_contains hfile] at hb
  refine ⟨b,?_,hb⟩
  unfold declaredIn?
  rw [run_bind, hrun]
  cases s.source.classOf? file with
  | none => rfl
  | some c =>
    dsimp only
    by_cases hid : c.identifier = identifier <;> simp [Option.filter, hid]

theorem run_searchAmong_onDemand (hnever : s.cancellation = .never) (identifier : String)
    (files : List Path) (h : a.index.OnDemand s.source known)
    (hfiles : ∀ f ∈ files, PathMap.contains known f = true) :
    ∃ b, (searchAmong identifier files).run s a = (some (s.source.declaredAmong identifier files),b) ∧
      b.index.OnDemand s.source known := by
  induction files generalizing a with
  | nil => exact ⟨a,rfl,h⟩
  | cons f fs ih =>
    obtain ⟨b,hhere,hb⟩ := run_declaredIn?_onDemand (s := s) (a := { a with looks := a.looks + 1 }) h
      identifier (hfiles f (by simp))
    obtain ⟨c,hrest,hc⟩ := ih hb fun g hg => hfiles g (by simp [hg])
    refine ⟨c,?_,hc⟩
    unfold searchAmong
    rw [run_bind, run_isCalledOff_never hnever]
    dsimp only
    rw [if_neg (by simp), run_bind, hhere]
    dsimp only
    rw [run_bind, hrest, ← List.singleton_append, Source.declaredAmong_append]
    simp [Source.declaredAmong, Option.toList_map]

/-- The unread files that are where a class is expected to be. -/
def likely (s : Surroundings) (ix : Index) (identifier : String) : List Path :=
  (s.order.arrange (unparsedFiles ix)).filter (isConventional identifier)

/-- The other unread files. -/
def unlikely (s : Surroundings) (ix : Index) (identifier : String) : List Path :=
  (s.order.arrange (unparsedFiles ix)).filter (not ∘ isConventional identifier)

theorem mem_likely {ix : Index} {identifier : String} {f : Path} :
    f ∈ likely s ix identifier ↔ f ∈ unparsedFiles ix ∧ isConventional identifier f = true := by
  rw [likely, List.mem_filter, FileOrder.mem_arrange]

theorem mem_unlikely {ix : Index} {identifier : String} {f : Path} :
    f ∈ unlikely s ix identifier ↔ f ∈ unparsedFiles ix ∧ isConventional identifier f = false := by
  rw [unlikely, List.mem_filter, FileOrder.mem_arrange, Function.comp_apply, Bool.not_eq_true']

theorem perm_likely_append (s : Surroundings) (ix : Index) (identifier : String) :
    (likely s ix identifier ++ unlikely s ix identifier).Perm (unparsedFiles ix) :=
  (List.filter_append_perm _ _).trans (s.order.arrange_perm _)

/-- The unread files are looked at in two parts, and in the second one only if nothing was found. -/
theorem run_findClasses {identifier : String} {mapped found : List (Path × Class)} {b c : Activity}
    (hready : a.index.ready = true)
    (hmapped : (declaredAmong identifier (a.index.declarers identifier)).run s a = (some mapped,b))
    (hb : Index.Alike a.index b.index)
    (hlikely : (searchAmong identifier (likely s a.index identifier)).run s b = (some found,c)) :
    (findClasses identifier).run s a =
      (if (mapped ++ found).isEmpty then searchAmong identifier (unlikely s a.index identifier)
      else return mapped ++ found).run s c := by
  have hunparsed : unparsedFiles b.index = unparsedFiles a.index := by simp [unparsedFiles, hb.files]
  unfold likely at hlikely
  unfold findClasses unlikely
  rw [run_bind, run_waitReady hready]
  dsimp only
  rw [run_bind, run_getIndex]
  dsimp only
  rw [run_bind, hmapped]
  dsimp only
  rw [run_bind, run_arrangedUnparsed, hunparsed]
  dsimp only
  rw [List.partition_eq_filter_filter]
  dsimp only
  rw [run_bind, hlikely]

/-- However many files were read before, the one class of an identifier is found. -/
theorem run_findClasses_onDemand (hnever : s.cancellation = .never) (honce : s.source.DeclaresOnce)
    (h : a.index.OnDemand s.source known) (identifier : String) :
    ∃ found b, (findClasses identifier).run s a = (some found,b) ∧
      s.source.IsFound identifier known.files found ∧ b.index.OnDemand s.source known := by
  obtain ⟨b,hmapped,hb⟩ := run_declaredAmong_onDemand h identifier
  have hmem {f : Path} (hf : f ∈ unparsedFiles a.index) : PathMap.contains known f = true := by
    refine PathMap.contains_of_mem_files ?_
    rw [← h.knownFiles]
    exact (mem_unparsedFiles.mp hf).1
  obtain ⟨c,hlikely,hc⟩ := run_searchAmong_onDemand (s := s) hnever identifier
    (likely s a.index identifier) (h.alike hb) fun f hf => hmem (mem_likely.mp hf).1
  rw [run_findClasses h.ready hmapped hb hlikely, ← Source.declaredAmong_append]
  -- together they are the files that can have the class, and no two of them are the same
  have hperm := (perm_likely_append s a.index identifier).append_left (a.index.declarers identifier)
  have hapart := (hperm.pairwise_iff fun {f g} hfg => (Path.same_comm g f).trans hfg).mpr
    (h.truthful.pairwise_candidates identifier)
  have hknown : ∀ f ∈ a.index.declarers identifier ++
      (likely s a.index identifier ++ unlikely s a.index identifier),
      ∃ g ∈ known.files, g.same f = true := fun f hf =>
    h.knownFiles ▸ h.truthful.known_candidates identifier (hperm.subset hf)
  split
  · next hempty =>
    have hfound : s.source.declaredAmong identifier (a.index.declarers identifier ++
        (likely s a.index identifier ++ unlikely s a.index identifier)) =
          s.source.declaredAmong identifier (unlikely s a.index identifier) := by
      rw [← List.append_assoc, Source.declaredAmong_append, List.isEmpty_iff.mp hempty,
        List.nil_append]
    obtain ⟨d,hrest,hd⟩ := run_searchAmong_onDemand hnever identifier _ hc
      fun f hf => hmem (mem_unlikely.mp hf).1
    refine ⟨_,d,hrest,?_,hd⟩
    rw [← hfound]
    refine honce.isFound h.truthful.upToDate.spelling hapart hknown (.inr fun f hf c hc hid => ?_)
    obtain ⟨g,hg,hsame⟩ := hid ▸ h.truthful.mem_candidates (h.knownFiles ▸ hf) hc
    exact ⟨g,hperm.symm.subset hg,hsame⟩
  · next hsome =>
    have hsub : (a.index.declarers identifier ++ likely s a.index identifier).Sublist
        (a.index.declarers identifier ++
          (likely s a.index identifier ++ unlikely s a.index identifier)) :=
      (List.sublist_append_left _ _).append_left _
    refine ⟨_,c,rfl,?_,hc⟩
    refine honce.isFound h.truthful.upToDate.spelling (hapart.sublist hsub)
      (fun f hf => hknown f (hsub.subset hf)) (.inl ?_)
    rwa [ne_eq, ← List.isEmpty_iff]

/-! ### Indexes that know the same files -/

/-- A question agrees where what it answers, and which files it makes known, depends on the files that
were known alone, and not on the order in which files are come upon. -/
theorem agreeUpTo_twins {α : Type} {E : α → α → Prop} {q : Query α} (hnever : s.cancellation = .never)
    (spec : PathSet → α → Prop) (next : PathSet → PathSet)
    (hrun : ∀ (order : FileOrder) (a : Activity) known, a.index.OnDemand s.source known → ∃ x b,
      q.run (s.inOrder order) a = (some x,b) ∧ spec known x ∧ b.index.OnDemand s.source (next known))
    (hspec : ∀ known x y, spec known x → spec known y → E x y) :
    AgreeUpTo (Twins s.source) s o False E q q := by
  rintro a b ⟨⟨known,ha,hb⟩,-⟩
  obtain ⟨x,a',hx,hxspec,ha'⟩ := hrun s.order a known ha
  obtain ⟨y,b',hy,hyspec,hb'⟩ := hrun o b known hb
  rw [show q.run s a = (some x,a') from hx, hy]
  exact ⟨.answer (hspec known x y hxspec hyspec),⟨_,ha',hb'⟩,fun h => absurd hnever h⟩

theorem agreeUpTo_twins_eq {α : Type} {q : Query α} {x : α} (hnever : s.cancellation = .never)
    (next : PathSet → PathSet)
    (hrun : ∀ (order : FileOrder) (a : Activity) known, a.index.OnDemand s.source known → ∃ b,
      q.run (s.inOrder order) a = (some x,b) ∧ b.index.OnDemand s.source (next known)) :
    AgreeUpTo (Twins s.source) s o False Eq q q := by
  refine agreeUpTo_twins hnever (fun _ y => y = x) next (fun order a known h => ?_)
    fun _ _ _ hx hy => hx.trans hy.symm
  obtain ⟨b,hx,hb⟩ := hrun order a known h
  exact ⟨x,b,hx,rfl,hb⟩

theorem agreeUpTo_sourceOf? (hnever : s.cancellation = .never) (file : Path) :
    AgreeUpTo (Twins s.source) s o False Eq (sourceOf? file) (sourceOf? file) :=
  agreeUpTo_twins_eq (x := s.source.textOf? file) hnever id fun order _ _ h =>
    run_sourceOf?_onDemand (s := s.inOrder order) h file

theorem agreeUpTo_document? (hnever : s.cancellation = .never) (file : Path) :
    AgreeUpTo (Twins s.source) s o False Eq (document? file) (document? file) :=
  agreeUpTo_twins_eq (x := s.source.textOf? file) hnever id fun order _ _ h =>
    run_document?_onDemand (s := s.inOrder order) h file

theorem keptUpTo_twins (hnever : s.cancellation = .never) (hspelling : s.source.IgnoresSpelling)
    (honce : s.source.DeclaresOnce) :
    KeptUpTo (Twins s.source) s o False fun p q => p.same q = true where
  knownFiles := fun ⟨known,h,h'⟩ => h.knownFiles.trans h'.knownFiles.symm
  ready := fun ⟨known,h,h'⟩ => h.ready.trans h'.ready.symm
  waits := fun ⟨known,h,h'⟩ hwaiting => by simp [h.ready] at hwaiting
  classOf? file :=
    agreeUpTo_twins_eq (x := s.source.classOf? file) hnever (s.source.taken · file) fun order _ _ h =>
      run_classOf?_onDemand (s := s.inOrder order) h file
  findClasses identifier := by
    refine agreeUpTo_twins hnever (fun known => s.source.IsFound identifier known.files) id
      (fun order a known h =>
        run_findClasses_onDemand (s := s.inOrder order) hnever honce h identifier)
      fun _ _ _ hx hy => ?_
    exact hx.agree hspelling honce hy

end Query

namespace Index

variable {s : Surroundings}

theorem onDemand_load (hnever : s.cancellation = .never) (hspelling : s.source.IgnoresSpelling)
    (config : Config) :
    (Operation.load.query.ask s (.new config)).2.OnDemand s.source
      ((s.source.list.toOption.getD []).foldl PathSet.add ∅) := by
  rw [Query.snd_ask_load hnever]
  generalize s.source.list.toOption.getD [] = files
  have htaken (ix : Index) (h : ix.Truthful s.source) :
      (files.foldl (takeIn s.source) ix).Truthful s.source ∧
        (files.foldl (takeIn s.source) ix).known = files.foldl PathSet.add ix.known := by
    induction files generalizing ix with
    | nil => exact ⟨h,rfl⟩
    | cons f fs ih =>
      rw [List.foldl_cons, List.foldl_cons, ← known_takeIn s.source]
      exact ih _ (h.takeIn f)
  obtain ⟨htruthful,hknown⟩ := htaken _ (truthful_new config hspelling)
  exact ⟨htruthful.markReady,rfl,hknown⟩

theorem twins_load (hnever : s.cancellation = .never) (hspelling : s.source.IgnoresSpelling)
    (config config' : Config) :
    Twins s.source (Operation.load.query.ask s (.new config)).2
      (Operation.load.query.ask s (.new config')).2 :=
  ⟨_,onDemand_load hnever hspelling config,onDemand_load hnever hspelling config'⟩

end Index

end SmaliNavigator
