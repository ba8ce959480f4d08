import SmaliNavigator.Proofs.Index.Currency
import SmaliNavigator.Proofs.Navigation.Agreement

/-!
When the size of the cache shows in what is found in texts. It does so as soon as a file is behind,
since the search takes an old text of the file as long as the cache has its class, and in no other
case.
-/

set_option autoImplicit false

namespace SmaliNavigator

open Operation (perform)

/-- All questions that go through the texts of a project are answered the same. -/
structure SameTextAnswers (s : Surroundings) (ix jx : Index) : Prop where
  occurrences : ∀ symbols,
    ((Query.findOccurrences symbols).ask s ix).1 = ((Query.findOccurrences symbols).ask s jx).1
  subclasses : ∀ identifier,
    ((Query.subclasses identifier).ask s ix).1 = ((Query.subclasses identifier).ask s jx).1
  references : ∀ file p withDeclarations,
    ((Query.references file p withDeclarations).ask s ix).1 =
      ((Query.references file p withDeclarations).ask s jx).1
  rename : ∀ file p new,
    ((Query.rename file p new).ask s ix).1 = ((Query.rename file p new).ask s jx).1

theorem Index.AlikeUpToDate.sameTextAnswers {s : Surroundings} (hnever : s.cancellation = .never)
    {ix jx : Index} (h : AlikeUpToDate s.source ix jx) : SameTextAnswers s ix jx := by
  have k := kept_alikeUpToDate s
  have texts := agree_sourceOf? hnever
  have shown := agree_document? s
  exact {
    occurrences symbols := (Query.agree_ask (k.findOccurrences texts symbols) h).1
    subclasses identifier := (Query.agree_ask (k.subclasses texts identifier) h).1
    references file p withDeclarations :=
      (Query.agree_ask (k.references texts shown file p withDeclarations) h).1
    rename file p new := (Query.agree_ask (k.rename texts shown file p new) h).1 }

/-! ### Searches tell texts apart -/

theorem Query.mem_flatMap_symbolLocations_iff {ix : Index} {s : Surroundings} {files : List Path}
    {file : Path} (hfile : file ∈ files) {d : Document} (hd : sought? ix s file = some d)
    {key : String} {l : Location} (hl : l.file = file) :
    l ∈ (soughtTexts ix s files).flatMap (fun x => symbolLocations key x.1 x.2) ↔
      l ∈ symbolLocations key file d := by
  rw [List.mem_flatMap]
  constructor
  · rintro ⟨⟨f,d'⟩,hd',hmem⟩
    obtain ⟨o,_,rfl⟩ := List.mem_map.mp hmem
    dsimp only at hl
    subst hl
    obtain ⟨-,hd'⟩ := mem_soughtTexts.mp hd'
    rw [hd] at hd'
    cases hd'
    exact hmem
  · intro hmem
    exact ⟨(file,d),mem_soughtTexts.mpr ⟨hfile,hd⟩,hmem⟩

/-- Two indexes that answer all searches the same take the same texts for the files. -/
theorem SameTextAnswers.sought_eq {s : Surroundings} {ix jx : Index} (h : SameTextAnswers s ix jx)
    (hnever : s.cancellation = .never) (hready : ix.ready = true) (hready' : jx.ready = true)
    {file : Path} (hfile : file ∈ ix.knownFiles) (hfile' : file ∈ jx.knownFiles) {t u : String}
    (ht : Query.sought? ix s file = some (.ofString t))
    (hu : Query.sought? jx s file = some (.ofString u)) : t = u := by
  refine eq_of_symbolLocations file fun key l => ?_
  have hfound := h.occurrences [key]
  rw [Query.fst_ask_findOccurrences hready hnever, Query.fst_ask_findOccurrences hready' hnever] at hfound
  have hlists : (Query.soughtTexts ix s ix.knownFiles).flatMap (fun x => symbolLocations key x.1 x.2) =
      (Query.soughtTexts jx s jx.knownFiles).flatMap fun x => symbolLocations key x.1 x.2 := by
    simpa [occurrencesIn] using hfound
  by_cases hl : l.file = file
  · rw [← Query.mem_flatMap_symbolLocations_iff hfile ht hl,
      ← Query.mem_flatMap_symbolLocations_iff hfile' hu hl, hlists]
  · have hno (d : Document) : l ∉ symbolLocations key file d := by
      intro hmem
      obtain ⟨o,_,rfl⟩ := List.mem_map.mp hmem
      exact hl rfl
    exact iff_of_false (hno _) (hno _)

/-! ### The budget of an index -/

theorem Class.byteSize_pos {text : String} {c : Class} (h : Class.ofString text = .ok c) :
    0 < c.byteSize := by
  unfold byteSize
  rw [document_of_ofDocument h, Document.size_eq]
  cases hchars : text.toList with
  | cons x xs =>
    have hsize := x.utf8Size_pos
    change 0 < Text.byteCount text.toList
    rw [hchars, Text.byteCount_cons]
    omega
  | nil =>
    have hempty : (Class.ofString "").toOption.isNone = true := by decide +kernel
    rw [String.toList_eq_nil_iff.mp hchars] at h
    simp [h, Except.toOption] at hempty

namespace Index

/-- The cache keeps within a budget, which stays. -/
structure WithinBudget (b : Nat) (ix : Index) : Prop where
  valid : ix.cache.Valid
  capacity : ix.cache.capacity = b
  budget : ix.config.cacheBudget = b

theorem withinBudget_new (config : Config) : (Index.new config).WithinBudget config.cacheBudget :=
  ⟨Cache.valid_new _,rfl,rfl⟩

theorem WithinBudget.congr {b : Nat} {ix jx : Index} (h : ix.WithinBudget b)
    (hcache : jx.cache = ix.cache) (hconfig : jx.config = ix.config) : jx.WithinBudget b :=
  ⟨hcache ▸ h.valid,hcache ▸ h.capacity,hconfig ▸ h.budget⟩

theorem WithinBudget.insert {b : Nat} {ix jx : Index} (h : ix.WithinBudget b) {file : Path}
    {c : Class} (hcache : jx.cache = (ix.cache.insert file c).2) (hconfig : jx.config = ix.config) :
    jx.WithinBudget b :=
  ⟨hcache ▸ h.valid.insert file c,by rw [hcache, Cache.capacity_insert, h.capacity],
    hconfig ▸ h.budget⟩

theorem WithinBudget.consult {b : Nat} {ix jx : Index} (h : ix.WithinBudget b) {file : Path}
    (hcache : jx.cache = (ix.cache.get file).2) (hconfig : jx.config = ix.config) :
    jx.WithinBudget b :=
  ⟨hcache ▸ h.valid.get file,by rw [hcache, Cache.capacity_get, h.capacity],hconfig ▸ h.budget⟩

theorem WithinBudget.materialize {b : Nat} {ix : Index} (h : ix.WithinBudget b) (file : Path)
    (state : FileState) : (ix.materialize file state).2.WithinBudget b := by
  have hconfig := ix.config_materialize file state
  rcases ix.cache_materialize_cases file state with hcache | hcache | ⟨c,hcache⟩
  · exact h.congr hcache hconfig
  · exact h.consult hcache hconfig
  · exact h.insert hcache hconfig

theorem WithinBudget.parse {b : Nat} {ix : Index} (h : ix.WithinBudget b) (file : Path)
    (stamp : Stamp) : (ix.parse file stamp).2.WithinBudget b := by
  unfold Index.parse
  split
  · exact h.insert (cache_accept ..) (config_accept ..)
  · exact h.congr (cache_reject ..) rfl

theorem preserved_withinBudget (b : Nat) : Preserved (WithinBudget b) where
  clear h := h.budget ▸ withinBudget_new _
  markReady h := h.congr rfl rfl
  takeTouched h := h.congr rfl rfl
  register file h := by
    unfold Index.register
    split
    · exact h
    · exact h.congr rfl rfl
  refresh {ix} file text version? h := by
    rcases ix.snd_refresh_cases file text version? with heq | heq | heq
    · rwa [heq]
    · rw [heq]
      exact h.materialize file _
    · rw [heq]
      exact h.parse file _
  remove {ix} file h := by
    rw [remove_eq]
    exact ⟨h.valid.remove file,(ix.cache.capacity_remove file).trans h.capacity,
      (congrArg Config.cacheBudget (ix.config_removeEntry file)).trans h.budget⟩
  consult file h := h.consult rfl rfl
  materialize file h := h.materialize file _

/-- With room for it, the class that is asked for is kept and its text is what a search takes. -/
theorem WithinBudget.sought?_materialize {b : Nat} {ix : Index} (h : ix.WithinBudget b)
    (hsound : ix.Sound) {file : Path} {c : Class} (hc : ix.goodClass? file = some c) {t : String}
    (hread : Class.ofString t = .ok c) (hfits : c.byteSize ≤ b) {s : Surroundings} :
    Query.sought? (ix.materialize file (ix.stateOf file)).2 s file = some (.ofString t) := by
  have hkept : ((ix.materialize file (ix.stateOf file)).2.cache.get file).1 = some c := by
    cases hcached : (ix.cache.get file).1 with
    | some c' =>
      rw [materialize_of_cached _ hcached, Cache.get_get, hcached, ← hc,
        hsound.cached file c' hcached]
    | none =>
      obtain ⟨t',ht',hread'⟩ := goodClass?_eq_some hc
      rw [materialize_of_not_cached hcached ht' hread']
      exact Cache.get_insert_self h.valid file (h.capacity ▸ hfits)
  simp [Query.sought?, hkept, Class.document_of_ofDocument hread]

theorem WithinBudget.sought?_materialize_zero {ix : Index} (h : ix.WithinBudget 0)
    (hsound : ix.Sound) {file : Path} {s : Surroundings} {u : String} {version? : Option Int}
    (hopen : s.source.open? file = .ok ⟨u,version?⟩) :
    Query.sought? (ix.materialize file (ix.stateOf file)).2 s file = some (.ofString u) := by
  have hafter := h.materialize file (ix.stateOf file)
  have hnone : ((ix.materialize file (ix.stateOf file)).2.cache.get file).1 = none := by
    cases hc : ((ix.materialize file (ix.stateOf file)).2.cache.get file).1 with
    | none => rfl
    | some c =>
      obtain ⟨t,_,hread⟩ := goodClass?_eq_some ((hsound.materialize file).cached file c hc)
      have hsize := hafter.valid.byteSize_le hc
      have hpos := Class.byteSize_pos hread
      have hcapacity := hafter.capacity
      omega
  simp [Query.sought?, hnone, hopen, Except.toOption]

end Index

/-! ### Histories -/

namespace Operation

/-- An operation that goes through texts is not called off, and goes through those that the index was
last given, with no file behind. -/
def Fits (ix : Index) (s : Surroundings) (op : Operation) : Prop :=
  op.isAboutClasses = true ∨
    s.cancellation = .never ∧ ix.Current s.source ∧ ∀ file, ¬ix.IsBehind file

/-- Each operation fits the index that it is done with. -/
def AllFit : Index → List (Surroundings × Operation) → Prop
  | _, [] => True
  | ix, (s,op) :: steps => Fits ix s op ∧ AllFit (op.query.ask s ix).2 steps

theorem snd_perform_append (ix : Index) (steps later : List (Surroundings × Operation)) :
    (perform ix (steps ++ later)).2 = (perform (perform ix steps).2 later).2 := by
  induction steps generalizing ix with
  | nil => rfl
  | cons x steps ih => exact ih _

open Index (Alike AlikeUpToDate)

theorem Fits.alike {ix jx : Index} {s : Surroundings} {op : Operation} (h : Fits ix s op)
    (hstamped : ix.Stamped) (ha : Alike ix jx) :
    Alike (op.query.ask s ix).2 (op.query.ask s jx).2 := by
  cases hop : op.isAboutClasses with
  | true =>
    have hagree := (Index.kept_alike s).query op fun ht => absurd hop (by simp [ht])
    exact (Query.agree_ask hagree ha).2
  | false =>
    rcases h with hclass | ⟨hnever,hcurrent,hbehind⟩
    · simp [hop] at hclass
    · have k := Index.kept_alikeUpToDate s
      have texts := Index.agree_sourceOf? hnever
      have hup : AlikeUpToDate s.source ix jx :=
        ⟨ha,hcurrent.upToDate ha.sound hstamped hbehind⟩
      cases op with
      | subclasses id => exact (Query.agree_ask ((k.subclasses texts id).map _) hup).2.alike
      | occurrences symbols =>
        exact (Query.agree_ask ((k.findOccurrences texts symbols).map _) hup).2.alike
      | _ => simp [isAboutClasses] at hop

theorem alike_perform {steps : List (Surroundings × Operation)} {ix jx : Index}
    (hfit : AllFit ix steps) (hstamped : ix.Stamped) (ha : Alike ix jx) :
    Alike (perform ix steps).2 (perform jx steps).2 := by
  induction steps generalizing ix jx with
  | nil => exact ha
  | cons x steps ih =>
    exact ih hfit.2 (Index.invariant_stamped.ask x.1 x.2 hstamped) (hfit.1.alike hstamped ha)

end Operation

namespace Index

theorem Alike.trans {ix jx kx : Index} (h : Alike ix jx) (h' : Alike ix kx) : Alike jx kx :=
  ⟨h.core.symm.trans h'.core,h.sound',h'.sound'⟩

theorem snd_ask_classOf {ix : Index} {file : Path} (h : ix.stateOf file ≠ .unparsed)
    (s : Surroundings) :
    ((Operation.classOf file).query.ask s ix).2 = (ix.materialize file (ix.stateOf file)).2 := by
  have hrun := Query.run_classOf?_known (s := s) (a := ⟨ix,0,0⟩) fun hs => absurd hs h
  change ((Query.classOf? file >>= fun c? => pure (Operation.Answer.ofFile c?)).run s ⟨ix,0,0⟩).2.index = _
  rw [Query.run_bind, hrun]
  rfl

theorem IsBehind.exists_texts {ix : Index} {source : Source} {file : Path} (h : ix.IsBehind file)
    (hsound : ix.Sound) (hstamped : ix.Stamped) (hcurrent : ix.Current source) :
    ∃ t c u version?, ix.goodClass? file = some c ∧ Class.ofString t = .ok c ∧
      source.open? file = .ok ⟨u,version?⟩ ∧ t ≠ u := by
  obtain ⟨i?,t,hstate⟩ := h
  obtain ⟨c,hread,_⟩ : (FileState.failed i? (some t)).Grounded := hstate ▸ hsound.grounded file
  rw [stateOf_eq] at hstate
  cases hr : (ix.entryOf file).stamp? with
  | none => simp [(hstamped file).unread hr] at hstate
  | some r =>
    obtain ⟨version?,hopen⟩ := hcurrent.given file r hr
    refine ⟨t,c,r.text,version?,?_,hread,hopen,?_⟩
    · simp [goodClass?, stateOf_eq, hstate, FileState.goodText?, hread, Except.toOption]
    · rintro rfl
      have hsettled := (hstamped file).settled r hr
      simp [FileState.after_ok hread, hstate] at hsettled

theorem IsBehind.exists_known {ix : Index} {f : Path} (h : ix.IsBehind f) :
    ∃ file ∈ ix.knownFiles, ix.IsBehind file := by
  obtain ⟨i?,old,hf⟩ := h
  have hcontains : ix.files.contains f = true := by
    rw [PathMap.contains_eq_isSome]
    cases he : ix.files.get? f with
    | none => simp [stateOf, he] at hf
    | some e => rfl
  obtain ⟨file,hfile,hsame⟩ := PathMap.exists_mem_files hcontains
  exact ⟨file,hfile,i?,old,(ix.stateOf_same hsame).trans hf⟩

/-- Asked for the class of a file that is behind, one cache keeps it and another one cannot. -/
theorem IsBehind.exists_budget {ix : Index} {s : Surroundings} {file : Path} (h : ix.IsBehind file)
    (hfile : file ∈ ix.knownFiles) (hsound : ix.Sound) (hstamped : ix.Stamped)
    (hcurrent : ix.Current s.source) (hready : ix.ready = true) (hnever : s.cancellation = .never) :
    ∃ b, ∀ jx kx, Alike ix jx → jx.WithinBudget b → Alike ix kx → kx.WithinBudget 0 →
      ¬SameTextAnswers s (jx.materialize file (jx.stateOf file)).2
        (kx.materialize file (kx.stateOf file)).2 := by
  obtain ⟨t,c,u,_,hgood,hread,hopen,hne⟩ := h.exists_texts hsound hstamped hcurrent
  have hcore {jx : Index} (ha : Alike ix jx) :
      (jx.materialize file (jx.stateOf file)).2.core = ix.core := by
    rw [core_materialize, ha.core]
  have hready' {jx : Index} (ha : Alike ix jx) :
      (jx.materialize file (jx.stateOf file)).2.ready = true :=
    (congrArg (·.ready) (hcore ha)).trans hready
  have hfile' {jx : Index} (ha : Alike ix jx) :
      file ∈ (jx.materialize file (jx.stateOf file)).2.knownFiles :=
    congrArg (·.knownFiles) (hcore ha) ▸ hfile
  refine ⟨c.byteSize,fun jx kx ha hjx ha' hkx hsame => hne ?_⟩
  have hold : Query.sought? (jx.materialize file (jx.stateOf file)).2 s file = some (.ofString t) :=
    hjx.sought?_materialize ha.sound' (ha.goodClass? file ▸ hgood) hread (Nat.le_refl _)
  have hlive : Query.sought? (kx.materialize file (kx.stateOf file)).2 s file = some (.ofString u) :=
    hkx.sought?_materialize_zero ha'.sound' hopen
  exact hsame.sought_eq hnever (hready' ha) (hready' ha') (hfile' ha) (hfile' ha') hold hlive

end Index

/-- Behind a history, the questions that go through texts are answered the same with all budgets of
the cache, and whatever classes are asked for before, exactly if no file is behind. -/
theorem sameTextAnswers_iff (config : Config) {steps : List (Surroundings × Operation)}
    (hfit : Operation.AllFit (.new config) steps) {s : Surroundings}
    (hnever : s.cancellation = .never) (hready : (perform (.new config) steps).2.ready = true)
    (hcurrent : (perform (.new config) steps).2.Current s.source) :
    let after (b : Nat) (files : List Path) :=
      (perform (.new { config with cacheBudget := b })
        (steps ++ files.map fun f => (s,Operation.classOf f))).2
    (∀ b b' files, SameTextAnswers s (after b files) (after b' files)) ↔
      ∀ file, ¬(perform (.new config) steps).2.IsBehind file := by
  intro after
  generalize hix : (perform (.new config) steps).2 = ix at hready hcurrent
  have hstamped : ix.Stamped :=
    hix ▸ Index.invariant_stamped.perform steps (Index.invariant_stamped.new config)
  let jx (b : Nat) := (perform (.new { config with cacheBudget := b }) steps).2
  have halike (b : Nat) : Index.Alike ix (jx b) :=
    hix ▸ Operation.alike_perform hfit (Index.invariant_stamped.new config)
      ⟨rfl,Index.sound_new _,Index.sound_new _⟩
  have hafter (b : Nat) (files : List Path) :
      after b files = (perform (jx b) (files.map fun f => (s,Operation.classOf f))).2 :=
    Operation.snd_perform_append ..
  constructor
  · intro h f hf
    obtain ⟨file,hfile,hbehind⟩ := hf.exists_known
    obtain ⟨b,hdiffer⟩ :=
      hbehind.exists_budget hfile (halike 0).sound hstamped hcurrent hready hnever
    have hasked (b : Nat) :
        after b [file] = ((jx b).materialize file ((jx b).stateOf file)).2 := by
      refine (hafter b [file]).trans (Index.snd_ask_classOf ?_ s)
      obtain ⟨i?,old,hstate⟩ := hbehind
      rw [← (halike b).stateOf, hstate]
      simp
    have hwithin (b : Nat) : (jx b).WithinBudget b :=
      (Index.preserved_withinBudget b).perform steps
        (Index.withinBudget_new { config with cacheBudget := b })
    refine hdiffer (jx b) (jx 0) (halike b) (hwithin b) (halike 0) (hwithin 0) ?_
    rw [← hasked, ← hasked]
    exact h b 0 [file]
  · intro hbehind b b' files
    rw [hafter, hafter]
    have hup := hcurrent.upToDate (halike b).sound hstamped hbehind
    have hstart : Index.AlikeUpToDate s.source (jx b) (jx b') :=
      ⟨(halike b).trans (halike b'),hup.congr (halike b).files.symm⟩
    refine Index.AlikeUpToDate.sameTextAnswers hnever (Operation.agree_perform ?_ hstart).2
    intro x hx
    obtain ⟨f,_,rfl⟩ := List.mem_map.mp hx
    exact ((Index.kept_alikeUpToDate s).classOf? f).map _

/-- A file that never could be read is not behind. -/
theorem sameTextAnswers_iff_unread :
    let a := Path.ofString "A.smali"
    let b := Path.ofString "B.smali"
    let project := (MemoryProject.empty.put a ⟨"# La;\n",none⟩).put b ⟨".class Lb;\n.super La;\n",none⟩
    let s : Surroundings := ⟨project.source,.never⟩
    let after (budget : Nat) (files : List Path) :=
      (perform (.new { Config.default with cacheBudget := budget })
        ([(s,Operation.load)] ++ files.map fun f => (s,Operation.classOf f))).2
    (after 0 []).stateOf a = .failed none none ∧
      ∀ budget budget' files, SameTextAnswers s (after budget files) (after budget' files) := by
  intro a b project s after
  have hfiles : (perform (.new .default) [(s,Operation.load)]).2.files =
      ((∅ : PathMap FileEntry).insert a ⟨.failed none none,some ⟨none,"# La;\n"⟩⟩).insert b
        ⟨.parsed "Lb;" ".class Lb;\n.super La;\n",some ⟨none,".class Lb;\n.super La;\n"⟩⟩ := by
    decide +kernel
  have hcurrent : (perform (.new .default) [(s,Operation.load)]).2.Current s.source := by
    refine ⟨project.ignoresSpelling,fun file r hr => ?_⟩
    simp only [Index.entryOf, hfiles, PathMap.get?_insert] at hr
    split at hr
    · next hb =>
      cases hr
      exact ⟨none,project.ignoresSpelling b file _ (Path.same_comm file b ▸ hb) rfl⟩
    · split at hr
      · next ha =>
        cases hr
        exact ⟨none,project.ignoresSpelling a file _ (Path.same_comm file a ▸ ha) rfl⟩
      · simp [FileEntry.unread] at hr
  have hfit : Operation.AllFit (.new .default) [(s,.load)] := ⟨.inl rfl,trivial⟩
  have hiff := sameTextAnswers_iff .default hfit (s := s) rfl (by decide +kernel) hcurrent
  refine ⟨by decide +kernel,hiff.mpr fun file => ?_⟩
  rintro ⟨i?,t,hstate⟩
  simp only [Index.stateOf, hfiles, PathMap.get?_insert] at hstate
  split at hstate
  · simp at hstate
  · split at hstate <;> simp at hstate

/-- A file that is behind is searched in its old text, and in its new one where there is no room for
the class. -/
theorem findOccurrences_of_isBehind :
    let a := Path.ofString "A.smali"
    let old : Surroundings :=
      ⟨(MemoryProject.empty.put a ⟨".class La;\n.super Lb;\n",none⟩).source,.never⟩
    let s : Surroundings := ⟨(MemoryProject.empty.put a ⟨"# La;\n",none⟩).source,.never⟩
    let after (config : Config) :=
      (perform (.new config) [(old,Operation.load),(s,.refresh a "# La;\n" none)]).2
    ((Query.findOccurrences ["La;"]).ask s (after .default)).1 =
        some [("La;",[⟨a,.within 0 7 10⟩])] ∧
      ((Query.findOccurrences ["La;"]).ask s (after { Config.default with cacheBudget := 0 })).1 =
        some [("La;",[⟨a,.within 0 2 5⟩])] := by
  decide +kernel

end SmaliNavigator
