import SmaliNavigator.Proofs.Index.Declared
import SmaliNavigator.Proofs.Index.Texts
import SmaliNavigator.Proofs.Query.Agreement

/-!
Everything that can be done with an index, and the indexes that this leads to. Each operation comes
with surroundings of its own: files may change from one to the next, and each may be called off.
-/

set_option autoImplicit false

namespace SmaliNavigator

open Query (Agree)

/-- What can be done with an index or asked of it. -/
inductive Operation where
  | register (file : Path)
  | refresh (file : Path) (text : String) (version? : Option Int)
  | remove (file : Path)
  | clear
  | takeTouched
  | load
  | classOf (file : Path)
  | findClasses (identifier : String)
  | superclasses (identifier : String)
  | rootDeclarers (identifier : String) (method : Method) (acceptPrivate : Bool)
  | resolveField (owner : String) (field : Field)
  | resolveMethod (owner : String) (method : Method)
  | subclasses (identifier : String)
  | occurrences (symbols : List String)
  deriving DecidableEq, Repr

namespace Operation

/-- What an operation answers. -/
inductive Answer where
  | done
  | read (result : Except Diagnostic Class)
  | touched (files : List Path)
  | loaded (result : Except Failure Unit)
  | ofFile (c? : Option Class)
  | classes (found : List (Path × Class))
  | identifiers (found : List String)
  | fields (found : List (Declaration Field))
  | methods (found : List (Declaration Method))
  | occurrences (found : Occurrences)

/-- An operation as a question. -/
def query : Operation → Query Answer
  | register f => Query.onIndex fun ix => (.done,ix.register f)
  | refresh f text version? =>
    .read <$> Query.onIndex fun ix => ix.refresh f text version?
  | remove f => Query.onIndex fun ix => (.done,ix.remove f)
  | clear => Query.onIndex fun ix => (.done,ix.clear)
  | takeTouched => do return .touched (← Query.onIndex (@Index.takeTouched (← read).order))
  | load => .loaded <$> Query.loadProject
  | classOf f => .ofFile <$> Query.classOf? f
  | findClasses id => .classes <$> Query.findClasses id
  | superclasses id => .identifiers <$> Query.superclasses id
  | rootDeclarers id m acceptPrivate =>
    .identifiers <$> Query.rootDeclarers id m acceptPrivate
  | resolveField owner f => .fields <$> Query.resolveField owner f
  | resolveMethod owner m => .methods <$> Query.resolveMethod owner m
  | subclasses id => .identifiers <$> Query.subclasses id
  | occurrences symbols => .occurrences <$> Query.findOccurrences symbols

/-- The operations that look at texts only to read them as classes. -/
def isAboutClasses : Operation → Bool
  | subclasses _ | occurrences _ => false
  | _ => true

/-- The operations that go step by step, and may be called off on the way. -/
def isStepwise : Operation → Bool
  | register _ | refresh _ _ _ | remove _ | clear | takeTouched => false
  | _ => true

/-- A relation between indexes that all operations about classes keep. -/
structure Kept (R : Index → Index → Prop) (s : Surroundings) : Prop extends Query.Kept R s where
  refreshText : ∀ {ix jx} file text version?, R ix jx →
    (ix.refresh file text version?).1 = (jx.refresh file text version?).1 ∧
      R (ix.refresh file text version?).2 (jx.refresh file text version?).2
  remove : ∀ {ix jx} file, R ix jx → R (ix.remove file) (jx.remove file)
  clear : ∀ {ix jx}, R ix jx → R ix.clear jx.clear
  takeTouched : ∀ {ix jx}, R ix jx → ix.touched.files = jx.touched.files ∧
    R { ix with touched := ∅ } { jx with touched := ∅ }

variable {R : Index → Index → Prop} {s : Surroundings}

theorem agree_query_of_kept (k : Query.Kept R s) {op : Operation} (hop : op.isStepwise = true)
    (texts : op.isAboutClasses = false →
      ∀ file, Agree R s (Query.sourceOf? file) (Query.sourceOf? file)) :
    Agree R s op.query op.query := by
  unfold Operation.query
  cases op with
  | register f => cases hop
  | refresh f text version? => cases hop
  | remove f => cases hop
  | clear => cases hop
  | takeTouched => cases hop
  | load => exact k.loadProject.map _
  | classOf f => exact (k.classOf? f).map _
  | findClasses id => exact (k.findClasses id).map _
  | superclasses id => exact (k.superclasses id).map _
  | rootDeclarers id m acceptPrivate => exact (k.rootDeclarers id m acceptPrivate).map _
  | resolveField owner f => exact (k.resolveField owner f).map _
  | resolveMethod owner m => exact (k.resolveMethod owner m).map _
  | subclasses id => exact (k.subclasses (texts rfl) id).map _
  | occurrences symbols => exact (k.findOccurrences (texts rfl) symbols).map _

theorem Kept.query (k : Kept R s) (op : Operation) (texts : op.isAboutClasses = false →
      ∀ file, Agree R s (Query.sourceOf? file) (Query.sourceOf? file)) :
    Agree R s op.query op.query := by
  by_cases hop : op.isStepwise = true
  · exact agree_query_of_kept k.toKept hop texts
  · unfold Operation.query
    cases op with
    | register f => exact Query.agree_onIndex fun _ _ h => ⟨rfl,k.register f h⟩
    | refresh f text version? =>
      exact (Query.agree_onIndex fun _ _ h => k.refreshText f text version? h).map _
    | remove f => exact Query.agree_onIndex fun _ _ h => ⟨rfl,k.remove f h⟩
    | clear => exact Query.agree_onIndex fun _ _ h => ⟨rfl,k.clear h⟩
    | takeTouched =>
      refine Query.agree_read ((Query.agree_onIndex fun _ _ h => ?_).bind fun _ => .pure _)
      obtain ⟨hfiles,hnext⟩ := k.takeTouched h
      exact ⟨congrArg s.order.arrange hfiles,hnext⟩
    | _ => exact absurd rfl hop

/-- The answers of operations that are done one after the other, and the index behind them. -/
def perform (ix : Index) : List (Surroundings × Operation) → List (Option Answer) × Index
  | [] => ([],ix)
  | (s,op) :: steps =>
    let (answer,ix) := op.query.ask s ix
    let (answers,ix) := perform ix steps
    (answer :: answers,ix)

theorem agree_perform {steps : List (Surroundings × Operation)}
    (h : ∀ x ∈ steps, Agree R x.1 x.2.query x.2.query) {ix jx : Index} (hr : R ix jx) :
    (perform ix steps).1 = (perform jx steps).1 ∧ R (perform ix steps).2 (perform jx steps).2 := by
  induction steps generalizing ix jx with
  | nil => exact ⟨rfl,hr⟩
  | cons x steps ih =>
    obtain ⟨hanswer,hnext⟩ := Query.agree_ask (h x (by simp)) hr
    obtain ⟨hanswers,hlast⟩ := ih (fun y hy => h y (by simp [hy])) hnext
    exact ⟨by simp [perform, hanswer, hanswers],hlast⟩

end Operation

namespace Index

/-- The indexes that operations lead to. -/
inductive Reachable : Index → Prop
  | new (config : Config) : Reachable (.new config)
  | step {ix : Index} (s : Surroundings) (op : Operation) (h : Reachable ix) :
    Reachable (op.query.ask s ix).2

end Index

/-! ### The class of a file -/

/-- A file is read from the text that it has now. -/
def Index.readLive (ix : Index) (file : Path) : Except Failure LiveText → Option Class × Index
  | .error _ => (none,ix)
  | .ok live =>
    ((ix.refresh file live.text live.version?).1.toOption,
      (ix.refresh file live.text live.version?).2)

namespace Query

theorem run_cached? (file : Path) (s : Surroundings) (a : Activity) :
    (cached? file).run s a = (some (a.index.cache.get file).1,
      { a with index := { a.index with cache := (a.index.cache.get file).2 } }) := rfl

theorem run_getIndex (s : Surroundings) (a : Activity) : getIndex.run s a = (some a.index,a) := rfl

theorem run_arrangedUnparsed (s : Surroundings) (a : Activity) :
    arrangedUnparsed.run s a = (some (s.order.arrange (unparsedFiles a.index)),a) := rfl

theorem run_waitReady {s : Surroundings} {a : Activity} (h : a.index.ready = true) :
    waitReady.run s a = (some (),a) := by
  unfold waitReady
  rw [run_bind, run_getIndex]
  dsimp only
  rw [h]
  rfl

theorem run_waitReady_waiting {s : Surroundings} {a : Activity} (h : a.index.ready = false) :
    waitReady.run s a = (none,a) := by
  unfold waitReady
  rw [run_bind, run_getIndex]
  dsimp only
  rw [h]
  rfl

theorem run_openFile (file : Path) (s : Surroundings) (a : Activity) :
    (openFile file).run s a = (some (s.source.open? file),{ a with reads := a.reads + 1 }) := rfl

theorem run_isCalledOff (s : Surroundings) (a : Activity) :
    isCalledOff.run s a =
      (some (s.cancellation.isCalledOff a.looks a.reads),{ a with looks := a.looks + 1 }) := rfl

theorem run_isCalledOff_never {s : Surroundings} (h : s.cancellation = .never) (a : Activity) :
    isCalledOff.run s a = (some false,{ a with looks := a.looks + 1 }) := by
  rw [run_isCalledOff, h]
  rfl

theorem run_classOf?_unread {file : Path} {s : Surroundings} {a : Activity}
    (hs : a.index.stateOf file = .unparsed) (hc : (a.index.cache.get file).1 = none) :
    (classOf? file).run s a =
      (some (a.index.readLive file (s.source.open? file)).1,
        ⟨(a.index.readLive file (s.source.open? file)).2,a.looks,a.reads + 1⟩) := by
  have hsame : { a.index with cache := (a.index.cache.get file).2 } = a.index := by
    rw [Cache.get_of_none hc]
  unfold classOf?
  rw [run_bind, run_cached?, hc]
  dsimp only
  rw [hsame, run_bind, run_getIndex]
  unfold Index.stateOf at hs
  cases he : a.index.files.get? file with
  | none =>
    simp only [he, Option.map_none]
    rw [run_bind, run_openFile]
    cases s.source.open? file <;> rfl
  | some e =>
    have hstate : e.state = .unparsed := by simpa [he] using hs
    simp only [he, Option.map_some, hstate]
    rw [run_bind, run_openFile]
    cases s.source.open? file <;> rfl

theorem run_classOf?_known {file : Path} {s : Surroundings} {a : Activity}
    (h : a.index.stateOf file = .unparsed → (a.index.cache.get file).1 ≠ none) :
    (classOf? file).run s a =
      (some (a.index.materialize file (a.index.stateOf file)).1,
        { a with index := (a.index.materialize file (a.index.stateOf file)).2 }) := by
  unfold classOf?
  rw [run_bind, run_cached?]
  cases hc : (a.index.cache.get file).1 with
  | some c =>
    rw [Index.materialize_of_cached _ hc]
    rfl
  | none =>
    have hsame : { a.index with cache := (a.index.cache.get file).2 } = a.index := by
      rw [Cache.get_of_none hc]
    have hread : a.index.stateOf file ≠ .unparsed := fun hs => h hs hc
    dsimp only
    rw [hsame, run_bind, run_getIndex]
    unfold Index.stateOf at hread ⊢
    cases he : a.index.files.get? file with
    | none => simp [he] at hread
    | some e =>
      cases hs : e.state with
      | unparsed => simp [he, hs] at hread
      | parsed i t =>
        simp only [he, Option.map_some, Option.getD_some, hs]
        rfl
      | failed i t =>
        simp only [he, Option.map_some, Option.getD_some, hs]
        rfl

theorem run_classOf?_blind (file : Path) (s : Surroundings) (a b : Activity)
    (h : a.index = b.index) :
    ((classOf? file).run s a).1 = ((classOf? file).run s b).1 ∧
      ((classOf? file).run s a).2.index = ((classOf? file).run s b).2.index := by
  by_cases hread : a.index.stateOf file = .unparsed ∧ (a.index.cache.get file).1 = none
  · rw [run_classOf?_unread hread.1 hread.2, run_classOf?_unread (h ▸ hread.1) (h ▸ hread.2), h]
    exact ⟨rfl,rfl⟩
  · rw [run_classOf?_known fun hs hc => hread ⟨hs,hc⟩,
      run_classOf?_known (a := b) fun hs hc => hread ⟨h ▸ hs,h ▸ hc⟩, h]
    exact ⟨rfl,rfl⟩

end Query

/-! ### Invariants -/

namespace Index

/-- A property that every step of an index keeps. -/
structure Preserved (P : Index → Prop) : Prop where
  clear : ∀ {ix}, P ix → P ix.clear
  markReady : ∀ {ix}, P ix → P ix.markReady
  takeTouched : ∀ {ix}, P ix → P { ix with touched := ∅ }
  register : ∀ {ix} file, P ix → P (ix.register file)
  refresh : ∀ {ix} file text version?, P ix → P (ix.refresh file text version?).2
  remove : ∀ {ix} file, P ix → P (ix.remove file)
  consult : ∀ {ix} file, P ix → P { ix with cache := (ix.cache.get file).2 }
  materialize : ∀ {ix} file, P ix → P (ix.materialize file (ix.stateOf file)).2

/-- A property that the steps of questions keep. -/
structure Lasting (P : Index → Prop) : Prop where
  markReady : ∀ {ix}, P ix → P ix.markReady
  register : ∀ {ix} file, P ix → P (ix.register file)
  refresh : ∀ {ix} file text version?, P ix → P (ix.refresh file text version?).2
  consult : ∀ {ix} file, P ix → P { ix with cache := (ix.cache.get file).2 }
  materialize : ∀ {ix} file, P ix → P (ix.materialize file (ix.stateOf file)).2

/-- A property that new indexes have and every step keeps. -/
structure Invariant (P : Index → Prop) : Prop extends Preserved P where
  new : ∀ config, P (.new config)
  clear _ := new _

/-- Twice the same index, with a property. -/
def Twice (P : Index → Prop) (ix jx : Index) : Prop := ix = jx ∧ P ix

/-- A question that takes no notice of how far it has come keeps a property if it does so in every
single run. -/
theorem agree_twice {α : Type} {P : Index → Prop} {s : Surroundings} {q : Query α}
    (hblind : ∀ a b, a.index = b.index →
      (q.run s a).1 = (q.run s b).1 ∧ (q.run s a).2.index = (q.run s b).2.index)
    (h : ∀ a, P a.index → P (q.run s a).2.index) : Agree (Twice P) s q q := by
  rintro a b ⟨⟨heq,hp⟩,hcounts⟩
  obtain ⟨hanswer,hindex⟩ := hblind a b heq
  refine ⟨hanswer,⟨hindex,h a hp⟩,fun hs => ?_⟩
  obtain ⟨hlooks,hreads⟩ := hcounts hs
  obtain rfl : a = b := by
    cases a
    cases b
    simp_all
  exact ⟨rfl,rfl⟩

namespace Lasting

variable {P : Index → Prop} (inv : Lasting P)
include inv

theorem readLive {ix : Index} (file : Path) (live? : Except Failure LiveText) (h : P ix) :
    P (ix.readLive file live?).2 := by
  cases live? with
  | error _ => exact h
  | ok live => exact inv.refresh file live.text live.version? h

theorem classOf? (s : Surroundings) (file : Path) :
    Agree (Twice P) s (Query.classOf? file) (Query.classOf? file) := by
  refine agree_twice (Query.run_classOf?_blind file s) fun a hp => ?_
  by_cases h : a.index.stateOf file = .unparsed ∧ (a.index.cache.get file).1 = none
  · rw [Query.run_classOf?_unread h.1 h.2]
    exact inv.readLive file _ hp
  · rw [Query.run_classOf?_known fun hs hc => h ⟨hs,hc⟩]
    exact inv.materialize file hp

theorem sourceOf? (s : Surroundings) (file : Path) :
    Agree (Twice P) s (Query.sourceOf? file) (Query.sourceOf? file) := by
  have hcached : Agree (Twice P) s (Query.cached? file) (Query.cached? file) :=
    agree_twice (fun _ _ h => by simp only [Query.run_cached?, h]; trivial)
      fun a hp => inv.consult file hp
  refine hcached.bind fun c? => ?_
  cases c? with
  | some c => exact .pure _
  | none =>
    refine Query.agree_openFile ?_
    cases s.source.open? file with
    | error _ => exact .pure _
    | ok live => exact .pure _

theorem kept (s : Surroundings) : Query.Kept (Twice P) s where
  files h := by rw [h.1]
  declaring h := by rw [h.1]
  ready h := by rw [h.1]
  preload h := by rw [h.1]
  markReady h := ⟨by rw [h.1],inv.markReady h.2⟩
  register file h := ⟨by rw [h.1],inv.register file h.2⟩
  refresh file live _ h := ⟨by rw [h.1],inv.refresh file live.text live.version? h.2⟩
  classOf? := inv.classOf? s

theorem ask {ix : Index} (s : Surroundings) {op : Operation} (hop : op.isStepwise = true) (h : P ix) :
    P (op.query.ask s ix).2 := by
  have hagree := Operation.agree_query_of_kept (inv.kept s) hop fun _ => inv.sourceOf? s
  obtain ⟨_,_,hp⟩ := Query.agree_ask hagree ⟨rfl,h⟩
  exact hp

end Lasting

namespace Preserved

variable {P : Index → Prop} (inv : Preserved P)
include inv

theorem lasting : Lasting P :=
  ⟨inv.markReady,inv.register,inv.refresh,inv.consult,inv.materialize⟩

theorem kept (s : Surroundings) : Operation.Kept (Twice P) s where
  toKept := inv.lasting.kept s
  refreshText file text version? h :=
    ⟨by rw [h.1],by rw [h.1],inv.refresh file text version? h.2⟩
  remove file h := ⟨by rw [h.1],inv.remove file h.2⟩
  clear h := ⟨by rw [h.1],inv.clear h.2⟩
  takeTouched h := ⟨by rw [h.1],by rw [h.1],inv.takeTouched h.2⟩

theorem query (s : Surroundings) (op : Operation) : Agree (Twice P) s op.query op.query :=
  (inv.kept s).query op fun _ => inv.lasting.sourceOf? s

theorem ask {ix : Index} (s : Surroundings) (op : Operation) (h : P ix) :
    P (op.query.ask s ix).2 := by
  obtain ⟨_,_,hp⟩ := Query.agree_ask (inv.query s op) ⟨rfl,h⟩
  exact hp

theorem perform (steps : List (Surroundings × Operation)) {ix : Index} (h : P ix) :
    P (Operation.perform ix steps).2 := by
  induction steps generalizing ix with
  | nil => exact h
  | cons x steps ih => exact ih (inv.ask x.1 x.2 h)

end Preserved

theorem Invariant.of_reachable {P : Index → Prop} (inv : Invariant P) {ix : Index}
    (h : Reachable ix) : P ix := by
  induction h with
  | new config => exact inv.new config
  | step s op _ ih => exact inv.ask s op ih

theorem invariant_mapped : Invariant Mapped where
  new := mapped_new
  markReady h := h.congr rfl rfl
  takeTouched h := h.congr rfl rfl
  register file h := h.register file
  refresh file text version? h := h.refresh file text version?
  remove file h := h.remove file
  consult _ h := h.congr rfl rfl
  materialize file h := h.materialize file _

theorem invariant_sound : Invariant Sound where
  new := sound_new
  markReady h := h.congr rfl fun _ => rfl
  takeTouched h := h.congr rfl fun _ => rfl
  register file h := h.register file
  refresh file text version? h := h.refresh file text version?
  remove file h := h.remove file
  consult file h := h.consult file
  materialize file h := h.materialize file

/-! ### The two maps of a reachable index -/

/-- A file is listed under a class exactly if its entry carries it, by the text that it has or by an
earlier one that could be read. No class is listed without a file and no file under two classes, and
the classes that are listed are those that some known file declares. -/
theorem declares_iff_of_reachable {ix : Index} (h : Reachable ix) :
    (∀ identifier file, ix.declares identifier file = true ↔
      ∃ e, ix.files.get? file = some e ∧ e.state.identifier? = some identifier) ∧
    (∀ file e identifier, ix.files.get? file = some e → e.state.identifier? = some identifier →
      ∃ text c, Class.ofString text = .ok c ∧ c.identifier = identifier ∧
        (e.state = .parsed identifier text ∨ e.state = .failed (some identifier) (some text))) ∧
    (∀ identifier files, ix.declaring.get? identifier = some files → files.isEmpty = false) ∧
    (∀ i j file, ix.declares i file = true → ix.declares j file = true → i = j) ∧
    (∀ identifier, identifier ∈ ix.identifiers ↔
      ∃ f ∈ ix.knownFiles, ix.identifierOf? f = some identifier) := by
  have hm := invariant_mapped.of_reachable h
  have hs := invariant_sound.of_reachable h
  refine ⟨fun identifier file => ?_,fun file e identifier he hi => ?_,hm.noneEmpty,
    fun i j file hi hj => ?_,mem_identifiers_iff hm⟩
  · rw [hm.declares_iff, identifierOf?, Option.bind_eq_some_iff]
  · have hg := hs.grounded file
    rw [show ix.stateOf file = e.state by simp [stateOf, he]] at hg
    exact hg.of_identifier? hi
  · rw [hm.declares_iff] at hi hj
    exact Option.some.inj (hi.symm.trans hj)

/-- A file that could be read once and then no more is still listed under its class. -/
theorem declares_iff_of_reachable_failed :
    let s : Surroundings := ⟨MemoryProject.empty.source,.never⟩
    let read := Operation.refresh (.ofString "A.smali") ".class La;\n.super Lb;\n" (some 1)
    let broken := Operation.refresh (.ofString "A.smali") ".class La;\n.super" (some 2)
    let ix := (broken.query.ask s (read.query.ask s (.new .default)).2).2
    Reachable ix ∧ ∃ e, ix.files.get? (.ofString "A.smali") = some e ∧ e.state.identifier? = some "La;" := by
  intro s read broken ix
  have h : Reachable ix := .step s broken (.step s read (.new .default))
  exact ⟨h,((declares_iff_of_reachable h).1 "La;" (.ofString "A.smali")).mp (by decide +kernel)⟩

end Index

end SmaliNavigator
