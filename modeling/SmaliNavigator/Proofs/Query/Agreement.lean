import SmaliNavigator.Proofs.Query.Correspondence

/-!
When a question has the same answer over two indexes.

Two questions agree over a relation between indexes when they answer the same from related indexes
and leave related ones. Whole questions are put together from the few steps that look at an index, so
it is those that a relation has to be checked for.
-/

set_option autoImplicit false

namespace SmaliNavigator

namespace Query

variable {α β : Type}

/-- Over related indexes both questions have the same answer, and the indexes stay related. -/
def Agree (R : Index → Index → Prop) (s : Surroundings) (q r : Query α) : Prop :=
  ∀ a b, a.Related R s b → (q.run s a).1 = (r.run s b).1 ∧ (q.run s a).2.Related R s (r.run s b).2

variable {R : Index → Index → Prop} {s : Surroundings}

theorem Agree.pure (x : α) : Agree R s (Pure.pure x) (Pure.pure x) :=
  fun _ _ h => ⟨rfl,h⟩

theorem Agree.failure : Agree R s (Alternative.failure : Query α) Alternative.failure :=
  fun _ _ h => ⟨rfl,h⟩

theorem Agree.bind {q r : Query α} {f g : α → Query β} (h : Agree R s q r)
    (hf : ∀ x, Agree R s (f x) (g x)) : Agree R s (q >>= f) (r >>= g) := by
  intro a b hab
  obtain ⟨hanswer,hrel⟩ := h a b hab
  rw [run_bind, run_bind]
  rcases hq : q.run s a with ⟨_ | x,a'⟩ <;> rcases hr : r.run s b with ⟨_ | y,b'⟩ <;>
    simp only [hq, hr, Option.some.injEq, reduceCtorEq] at hanswer hrel ⊢
  · exact ⟨trivial,hrel⟩
  · subst hanswer
    exact hf x a' b' hrel

theorem Agree.map {q r : Query α} (f : α → β) (h : Agree R s q r) :
    Agree R s (f <$> q) (f <$> r) :=
  h.bind fun x => .pure (f x)

/-! ### The steps that look at an index or at the surroundings -/

/-- What is asked of the index next may depend on it, as far as related indexes go the same way. -/
theorem agree_getIndex {f g : Index → Query β}
    (h : ∀ ix jx, R ix jx → Agree R s (f ix) (g jx)) :
    Agree R s (getIndex >>= f) (getIndex >>= g) :=
  fun a b hab => h a.index b.index hab.index a b hab

theorem agree_onIndex {f g : Index → α × Index}
    (h : ∀ ix jx, R ix jx → (f ix).1 = (g jx).1 ∧ R (f ix).2 (g jx).2) :
    Agree R s (onIndex f) (onIndex g) :=
  fun _ _ hab => ⟨congrArg some (h _ _ hab.index).1,(h _ _ hab.index).2,hab.counts⟩

theorem agree_onIndex_then {f g : Index → α × Index} {q r : Query β}
    (h : ∀ ix jx, R ix jx → R (f ix).2 (g jx).2) (hq : Agree R s q r) :
    Agree R s (onIndex f >>= fun _ => q) (onIndex g >>= fun _ => r) :=
  fun _ _ hab => hq _ _ ⟨h _ _ hab.index,hab.counts⟩

theorem agree_isCalledOff : Agree R s isCalledOff isCalledOff := by
  intro a b hab
  refine ⟨?_,hab.index,fun hs => ⟨congrArg (· + 1) (hab.counts hs).1,(hab.counts hs).2⟩⟩
  change some (s.cancellation.isCalledOff _ _) = some (s.cancellation.isCalledOff _ _)
  by_cases hs : s.cancellation = .never
  · rw [hs]
    rfl
  · rw [(hab.counts hs).1, (hab.counts hs).2]

/-- What is done with a file that was opened need only agree on the text that the file has. -/
theorem agree_openFile {file : Path} {f g : Except Failure LiveText → Query β}
    (h : Agree R s (f (s.source.open? file)) (g (s.source.open? file))) :
    Agree R s (openFile file >>= f) (openFile file >>= g) :=
  fun _ _ hab => h _ _ ⟨hab.index,fun hs => ⟨(hab.counts hs).1,congrArg (· + 1) (hab.counts hs).2⟩⟩

theorem agree_read {f g : Surroundings → Query β} (h : Agree R s (f s) (g s)) :
    Agree R s (MonadReader.read >>= f) (MonadReader.read >>= g) :=
  fun a b hab => h a b hab

theorem agree_ask {q r : Query α} (h : Agree R s q r) {ix jx : Index} (hr : R ix jx) :
    (q.ask s ix).1 = (r.ask s jx).1 ∧ R (q.ask s ix).2 (r.ask s jx).2 := by
  obtain ⟨hanswer,hrel⟩ := h ⟨ix,0,0⟩ ⟨jx,0,0⟩ ⟨hr,fun _ => ⟨rfl,rfl⟩⟩
  exact ⟨hanswer,hrel.index⟩

/-! ### Questions about classes -/

/-- A relation that the steps of the questions about classes keep: related indexes know the same
files and declarations, and give the same classes. -/
structure Kept (R : Index → Index → Prop) (s : Surroundings) : Prop where
  files : ∀ {ix jx}, R ix jx → ix.files = jx.files
  declaring : ∀ {ix jx}, R ix jx → ix.declaring = jx.declaring
  ready : ∀ {ix jx}, R ix jx → ix.ready = jx.ready
  preload : ∀ {ix jx}, R ix jx → ix.config.preload = jx.config.preload
  markReady : ∀ {ix jx}, R ix jx → R ix.markReady jx.markReady
  register : ∀ {ix jx} file, R ix jx → R (ix.register file) (jx.register file)
  refresh : ∀ {ix jx} file live, s.source.open? file = .ok live → R ix jx →
    R (ix.refresh file live.text live.version?).2 (jx.refresh file live.text live.version?).2
  classOf? : ∀ file, Agree R s (classOf? file) (classOf? file)

section Classes

variable (k : Kept R s)
include k

theorem Kept.waitReady : Agree R s waitReady waitReady := by
  refine agree_getIndex fun ix jx h => ?_
  rw [k.ready h]
  cases jx.ready with
  | true => exact .pure ()
  | false => exact .failure

theorem Kept.declaredIn? (identifier : String) (file : Path) :
    Agree R s (declaredIn? identifier file) (declaredIn? identifier file) := by
  refine (k.classOf? file).bind fun c? => ?_
  cases c? with
  | none => exact .pure _
  | some c => exact .pure _

theorem Kept.declaredAmong (identifier : String) (files : List Path) :
    Agree R s (declaredAmong identifier files) (declaredAmong identifier files) := by
  induction files with
  | nil => exact .pure _
  | cons f fs ih => exact (k.declaredIn? identifier f).bind fun _ => ih.bind fun _ => .pure _

theorem Kept.searchAmong (identifier : String) (files : List Path) :
    Agree R s (searchAmong identifier files) (searchAmong identifier files) := by
  induction files with
  | nil => exact .pure _
  | cons f fs ih =>
    refine agree_isCalledOff.bind fun called => ?_
    cases called with
    | true => exact .pure _
    | false => exact (k.declaredIn? identifier f).bind fun _ => ih.bind fun _ => .pure _

theorem Kept.arrangedUnparsed : Agree R s arrangedUnparsed arrangedUnparsed := by
  refine agree_getIndex fun ix jx h => agree_read ?_
  rw [show unparsedFiles ix = unparsedFiles jx by simp [unparsedFiles, k.files h]]
  exact .pure _

theorem Kept.findClasses (identifier : String) :
    Agree R s (findClasses identifier) (findClasses identifier) := by
  refine k.waitReady.bind fun _ => agree_getIndex fun ix jx h => ?_
  rw [show ix.declarers identifier = jx.declarers identifier by
    simp [Index.declarers, k.declaring h]]
  refine (k.declaredAmong identifier _).bind fun mapped => k.arrangedUnparsed.bind fun unparsed => ?_
  refine (k.searchAmong identifier _).bind fun likely => ?_
  dsimp only
  split
  · exact k.searchAmong identifier _
  · exact .pure _

theorem Kept.loadFiles (files : List Path) : Agree R s (loadFiles files) (loadFiles files) := by
  induction files with
  | nil => exact .pure _
  | cons f fs ih =>
    refine agree_isCalledOff.bind fun called => ?_
    cases called with
    | true => exact .pure _
    | false =>
      have hregister : Agree R s
          (onIndex (fun ix => ((),ix.register f)) >>= fun _ => Query.loadFiles fs)
          (onIndex (fun ix => ((),ix.register f)) >>= fun _ => Query.loadFiles fs) :=
        agree_onIndex_then (fun _ _ h => k.register f h) ih
      refine agree_getIndex fun ix jx h => ?_
      rw [k.preload h]
      cases jx.config.preload with
      | false => exact hregister
      | true =>
        refine agree_openFile ?_
        cases hopen : s.source.open? f with
        | error e => exact hregister
        | ok live => exact agree_onIndex_then (fun _ _ h => k.refresh f live hopen h) ih

theorem Kept.loadProject : Agree R s loadProject loadProject := by
  have hready (x : Except Failure Unit) :
      Agree R s (onIndex (fun ix => ((),ix.markReady)) >>= fun _ => Pure.pure x)
        (onIndex (fun ix => ((),ix.markReady)) >>= fun _ => Pure.pure x) :=
    agree_onIndex_then (fun _ _ h => k.markReady h) (.pure x)
  refine agree_read ?_
  cases s.source.list with
  | error e => exact hready (.error e)
  | ok files => exact (k.loadFiles files).bind fun _ => hready (.ok ())

end Classes

/-! ### The exact case of answers that correspond -/

theorem agree_iff {q r : Query α} : Agree R s q r ↔ AgreeUpTo R s s.order True Eq q r :=
  forall_congr' fun _ => forall_congr' fun _ => imp_congr_right fun _ =>
    and_congr_left fun _ => answered_eq_iff.symm

theorem AgreeUpTo.agree {E : α → α → Prop} {q r : Query α} (h : AgreeUpTo R s s.order True E q r)
    (hE : ∀ x y, E x y → x = y) : Agree R s q r :=
  agree_iff.mpr (h.imp hE)

theorem eq_of_forall₂ {E : α → α → Prop} (hE : ∀ x y, E x y → x = y) (xs ys : List α)
    (h : List.Forall₂ E xs ys) : xs = ys := by
  have hall : List.Forall₂ Eq xs ys := h.imp hE
  rwa [List.forall₂_eq_eq_eq] at hall

theorem Kept.upTo (k : Kept R s) : KeptUpTo R s s.order True Eq where
  knownFiles h := by simp [Index.knownFiles, k.files h]
  ready := k.ready
  waits _ _ := trivial
  classOf? file := agree_iff.mp (k.classOf? file)
  findClasses id := by
    refine (agree_iff.mp (k.findClasses id)).imp fun xs ys h => ?_
    rw [h]
    exact List.forall₂_same.mpr fun _ _ => ⟨rfl,rfl⟩

section Exact

variable (k : Kept R s)
include k

theorem Kept.superclasses (identifier : String) :
    Agree R s (superclasses identifier) (superclasses identifier) :=
  agree_iff.mpr (k.upTo.superclasses identifier)

theorem Kept.rootDeclarers (identifier : String) (method : Method) (acceptPrivate : Bool) :
    Agree R s (rootDeclarers identifier method acceptPrivate)
      (rootDeclarers identifier method acceptPrivate) :=
  agree_iff.mpr (k.upTo.rootDeclarers identifier method acceptPrivate)

theorem Kept.resolveField (owner : String) (field : Field) :
    Agree R s (resolveField owner field) (resolveField owner field) :=
  (k.upTo.resolveField owner field).agree (eq_of_forall₂ Declaration.eq_of_like)

theorem Kept.resolveMethod (owner : String) (method : Method) :
    Agree R s (resolveMethod owner method) (resolveMethod owner method) :=
  (k.upTo.resolveMethod owner method).agree (eq_of_forall₂ Declaration.eq_of_like)

variable (texts : ∀ file, Agree R s (sourceOf? file) (sourceOf? file))
include texts

theorem Kept.subclasses (identifier : String) :
    Agree R s (subclasses identifier) (subclasses identifier) :=
  agree_iff.mpr (k.upTo.subclasses (fun file => agree_iff.mp (texts file)) identifier)

theorem Kept.findOccurrences (symbols : List String) :
    Agree R s (findOccurrences symbols) (findOccurrences symbols) :=
  agree_iff.mpr (k.upTo.findOccurrences (fun file => agree_iff.mp (texts file)) symbols)

end Exact

end Query

end SmaliNavigator
