import Mathlib.Data.List.Forall2
import SmaliNavigator.Index.Occurrence
import SmaliNavigator.Navigation.Resolve

/-!
When a question has corresponding answers over two indexes.

The two may have files that are written in different ways, and paths that stand for each other are
then all that the answers can agree in. Whole questions are put together from the few steps that look
at an index, so it is those that a relation between indexes has to be checked for.
-/

set_option autoImplicit false

namespace SmaliNavigator

/-- Two questions under way over related indexes. They have come equally far, where that can matter
to when they are called off. -/
structure Activity.Related (R : Index → Index → Prop) (s : Surroundings) (a b : Activity) : Prop where
  index : R a.index b.index
  counts : s.cancellation ≠ .never → a.looks = b.looks ∧ a.reads = b.reads

/-- Things of files whose paths stand for each other. -/
def Path.At {α : Type} (P : Path → Path → Prop) (x y : Path × α) : Prop := P x.1 y.1 ∧ x.2 = y.2

/-- The same declaration, in files whose paths stand for each other. -/
structure Declaration.Like {α : Type} (P : Path → Path → Prop) (d e : Declaration α) : Prop where
  file : P d.file e.file
  owner : d.owner = e.owner
  member : d.member = e.member

theorem Declaration.eq_of_like {α : Type} (d e : Declaration α) (h : d.Like Eq e) : d = e := by
  obtain ⟨f,c,m⟩ := d
  obtain ⟨g,c',m'⟩ := e
  obtain ⟨hfile,howner,hmember⟩ := h
  obtain rfl : f = g := hfile
  obtain rfl : c = c' := howner
  obtain rfl : m = m' := hmember
  rfl

theorem map_snd_eq {α : Type} {P : Path → Path → Prop} {xs ys : List (Path × α)}
    (h : List.Forall₂ (Path.At P) xs ys) : xs.map (·.2) = ys.map (·.2) := by
  induction h with
  | nil => rfl
  | cons hxy _ ih => rw [List.map_cons, List.map_cons, hxy.2, ih]

theorem isEmpty_eq {α : Type} {E : α → α → Prop} {xs ys : List α} (h : List.Forall₂ E xs ys) :
    xs.isEmpty = ys.isEmpty := by
  cases h <;> rfl

namespace Query

variable {α β : Type}

/-- Two answers that correspond, or two questions that wait where that may be. -/
inductive Answered (W : Prop) (E : α → α → Prop) : Option α → Option α → Prop
  | waiting (h : W) : Answered W E none none
  | answer {x y : α} (h : E x y) : Answered W E (some x) (some y)

theorem Answered.imp {W : Prop} {E F : α → α → Prop} {x? y? : Option α} (h : Answered W E x? y?)
    (hE : ∀ x y, E x y → F x y) : Answered W F x? y? := by
  cases h with
  | waiting hw => exact .waiting hw
  | answer hxy => exact .answer (hE _ _ hxy)

theorem answered_eq_iff {x? y? : Option α} : Answered True Eq x? y? ↔ x? = y? := by
  constructor
  · intro h
    cases h with
    | waiting _ => rfl
    | answer hxy => rw [hxy]
  · rintro rfl
    cases x? with
    | none => exact .waiting trivial
    | some x => exact .answer rfl

/-- Over related indexes both questions have corresponding answers, and the indexes stay related. The
second one may come upon the files in another order. -/
def AgreeUpTo (R : Index → Index → Prop) (s : Surroundings) (o : FileOrder) (W : Prop)
    (E : α → α → Prop) (q r : Query α) : Prop :=
  ∀ a b, a.Related R s b → Answered W E (q.run s a).1 (r.run (s.inOrder o) b).1 ∧
    (q.run s a).2.Related R s (r.run (s.inOrder o) b).2

variable {R : Index → Index → Prop} {s : Surroundings} {o : FileOrder} {W : Prop} {E : α → α → Prop}
  {F : β → β → Prop}

namespace AgreeUpTo

theorem pure {x y : α} (h : E x y) : AgreeUpTo R s o W E (Pure.pure x) (Pure.pure y) :=
  fun _ _ hab => ⟨.answer h,hab⟩

theorem failure (h : W) : AgreeUpTo R s o W E (Alternative.failure : Query α) Alternative.failure :=
  fun _ _ hab => ⟨.waiting h,hab⟩

theorem imp {E' : α → α → Prop} {q r : Query α} (h : AgreeUpTo R s o W E q r)
    (hE : ∀ x y, E x y → E' x y) : AgreeUpTo R s o W E' q r :=
  fun a b hab => ⟨(h a b hab).1.imp hE,(h a b hab).2⟩

theorem bind {q r : Query α} {f g : α → Query β} (h : AgreeUpTo R s o W E q r)
    (hf : ∀ x y, E x y → AgreeUpTo R s o W F (f x) (g y)) : AgreeUpTo R s o W F (q >>= f) (r >>= g) := by
  intro a b hab
  obtain ⟨hanswer,hrel⟩ := h a b hab
  rw [run_bind, run_bind]
  rcases hq : q.run s a with ⟨x?,a'⟩
  rcases hr : r.run (s.inOrder o) b with ⟨y?,b'⟩
  rw [hq, hr] at hanswer hrel
  cases hanswer with
  | waiting hw => exact ⟨.waiting hw,hrel⟩
  | answer hxy => exact hf _ _ hxy a' b' hrel

theorem bind_eq {q r : Query α} {f g : α → Query β} (h : AgreeUpTo R s o W Eq q r)
    (hf : ∀ x, AgreeUpTo R s o W F (f x) (g x)) : AgreeUpTo R s o W F (q >>= f) (r >>= g) :=
  h.bind fun x _ hxy => hxy ▸ hf x

theorem map {q r : Query α} {f g : α → β} (h : AgreeUpTo R s o W E q r)
    (hf : ∀ x y, E x y → F (f x) (g y)) : AgreeUpTo R s o W F (f <$> q) (g <$> r) :=
  h.bind fun x y hxy => .pure (hf x y hxy)

theorem map_eq {q r : Query α} (f : α → β) (h : AgreeUpTo R s o W Eq q r) :
    AgreeUpTo R s o W Eq (f <$> q) (f <$> r) :=
  h.map fun _ _ hxy => congrArg f hxy

theorem getIndex {f g : Index → Query β} (h : ∀ ix jx, R ix jx → AgreeUpTo R s o W F (f ix) (g jx)) :
    AgreeUpTo R s o W F (Query.getIndex >>= f) (Query.getIndex >>= g) :=
  fun a b hab => h a.index b.index hab.index a b hab

theorem isCalledOff : AgreeUpTo R s o W Eq Query.isCalledOff Query.isCalledOff := by
  intro a b hab
  refine ⟨.answer ?_,hab.index,fun hs => ⟨congrArg (· + 1) (hab.counts hs).1,(hab.counts hs).2⟩⟩
  change s.cancellation.isCalledOff _ _ = s.cancellation.isCalledOff _ _
  by_cases hs : s.cancellation = .never
  · rw [hs]
    rfl
  · rw [(hab.counts hs).1, (hab.counts hs).2]

theorem ask {q r : Query α} (h : AgreeUpTo R s o W E q r) {ix jx : Index} (hr : R ix jx) :
    Answered W E (q.ask s ix).1 (r.ask (s.inOrder o) jx).1 ∧
      R (q.ask s ix).2 (r.ask (s.inOrder o) jx).2 := by
  obtain ⟨hanswer,hrel⟩ := h ⟨ix,0,0⟩ ⟨jx,0,0⟩ ⟨hr,fun _ => ⟨rfl,rfl⟩⟩
  exact ⟨hanswer,hrel.index⟩

end AgreeUpTo

theorem agreeUpTo_readTexts (texts : ∀ file, AgreeUpTo R s o W Eq (sourceOf? file) (sourceOf? file))
    (files : List Path) :
    AgreeUpTo R s o W Eq (readTexts files) (readTexts files) := by
  induction files with
  | nil => exact .pure rfl
  | cons f fs ih =>
    refine AgreeUpTo.isCalledOff.bind_eq fun called => ?_
    cases called with
    | true => exact .pure rfl
    | false => exact (texts f).bind_eq fun _ => ih.bind_eq fun _ => .pure rfl

/-- A relation that the steps of the questions about classes keep: related indexes know the same
files, and give the same classes, up to the paths `P` that stand for each other. -/
structure KeptUpTo (R : Index → Index → Prop) (s : Surroundings) (o : FileOrder) (W : Prop)
    (P : Path → Path → Prop) : Prop where
  knownFiles : ∀ {ix jx}, R ix jx → ix.knownFiles = jx.knownFiles
  ready : ∀ {ix jx}, R ix jx → ix.ready = jx.ready
  waits : ∀ {ix jx}, R ix jx → ix.ready = false → W
  classOf? : ∀ file, AgreeUpTo R s o W Eq (classOf? file) (classOf? file)
  findClasses : ∀ id, AgreeUpTo R s o W (List.Forall₂ (Path.At P)) (findClasses id) (findClasses id)

namespace KeptUpTo

variable {P : Path → Path → Prop}

section Classes

variable (k : KeptUpTo R s o W P)
include k

theorem size {ix jx : Index} (h : R ix jx) : ix.files.size = jx.files.size := by
  have hlength (m : Index) : m.files.size = m.knownFiles.length := by
    simp [Index.knownFiles, PathMap.files, PathMap.toList, PathMap.size, OrdMap.size, OrdMap.values]
  rw [hlength, hlength, k.knownFiles h]

theorem waitReady : AgreeUpTo R s o W Eq waitReady waitReady := by
  refine .getIndex fun ix jx h => ?_
  have hready := k.ready h
  cases hix : ix.ready with
  | true =>
    rw [← hready, hix]
    exact .pure rfl
  | false =>
    rw [← hready, hix]
    exact .failure (k.waits h hix)

/-! ### Walks up the hierarchy -/

theorem parentsOf (identifier : String) :
    AgreeUpTo R s o W Eq (parentsOf identifier) (parentsOf identifier) := by
  refine (k.findClasses identifier).map fun xs ys h => ?_
  have hclasses := congrArg (List.flatMap Class.parentIdentifiers) (map_snd_eq h)
  simpa [List.flatMap_map] using hclasses

theorem ascend (origin : String) (level chain : List String) :
    AgreeUpTo R s o W Eq (ascend origin level chain) (ascend origin level chain) := by
  induction level generalizing chain with
  | nil => exact .pure rfl
  | cons id level ih =>
    refine AgreeUpTo.isCalledOff.bind_eq fun called => ?_
    cases called with
    | true => exact .pure rfl
    | false => exact (k.parentsOf id).bind_eq fun _ => (ih _).bind_eq fun _ => .pure rfl

theorem ascendAll (origin : String) (fuel : Nat) (level chain : List String) :
    AgreeUpTo R s o W Eq (ascendAll origin fuel level chain) (ascendAll origin fuel level chain) := by
  induction fuel generalizing level chain with
  | zero => exact .pure rfl
  | succ fuel ih =>
    cases level with
    | nil => exact .pure rfl
    | cons id level => exact (k.ascend origin (id :: level) chain).bind_eq fun _ => ih _ _

theorem superclasses (identifier : String) :
    AgreeUpTo R s o W Eq (superclasses identifier) (superclasses identifier) := by
  refine .getIndex fun ix jx h => ?_
  rw [k.size h]
  exact k.ascendAll identifier _ _ _

theorem ancestor (method : Method) (acceptPrivate : Bool) (identifier : String) :
    AgreeUpTo R s o W Eq (ancestor method acceptPrivate identifier)
      (ancestor method acceptPrivate identifier) := by
  refine (k.findClasses identifier).map fun xs ys h => ?_
  rw [map_snd_eq h]

theorem surveyLevel (method : Method) (acceptPrivate : Bool) (level : List String)
    (a : Ancestry) :
    AgreeUpTo R s o W Eq (surveyLevel method acceptPrivate level a)
      (surveyLevel method acceptPrivate level a) := by
  induction level generalizing a with
  | nil => exact .pure rfl
  | cons id level ih =>
    unfold Query.surveyLevel
    split
    · exact ih a
    · refine AgreeUpTo.isCalledOff.bind_eq fun called => ?_
      cases called with
      | true => exact ih a
      | false =>
        exact (k.ancestor method acceptPrivate id).bind_eq fun _ =>
          (ih _).bind_eq fun _ => .pure rfl

theorem survey (method : Method) (acceptPrivate : Bool) (fuel : Nat) (level : List String)
    (a : Ancestry) :
    AgreeUpTo R s o W Eq (survey method acceptPrivate fuel level a)
      (survey method acceptPrivate fuel level a) := by
  induction fuel generalizing level a with
  | zero => exact .pure rfl
  | succ fuel ih =>
    cases level with
    | nil => exact .pure rfl
    | cons id level =>
      exact (k.surveyLevel method acceptPrivate (id :: level) a).bind_eq fun _ => ih _ _

theorem rootDeclarers (identifier : String) (method : Method) (acceptPrivate : Bool) :
    AgreeUpTo R s o W Eq (rootDeclarers identifier method acceptPrivate)
      (rootDeclarers identifier method acceptPrivate) := by
  unfold Query.rootDeclarers
  split
  · refine (k.findClasses identifier).map fun xs ys h => ?_
    have hclasses := congrArg (List.any · (·.declaresMethod method)) (map_snd_eq h)
    simp only [List.any_map] at hclasses
    change (if (xs.any fun x => x.2.declaresMethod method) then _ else _) = _
    rw [show (xs.any fun x => x.2.declaresMethod method) =
      ys.any fun x => x.2.declaresMethod method from hclasses]
  · refine .getIndex fun ix jx h => ?_
    rw [k.size h]
    exact (k.survey method acceptPrivate _ _ _).map_eq _

theorem membersOf {α : Type} (select : Class → List α) (identifier : String) :
    AgreeUpTo R s o W (List.Forall₂ (Declaration.Like P)) (membersOf select identifier)
      (membersOf select identifier) := by
  refine (k.findClasses identifier).map fun xs ys h => ?_
  refine List.rel_flatMap h fun x y hxy => ?_
  obtain ⟨f,c⟩ := x
  obtain ⟨g,d⟩ := y
  obtain ⟨hfile,rfl⟩ : P f g ∧ c = d := hxy
  exact List.rel_map (fun m n (hmn : m = n) => ⟨hfile,rfl,hmn⟩)
    (List.forall₂_same.mpr fun _ _ => rfl)

theorem firstMembers {α : Type} (select : Class → List α) (order : List String) :
    AgreeUpTo R s o W (List.Forall₂ (Declaration.Like P)) (firstMembers select order)
      (firstMembers select order) := by
  induction order with
  | nil => exact .pure .nil
  | cons id ids ih =>
    refine (k.membersOf select id).bind fun found found' h => ?_
    rw [isEmpty_eq h]
    split
    · exact ih
    · exact .pure h

theorem lookupOrder (owner : String) :
    AgreeUpTo R s o W Eq (lookupOrder owner) (lookupOrder owner) :=
  (k.superclasses owner).map_eq _

theorem resolveField (owner : String) (field : Field) :
    AgreeUpTo R s o W (List.Forall₂ (Declaration.Like P)) (resolveField owner field)
      (resolveField owner field) :=
  (k.lookupOrder owner).bind_eq fun _ => k.firstMembers _ _

theorem resolveMethod (owner : String) (method : Method) :
    AgreeUpTo R s o W (List.Forall₂ (Declaration.Like P)) (resolveMethod owner method)
      (resolveMethod owner method) := by
  have horder (order : Query (List String)) (h : AgreeUpTo R s o W Eq order order) :
      AgreeUpTo R s o W (List.Forall₂ (Declaration.Like P))
        (order >>= Query.firstMembers (·.methodsLike method))
        (order >>= Query.firstMembers (·.methodsLike method)) :=
    h.bind_eq fun _ => k.firstMembers _ _
  unfold Query.resolveMethod
  split
  · exact horder _ (.pure rfl)
  · exact horder _ (k.lookupOrder owner)

end Classes

/-! ### Questions about texts -/

section Texts

variable (k : KeptUpTo R s o W P)
  (texts : ∀ file, AgreeUpTo R s o W Eq (sourceOf? file) (sourceOf? file))
include k texts

theorem descend (origin : String) (level : List String) (files : List Path)
    (found : List String) :
    AgreeUpTo R s o W Eq (descend origin level files found) (descend origin level files found) := by
  induction files generalizing found with
  | nil => exact .pure rfl
  | cons f fs ih =>
    refine AgreeUpTo.isCalledOff.bind_eq fun called => ?_
    cases called with
    | true => exact .pure rfl
    | false =>
      refine (texts f).bind_eq fun d? => ?_
      -- what is left to do is the same with a child and without one
      extract_lets rest
      have hrest (child? : Option String) : AgreeUpTo R s o W Eq (rest child?) (rest child?) := by
        dsimp only [rest]
        exact (ih _).bind_eq fun _ => .pure rfl
      cases d? with
      | none => exact hrest none
      | some d =>
        dsimp only
        split
        · refine (k.classOf? f).bind_eq fun c? => ?_
          cases c? with
          | none => exact hrest none
          | some c =>
            dsimp only
            split
            · exact hrest (some c.identifier)
            · exact hrest none
        · exact hrest none

theorem descendAll (origin : String) (fuel : Nat) (level found : List String) :
    AgreeUpTo R s o W Eq (descendAll origin fuel level found)
      (descendAll origin fuel level found) := by
  induction fuel generalizing level found with
  | zero => exact .pure rfl
  | succ fuel ih =>
    cases level with
    | nil => exact .pure rfl
    | cons id level =>
      refine AgreeUpTo.isCalledOff.bind_eq fun called => ?_
      cases called with
      | true => exact .pure rfl
      | false =>
        refine .getIndex fun ix jx h => ?_
        rw [k.knownFiles h]
        exact (k.descend texts origin (id :: level) _ found).bind_eq fun _ => ih _ _

theorem subclasses (identifier : String) :
    AgreeUpTo R s o W Eq (subclasses identifier) (subclasses identifier) := by
  refine k.waitReady.bind_eq fun _ => .getIndex fun ix jx h => ?_
  rw [k.size h]
  exact k.descendAll texts identifier _ _ _

theorem findOccurrences (symbols : List String) :
    AgreeUpTo R s o W Eq (findOccurrences symbols) (findOccurrences symbols) := by
  refine k.waitReady.bind_eq fun _ => .getIndex fun ix jx h => ?_
  rw [k.knownFiles h]
  exact (agreeUpTo_readTexts texts _).map_eq _

end Texts

end KeptUpTo

end Query

end SmaliNavigator
