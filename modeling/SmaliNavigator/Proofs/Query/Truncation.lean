import Mathlib.Data.List.Infix
import SmaliNavigator.Proofs.Index.Levels
import SmaliNavigator.Proofs.Index.Loading

/-!
What a question that is called off answers. Up to its next look it goes on as if it were not called
off, and from then on every part of it answers at once with what it was given. So its answer is related
to that of the whole question, for walks as the beginning of a list to the list.

Only what is left to do after a part that was cut short has to be looked at twice: with the shorter
answer it is called off from its start, and with the longer one it is not called off at all.
-/

set_option autoImplicit false

namespace SmaliNavigator

/-- The same project, and nothing is called off. -/
def Surroundings.uninterrupted (s : Surroundings) : Surroundings := { s with cancellation := .never }

/-- A question under way that finds itself called off when it looks the next time. -/
def Activity.IsCalledOff (s : Surroundings) (a : Activity) : Prop :=
  s.cancellation.isCalledOff a.looks a.reads = true

/-- What is called off at a read stays so, because files that were read stay read. -/
theorem Cancellation.stays_atRead (n : Nat) : (atRead n).Stays := by
  intro _ _ _ _ _ hreads hcalled
  exact decide_eq_true ((of_decide_eq_true hcalled).trans hreads)

namespace Query

variable {α β : Type} {s : Surroundings} {E : α → α → Prop} {F : β → β → Prop}
  {q : Query α} {f : α → Query β} {x : α} {z : α → β}

/-- Called off from its start a question answers `x`. -/
def Ceases (s : Surroundings) (x : α) (q : Query α) : Prop :=
  ∀ a : Activity, a.IsCalledOff s → ∃ b, q.run s a = (some x,b) ∧ b.IsCalledOff s

/-- Over a loaded index a question that is not called off has an answer of some kind. -/
def Completes (s : Surroundings) (P : α → Prop) (q : Query α) : Prop :=
  ∀ a : Activity, a.index.ready = true →
    ∃ y c, q.run s.uninterrupted a = (some y,c) ∧ c.index.ready = true ∧ P y

/-- Over a loaded index a question is answered. Either it has not been called off so far, or its answer
is related to that of the whole question. -/
def Truncates (s : Surroundings) (E : α → α → Prop) (q : Query α) : Prop :=
  ∀ a : Activity, a.index.ready = true → ∃ x b y c,
    q.run s a = (some x,b) ∧ q.run s.uninterrupted a = (some y,c) ∧ c.index.ready = true ∧
      (x = y ∧ b = c ∨ b.IsCalledOff s ∧ E x y)

/-- A question that never looks whether it is called off. -/
def Steady (s : Surroundings) (q : Query α) : Prop := Truncates s (fun _ _ => False) q

/-- A question that has the answer `x` already, and only adds to it. -/
structure Extends (s : Surroundings) (x : α) (E : α → α → Prop) (q : Query α) : Prop where
  completes : Completes s (E x) q
  truncates : Truncates s E q

/-- A question that answers with what it has already as soon as it is called off. -/
structure Interruptible (s : Surroundings) (x : α) (E : α → α → Prop) (q : Query α) : Prop extends
    Extends s x E q where
  ceases : Ceases s x q

/-! ### One question behind the other -/

theorem Completes.mono {P Q : α → Prop} (h : Completes s P q) (hPQ : ∀ y, P y → Q y) :
    Completes s Q q := fun a ha =>
  have ⟨y,c,hrun,hc,hy⟩ := h a ha
  ⟨y,c,hrun,hc,hPQ y hy⟩

theorem Ceases.bind {y : β} (h : Ceases s x q) (hf : Ceases s y (f x)) : Ceases s y (q >>= f) := by
  intro a ha
  obtain ⟨b,hrun,hb⟩ := h a ha
  rw [run_bind, hrun]
  exact hf b hb

theorem Completes.bind {P : α → Prop} {Q : β → Prop} (h : Completes s P q)
    (hf : ∀ y, P y → Completes s Q (f y)) : Completes s Q (q >>= f) := by
  intro a ha
  obtain ⟨y,c,hrun,hc,hy⟩ := h a ha
  rw [run_bind, hrun]
  exact hf y hy c hc

theorem Truncates.completes (h : Truncates s E q) : Completes s (fun _ => True) q := fun a ha =>
  have ⟨_,_,y,c,_,hrun,hc,_⟩ := h a ha
  ⟨y,c,hrun,hc,trivial⟩

theorem Truncates.bind (h : Truncates s E q) (hf : ∀ x, Truncates s F (f x))
    (hcut : ∀ x y, E x y → ∃ w, Ceases s w (f x) ∧ Completes s (F w) (f y)) :
    Truncates s F (q >>= f) := by
  intro a ha
  obtain ⟨x,b,y,c,hrun,hwhole,hc,⟨rfl,rfl⟩ | ⟨hb,hxy⟩⟩ := h a ha
  · rw [run_bind, run_bind, hrun, hwhole]
    exact hf x b hc
  · obtain ⟨w,hceases,hcompletes⟩ := hcut x y hxy
    obtain ⟨b',hrun',hb'⟩ := hceases b hb
    obtain ⟨v,c',hwhole',hc',hv⟩ := hcompletes c hc
    rw [run_bind, run_bind, hrun, hwhole]
    exact ⟨w,b',v,c',hrun',hwhole',hc',.inr ⟨hb',hv⟩⟩

theorem Steady.bind_truncates (h : Steady s q) (hf : ∀ x, Truncates s F (f x)) :
    Truncates s F (q >>= f) :=
  Truncates.bind h hf fun _ _ => False.elim

theorem Extends.weaken {w v : β} {r : Query β} (h : Extends s w F r) (hvw : ∀ y, F w y → F v y) :
    Extends s v F r :=
  ⟨h.completes.mono hvw,h.truncates⟩

theorem Steady.bind (h : Steady s q) {w : β} (hf : ∀ x, Extends s w F (f x)) :
    Extends s w F (q >>= f) where
  completes := (Truncates.completes h).bind fun x _ => (hf x).completes
  truncates := h.bind_truncates fun x => (hf x).truncates

theorem Truncates.bind_interruptible (h : Truncates s E q)
    (hf : ∀ x, Interruptible s (z x) F (f x))
    (hE : ∀ x y w, E x y → F (z y) w → F (z x) w) : Truncates s F (q >>= f) :=
  h.bind (fun x => (hf x).truncates) fun x y hxy =>
    ⟨z x,(hf x).ceases,(hf y).completes.mono fun w => hE x y w hxy⟩

theorem Interruptible.bind (h : Interruptible s x E q) (hf : ∀ x, Interruptible s (z x) F (f x))
    (hE : ∀ x y w, E x y → F (z y) w → F (z x) w) : Interruptible s (z x) F (q >>= f) where
  completes := h.completes.bind fun y hxy => (hf y).completes.mono fun w => hE x y w hxy
  truncates := h.truncates.bind_interruptible hf hE
  ceases := h.ceases.bind (hf x).ceases

theorem ceases_pure (x : α) : Ceases s x (pure x) := fun a ha => ⟨a,rfl,ha⟩

theorem completes_pure {P : α → Prop} (h : P x) : Completes s P (pure x) := fun a ha => ⟨x,a,rfl,ha,h⟩

theorem truncates_pure (E : α → α → Prop) (x : α) : Truncates s E (pure x) := fun a ha =>
  ⟨x,a,x,a,rfl,rfl,ha,.inl ⟨rfl,rfl⟩⟩

theorem interruptible_pure (h : E x x) : Interruptible s x E (pure x) :=
  ⟨⟨completes_pure h,truncates_pure E x⟩,ceases_pure x⟩

theorem Truncates.map (h : Truncates s E q) (g : α → β) (hg : ∀ x y, E x y → F (g x) (g y)) :
    Truncates s F (q >>= fun y => pure (g y)) :=
  h.bind (fun _ => truncates_pure F _) fun x y hxy =>
    ⟨g x,ceases_pure _,completes_pure (hg x y hxy)⟩

theorem Interruptible.map (h : Interruptible s x E q) (g : α → β)
    (hg : ∀ x y, E x y → F (g x) (g y)) :
    Interruptible s (g x) F (q >>= fun y => pure (g y)) where
  completes := h.completes.bind fun y hxy => completes_pure (hg x y hxy)
  truncates := h.truncates.map g hg
  ceases := h.ceases.bind (ceases_pure _)

theorem Truncates.bind_extends (h : Truncates s E q) (hf : ∀ x, Interruptible s (z x) F (f x))
    (hE : ∀ x y w, E x y → F (z y) w → F (z x) w) {v : β} (hv : ∀ x w, F (z x) w → F v w) :
    Extends s v F (q >>= f) where
  completes := h.completes.bind fun x _ => (hf x).completes.mono (hv x)
  truncates := h.bind_interruptible hf hE

theorem Extends.unlessCalledOff (hstays : s.cancellation.Stays) {f : Bool → Query α}
    (hstop : f true = pure x) (h : Extends s x E (f false)) :
    Interruptible s x E (isCalledOff >>= f) where
  completes := by
    intro a ha
    have hlook := run_isCalledOff_never (s := s.uninterrupted) rfl a
    rw [run_bind, hlook]
    exact h.completes _ ha
  truncates := by
    intro a ha
    have hlook := run_isCalledOff_never (s := s.uninterrupted) rfl a
    rw [run_bind, run_bind, hlook, run_isCalledOff]
    cases hcalled : s.cancellation.isCalledOff a.looks a.reads with
    | false => exact h.truncates _ ha
    | true =>
      obtain ⟨y,c,hwhole,hc,hy⟩ := h.completes { a with looks := a.looks + 1 } ha
      dsimp only
      rw [hstop]
      exact ⟨x,_,y,c,rfl,hwhole,hc,
        .inr ⟨hstays _ _ _ _ (Nat.le_succ _) (Nat.le_refl _) hcalled,hy⟩⟩
  ceases := by
    intro a ha
    rw [run_bind, run_isCalledOff, show s.cancellation.isCalledOff a.looks a.reads = true from ha]
    dsimp only
    rw [hstop]
    exact ⟨_,rfl,hstays _ _ _ _ (Nat.le_succ _) (Nat.le_refl _) ha⟩

/-! ### Steps that are not called off -/

theorem steady_getIndex : Steady s getIndex := fun a ha =>
  ⟨_,a,_,a,rfl,rfl,ha,.inl ⟨rfl,rfl⟩⟩

theorem steady_arrangedUnparsed : Steady s arrangedUnparsed := fun a ha =>
  ⟨_,a,_,a,rfl,rfl,ha,.inl ⟨rfl,rfl⟩⟩

theorem steady_waitReady : Steady s waitReady := fun a ha =>
  ⟨(),a,(),a,run_waitReady ha,run_waitReady ha,ha,.inl ⟨rfl,rfl⟩⟩

theorem steady_cached? (file : Path) : Steady s (cached? file) := fun a ha =>
  ⟨_,_,_,_,run_cached? file _ a,run_cached? file _ a,ha,.inl ⟨rfl,rfl⟩⟩

theorem steady_openFile (file : Path) : Steady s (openFile file) := fun a ha =>
  ⟨_,_,_,_,run_openFile file _ a,run_openFile file _ a,ha,.inl ⟨rfl,rfl⟩⟩

theorem steady_sourceOf? (file : Path) : Steady s (sourceOf? file) := by
  refine (steady_cached? file).bind_truncates fun c? => ?_
  cases c? with
  | some c => exact truncates_pure _ _
  | none =>
    refine (steady_openFile file).bind_truncates fun live? => ?_
    cases live? with
    | error e => exact truncates_pure _ _
    | ok live => exact truncates_pure _ _

theorem steady_classOf? (file : Path) : Steady s (classOf? file) := by
  intro a ha
  by_cases h : a.index.stateOf file = .unparsed ∧ (a.index.cache.get file).1 = none
  · exact ⟨_,_,_,_,run_classOf?_unread h.1 h.2,run_classOf?_unread h.1 h.2,
      Index.lasting_ready.readLive file _ ha,.inl ⟨rfl,rfl⟩⟩
  · have hknown : a.index.stateOf file = .unparsed → (a.index.cache.get file).1 ≠ none :=
      fun hs hc => h ⟨hs,hc⟩
    exact ⟨_,_,_,_,run_classOf?_known hknown,run_classOf?_known hknown,
      Index.lasting_ready.materialize file ha,.inl ⟨rfl,rfl⟩⟩

theorem steady_declaredIn? (identifier : String) (file : Path) :
    Steady s (declaredIn? identifier file) := by
  refine (steady_classOf? file).bind_truncates fun c? => ?_
  cases c? <;> exact truncates_pure _ _

theorem steady_declaredAmong (identifier : String) (files : List Path) :
    Steady s (declaredAmong identifier files) := by
  induction files with
  | nil => exact truncates_pure _ _
  | cons f fs ih =>
    exact (steady_declaredIn? identifier f).bind_truncates fun _ =>
      Steady.bind_truncates ih fun _ => truncates_pure _ _

/-! ### Lists of which the beginning is answered -/

theorem Interruptible.append {x : List α} {q : Query (List α)}
    (h : Interruptible s x List.IsPrefix q) (xs : List α) :
    Interruptible s (xs ++ x) List.IsPrefix (q >>= fun ys => pure (xs ++ ys)) :=
  h.map (xs ++ ·) fun _ _ => (List.prefix_append_right_inj xs).mpr

/-- The same of the first one of two lists; to the second one something is put in front. -/
theorem Interruptible.walk {x : List String × List String}
    {q : Query (List String × List String)}
    (h : Interruptible s x (fun x y => x.1 <+: y.1) q) (fresh : List String) :
    Interruptible s (x.1,fresh ++ x.2) (fun x y => x.1 <+: y.1)
      (q >>= fun y => pure (y.1,fresh ++ y.2)) :=
  h.map (fun y => (y.1,fresh ++ y.2)) fun _ _ hxy => hxy

section Walks

variable (hstays : s.cancellation.Stays)
include hstays

theorem interruptible_searchAmong (identifier : String) (files : List Path) :
    Interruptible s [] List.IsPrefix (searchAmong identifier files) := by
  induction files with
  | nil => exact interruptible_pure (List.prefix_refl _)
  | cons f fs ih =>
    refine Extends.unlessCalledOff hstays rfl ?_
    exact (steady_declaredIn? identifier f).bind fun found? =>
      (ih.append found?.toList).toExtends.weaken fun _ _ => List.nil_prefix

/-- Where the search of the likely files was cut short, that of the other ones is called off from its
start. -/
theorem truncates_findClasses (identifier : String) :
    Truncates s List.IsPrefix (findClasses identifier) := by
  refine steady_waitReady.bind_truncates fun _ => steady_getIndex.bind_truncates fun ix => ?_
  refine (steady_declaredAmong identifier _).bind_truncates fun mapped => ?_
  refine steady_arrangedUnparsed.bind_truncates fun unparsed => ?_
  dsimp only
  rcases unparsed.partition (isConventional identifier) with ⟨likely,rest⟩
  have hrest := interruptible_searchAmong hstays identifier rest
  have hfound (found : List (Path × Class)) : Interruptible s found List.IsPrefix (pure found) :=
    interruptible_pure (List.prefix_refl _)
  have hbehind (found : List (Path × Class)) : Extends s [] List.IsPrefix
      (if found.isEmpty then searchAmong identifier rest else pure found) := by
    split
    · exact hrest.toExtends
    · exact (hfound found).toExtends.weaken fun _ _ => List.nil_prefix
  refine (interruptible_searchAmong hstays identifier likely).truncates.bind
    (fun found => (hbehind _).truncates) fun found whole hprefix => ?_
  obtain ⟨more,rfl⟩ := hprefix
  dsimp only
  split
  · exact ⟨[],hrest.ceases,(hbehind _).completes⟩
  · next hsome =>
    have hmore : ¬(mapped ++ (found ++ more)).isEmpty = true := by
      rw [← List.append_assoc, List.isEmpty_iff, List.append_eq_nil_iff, ← List.isEmpty_iff]
      exact fun hnone => hsome hnone.1
    rw [if_neg hmore, ← List.append_assoc]
    exact ⟨_,(hfound _).ceases,(hfound _).completes.mono fun _ => (List.prefix_append _ _).trans⟩

theorem truncates_parentsOf (identifier : String) :
    Truncates s List.IsPrefix (parentsOf identifier) :=
  (truncates_findClasses hstays identifier).map _ fun _ _ hxy => List.IsPrefix.flatMap hxy _

/-! ### Walks through the hierarchy -/

theorem interruptible_ascend (origin : String) (level chain : List String) :
    Interruptible s (chain,[]) (fun x y => x.1 <+: y.1) (ascend origin level chain) := by
  induction level generalizing chain with
  | nil => exact interruptible_pure (List.prefix_refl _)
  | cons id level ih =>
    refine Extends.unlessCalledOff hstays rfl ?_
    refine (truncates_parentsOf hstays id).bind_extends (fun parents => (ih _).walk _)
      (fun parents more _ hmore => ?_) fun parents _ => ?_
    · exact (fst_addNew_mono chain (List.IsPrefix.filter _ hmore)).trans
    · exact (prefix_fst_addNew chain _).trans

theorem interruptible_ascendAll (origin : String) (fuel : Nat) (level chain : List String) :
    Interruptible s chain List.IsPrefix (ascendAll origin fuel level chain) := by
  induction fuel generalizing level chain with
  | zero => exact interruptible_pure (List.prefix_refl _)
  | succ fuel ih =>
    cases level with
    | nil => exact interruptible_pure (List.prefix_refl _)
    | cons id level =>
      exact (interruptible_ascend hstays origin (id :: level) chain).bind (z := Prod.fst)
        (fun x => ih x.2 x.1) fun _ _ _ => List.IsPrefix.trans

theorem truncates_superclasses (identifier : String) :
    Truncates s List.IsPrefix (superclasses identifier) :=
  steady_getIndex.bind_truncates fun _ =>
    (interruptible_ascendAll hstays identifier _ _ _).truncates

theorem interruptible_descend (origin : String) (level : List String) (files : List Path)
    (found : List String) :
    Interruptible s (found,[]) (fun x y => x.1 <+: y.1) (descend origin level files found) := by
  induction files generalizing found with
  | nil => exact interruptible_pure (List.prefix_refl _)
  | cons f fs ih =>
    refine Extends.unlessCalledOff hstays rfl ?_
    refine (steady_sourceOf? f).bind fun d? => ?_
    -- what is left to do is the same with a child and without one
    extract_lets rest
    have hrest (child? : Option String) : Extends s (found,[]) (fun x y => x.1 <+: y.1)
        (rest child?) := by
      refine ((ih _).walk _).toExtends.weaken fun _ => ?_
      exact (prefix_fst_addNew found _).trans
    cases d? with
    | none => exact hrest none
    | some d =>
      dsimp only
      split
      · refine (steady_classOf? f).bind fun c? => ?_
        cases c? with
        | none => exact hrest none
        | some c =>
          dsimp only
          split
          · exact hrest (some c.identifier)
          · exact hrest none
      · exact hrest none

theorem interruptible_descendAll (origin : String) (fuel : Nat) (level found : List String) :
    Interruptible s found List.IsPrefix (descendAll origin fuel level found) := by
  induction fuel generalizing level found with
  | zero => exact interruptible_pure (List.prefix_refl _)
  | succ fuel ih =>
    cases level with
    | nil => exact interruptible_pure (List.prefix_refl _)
    | cons id level =>
      refine Extends.unlessCalledOff hstays rfl (steady_getIndex.bind fun ix => ?_)
      exact ((interruptible_descend hstays origin (id :: level) _ found).bind (z := Prod.fst)
        (fun x => ih x.2 x.1) fun _ _ _ => List.IsPrefix.trans).toExtends

theorem truncates_subclasses (identifier : String) :
    Truncates s List.IsPrefix (subclasses identifier) :=
  steady_waitReady.bind_truncates fun _ => steady_getIndex.bind_truncates fun _ =>
    (interruptible_descendAll hstays identifier _ _ _).truncates

/-! ### Texts -/

theorem interruptible_readTexts (files : List Path) :
    Interruptible s [] List.IsPrefix (readTexts files) := by
  induction files with
  | nil => exact interruptible_pure (List.prefix_refl _)
  | cons f fs ih =>
    refine Extends.unlessCalledOff hstays rfl ?_
    exact (steady_sourceOf? f).bind fun d? =>
      (ih.append (d?.toList.map fun d => (f,d))).toExtends.weaken fun _ _ => List.nil_prefix

theorem truncates_findOccurrences (symbols : List String) :
    Truncates s (List.Forall₂ fun x y => x.1 = y.1 ∧ x.2 <+: y.2) (findOccurrences symbols) := by
  refine steady_waitReady.bind_truncates fun _ => steady_getIndex.bind_truncates fun ix => ?_
  refine (interruptible_readTexts hstays ix.knownFiles).truncates.map _ fun found whole hfound => ?_
  rw [occurrencesIn, occurrencesIn, List.forall₂_map_left_iff, List.forall₂_map_right_iff,
    List.forall₂_same]
  exact fun symbol _ => ⟨rfl,List.IsPrefix.flatMap hfound _⟩

end Walks

/-! ### Questions to an index -/

/-- Over a loaded index a question is answered. Its answer is related to the one that it has where it is
not called off, and it is the same one unless the question has been called off by then. Over an index that
is not loaded yet the whole question waits. One that is called off waits too, or it has an answer that is
related to all that may come. -/
structure IsCutShort (s : Surroundings) (E : α → α → Prop) (q : Query α) (ix : Index) : Prop where
  answers : ix.ready = true → ∃ x a y, q.run s ⟨ix,0,0⟩ = (some x,a) ∧
    (q.ask s.uninterrupted ix).1 = some y ∧ E x y ∧ (x = y ∨ a.IsCalledOff s)
  waits : ix.ready = false →
    (q.ask s.uninterrupted ix).1 = none ∧ ∀ x, (q.ask s ix).1 = some x → ∀ y, E x y

theorem Truncates.answers (h : Truncates s E q) (hrefl : ∀ x, E x x) {ix : Index}
    (hready : ix.ready = true) : ∃ x a y, q.run s ⟨ix,0,0⟩ = (some x,a) ∧
      (q.ask s.uninterrupted ix).1 = some y ∧ E x y ∧ (x = y ∨ a.IsCalledOff s) := by
  obtain ⟨x,b,y,c,hrun,hwhole,-,hrel⟩ := h ⟨ix,0,0⟩ hready
  refine ⟨x,b,y,hrun,congrArg Prod.fst hwhole,?_⟩
  rcases hrel with ⟨rfl,-⟩ | ⟨hcalled,hxy⟩
  · exact ⟨hrefl x,.inl rfl⟩
  · exact ⟨hxy,.inr hcalled⟩

theorem Truncates.isCutShort {f : Unit → Query α} (h : Truncates s E (waitReady >>= f))
    (hrefl : ∀ x, E x x) (ix : Index) : IsCutShort s E (waitReady >>= f) ix where
  answers := h.answers hrefl
  waits hwaiting := by
    have hnone (t : Surroundings) : ((waitReady >>= f).ask t ix).1 = none := by
      rw [ask, run_bind, run_waitReady_waiting hwaiting]
    refine ⟨hnone _,fun x hx => ?_⟩
    rw [hnone s] at hx
    cases hx

/-- The walk up waits only when it looks for a class, which is behind its first look. -/
theorem fst_ask_superclasses_waiting {ix : Index} (hwaiting : ix.ready = false) (t : Surroundings)
    (identifier : String) : ((superclasses identifier).ask t ix).1 =
      if t.cancellation.isCalledOff 0 0 then some [] else none := by
  have hwait : (parentsOf identifier).run t ⟨ix,1,0⟩ = (none,⟨ix,1,0⟩) := by
    rw [parentsOf, findClasses, run_bind, run_bind, run_waitReady_waiting hwaiting]
  have hascend : (ascend identifier [identifier] []).run t ⟨ix,0,0⟩ =
      (if t.cancellation.isCalledOff 0 0 then some ([],[]) else none,⟨ix,1,0⟩) := by
    rw [ascend, run_bind, run_isCalledOff]
    dsimp only
    split
    · rfl
    · rw [run_bind, hwait]
  change ((ascend identifier [identifier] [] >>= fun x =>
    ascendAll identifier (ix.files.size + 1) x.2 x.1).run t ⟨ix,0,0⟩).1 = _
  rw [run_bind, hascend]
  cases t.cancellation.isCalledOff 0 0 <;> rfl

theorem isCutShort_superclasses (hstays : s.cancellation.Stays) (identifier : String) (ix : Index) :
    IsCutShort s List.IsPrefix (superclasses identifier) ix where
  answers := (truncates_superclasses hstays identifier).answers List.prefix_refl
  waits hwaiting := by
    rw [fst_ask_superclasses_waiting hwaiting, fst_ask_superclasses_waiting hwaiting]
    refine ⟨rfl,fun x hx y => ?_⟩
    split at hx
    · cases hx
      exact List.nil_prefix
    · cases hx

/-- Called off at any time, the search for symbols and the walks through the hierarchy answer with the
beginnings of the lists that they would have found. -/
theorem isCutShort_of_stays (hstays : s.cancellation.Stays) (ix : Index) :
    (∀ symbols, IsCutShort s (List.Forall₂ fun x y => x.1 = y.1 ∧ x.2 <+: y.2)
      (findOccurrences symbols) ix) ∧
    (∀ identifier, IsCutShort s List.IsPrefix (superclasses identifier) ix) ∧
    (∀ identifier, IsCutShort s List.IsPrefix (subclasses identifier) ix) := by
  refine ⟨fun symbols => ?_,fun identifier => ?_,fun identifier => ?_⟩
  · refine (truncates_findOccurrences hstays symbols).isCutShort (fun found => ?_) ix
    exact List.forall₂_same.mpr fun x _ => ⟨rfl,List.prefix_refl x.2⟩
  · exact isCutShort_superclasses hstays identifier ix
  · exact (truncates_subclasses hstays identifier).isCutShort List.prefix_refl ix

/-- Of three files below each other that are read when they are asked for, two are read. -/
theorem isCutShort_of_stays_two_files :
    let m := ((MemoryProject.empty.put (.ofString "a.smali") ⟨".class La;\n.super Lb;\n",none⟩).put
      (.ofString "b.smali") ⟨".class Lb;\n.super Lc;\n",none⟩).put
      (.ofString "c.smali") ⟨".class Lc;\n.super Ld;\n",none⟩
    let s : Surroundings := ⟨m.source,.atRead 2⟩
    let ix := (Operation.load.query.ask ⟨m.source,.never⟩
      (.new { Config.default with preload := false })).2
    s.cancellation.Stays ∧ ix.ready = true ∧
      IsCutShort s (List.Forall₂ fun x y => x.1 = y.1 ∧ x.2 <+: y.2) (findOccurrences ["La;","Lc;"])
        ix ∧
      IsCutShort s List.IsPrefix (superclasses "La;") ix ∧
      IsCutShort s List.IsPrefix (subclasses "Lc;") ix ∧
      ((findOccurrences ["La;","Lc;"]).ask s ix).1.map (·.map fun x => x.2.length) = some [1,1] ∧
      ((findOccurrences ["La;","Lc;"]).ask s.uninterrupted ix).1.map (·.map fun x => x.2.length) =
        some [1,2] ∧
      ((superclasses "La;").ask s ix).1 = some ["Lb;","Lc;"] ∧
      ((superclasses "La;").ask s.uninterrupted ix).1 = some ["Lb;","Lc;","Ld;"] ∧
      ((subclasses "Lc;").ask s ix).1 = some ["Lb;"] ∧
      ((subclasses "Lc;").ask s.uninterrupted ix).1 = some ["Lb;","La;"] := by
  intro m s ix
  have hstays : s.cancellation.Stays := Cancellation.stays_atRead 2
  obtain ⟨hoccurrences,hsuperclasses,hsubclasses⟩ := isCutShort_of_stays hstays ix
  exact ⟨hstays,by decide +kernel,hoccurrences _,hsuperclasses _,hsubclasses _,by decide +kernel,
    by decide +kernel,by decide +kernel,by decide +kernel,by decide +kernel,by decide +kernel⟩

end Query

end SmaliNavigator
