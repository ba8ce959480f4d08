import SmaliNavigator.Navigation.Hover
import SmaliNavigator.Navigation.Rename
import SmaliNavigator.Navigation.Symbols
import SmaliNavigator.Proofs.PathMap
import SmaliNavigator.Proofs.Query.Correspondence

/-!
When a symbol has corresponding places and new names over two indexes. What is sorted and gathered by
files comes out the same, but for paths that stand for each other.
-/

set_option autoImplicit false

namespace SmaliNavigator

/-- Paths that stand for each other are of the same file, also where the file goes. -/
structure Interchangeable (P : Path → Path → Prop) : Prop where
  refl : ∀ p, P p p
  same : ∀ {p q}, P p q → p.same q = true
  relocated : ∀ {p q} old new, P p q → P (p.relocated old new) (q.relocated old new)

theorem interchangeable_eq : Interchangeable Eq where
  refl _ := rfl
  same {p _} h := h ▸ p.same_refl
  relocated _ _ h := h ▸ rfl

/-- The same place of a file, in paths that stand for each other. -/
structure Location.Like (P : Path → Path → Prop) (l m : Location) : Prop where
  file : P l.file m.file
  span : l.span = m.span

theorem Location.eq_of_like (l m : Location) (h : l.Like Eq m) : l = m := by
  obtain ⟨f,span⟩ := l
  obtain ⟨g,span'⟩ := m
  obtain ⟨hfile,hspan⟩ := h
  obtain rfl : f = g := hfile
  obtain rfl : span = span' := hspan
  rfl

structure MemberFamily.Like (P : Path → Path → Prop) (f g : MemberFamily) : Prop where
  symbols : f.symbols = g.symbols
  declarations : List.Forall₂ (Location.Like P) f.declarations g.declarations

def PathMap.Like {α : Type} (P : Path → Path → Prop) (m n : PathMap α) : Prop :=
  List.Forall₂ (fun d e => d.1 = e.1 ∧ Path.At P d.2 e.2) m.table.entries n.table.entries

structure RenameEdits.Like (P : Path → Path → Prop) (r q : RenameEdits) : Prop where
  edits : r.edits.Like P q.edits
  moves : List.Forall₂ (fun x y => P x.1 y.1 ∧ P x.2 y.2) r.moves q.moves

/-- The same refusal, or corresponding results. -/
inductive ExceptLike {ε α : Type} (E : α → α → Prop) : Except ε α → Except ε α → Prop
  | error (e : ε) : ExceptLike E (.error e) (.error e)
  | ok {x y : α} (h : E x y) : ExceptLike E (.ok x) (.ok y)

/-! ### Lists in order -/

section Lists

variable {α : Type} {E : α → α → Prop}

theorem forall₂_mergeSort {le : α → α → Bool}
    (hle : ∀ a a' b b', E a a' → E b b' → le a b = le a' b') {xs ys : List α}
    (h : List.Forall₂ E xs ys) : List.Forall₂ E (xs.mergeSort le) (ys.mergeSort le) := by
  have hpairs : ∀ z ∈ xs.zip ys, E z.1 z.2 := fun z hz => List.forall₂_zip h hz
  have hfst : (xs.zip ys).map (·.1) = xs := List.map_fst_zip (Nat.le_of_eq h.length_eq)
  have hsnd : (xs.zip ys).map (·.2) = ys := List.map_snd_zip (Nat.le_of_eq h.length_eq.symm)
  generalize xs.zip ys = zs at hpairs hfst hsnd
  subst hfst hsnd
  have hleft : (zs.mergeSort fun a b => le a.1 b.1).map (·.1) = (zs.map (·.1)).mergeSort le :=
    List.map_mergeSort fun _ _ _ _ => rfl
  have hright : (zs.mergeSort fun a b => le a.1 b.1).map (·.2) = (zs.map (·.2)).mergeSort le :=
    List.map_mergeSort fun a ha b hb => hle _ _ _ _ (hpairs a ha) (hpairs b hb)
  rw [← hleft, ← hright, List.forall₂_map_left_iff, List.forall₂_map_right_iff, List.forall₂_same]
  exact fun z hz => hpairs z (List.mem_mergeSort.mp hz)

theorem forall₂_dropRepeats {same : α → α → Bool}
    (hsame : ∀ a a' b b', E a a' → E b b' → same a b = same a' b') {xs ys : List α}
    (h : List.Forall₂ E xs ys) : List.Forall₂ E (dropRepeats same xs) (dropRepeats same ys) := by
  induction xs using dropRepeats.induct same generalizing ys with
  | case1 =>
    cases h
    rw [dropRepeats]
    exact .nil
  | case2 a =>
    obtain _ | ⟨ha,_ | _⟩ := h
    rw [dropRepeats, dropRepeats]
    exact .cons ha .nil
  | case3 a b rest hs ih =>
    obtain _ | ⟨ha,_ | ⟨hb,hrest⟩⟩ := h
    rw [dropRepeats, dropRepeats, ← hsame _ _ _ _ ha hb, if_pos hs, if_pos hs]
    exact ih (.cons ha hrest)
  | case4 a b rest hs ih =>
    obtain _ | ⟨ha,_ | ⟨hb,hrest⟩⟩ := h
    rw [dropRepeats, dropRepeats, ← hsame _ _ _ _ ha hb, if_neg hs, if_neg hs]
    exact .cons ha (ih (.cons hb hrest))

end Lists

variable {P : Path → Path → Prop} (hP : Interchangeable P)

namespace Location

include hP

theorem Like.refl (l : Location) : l.Like P l := ⟨hP.refl l.file,rfl⟩

theorem same_like {a a' b b' : Location} (ha : a.Like P a') (hb : b.Like P b') :
    a.same b = a'.same b' := by
  unfold same
  rw [Path.same_left (hP.same ha.file), Path.same_right (hP.same hb.file), ha.span, hb.span]

theorem any_same_like {l m : Location} (hlm : l.Like P m) {ls ms : List Location}
    (h : List.Forall₂ (Like P) ls ms) : ls.any l.same = ms.any m.same := by
  induction h with
  | nil => rfl
  | cons hxy _ ih => rw [List.any_cons, List.any_cons, same_like hP hlm hxy, ih]

theorem le_like {a a' b b' : Location} (ha : a.Like P a') (hb : b.Like P b') : a.le b = a'.le b' := by
  unfold le
  rw [(Path.same_iff _ _).mp (hP.same ha.file), (Path.same_iff _ _).mp (hP.same hb.file), ha.span,
    hb.span]

theorem arrange_like {ls ms : List Location} (h : List.Forall₂ (Like P) ls ms) :
    List.Forall₂ (Like P) (arrange ls) (arrange ms) := by
  unfold arrange
  have hsorted := forall₂_mergeSort (E := Like P) (fun _ _ _ _ ha hb => le_like hP ha hb) h
  exact forall₂_dropRepeats (E := Like P) (fun _ _ _ _ ha hb => same_like hP ha hb) hsorted

end Location

/-! ### What is gathered by files -/

namespace PathMap

variable {α β : Type} {m n : PathMap α}

theorem Like.find? {ds es : List (PathKey × Path × α)} (k : PathKey)
    (h : List.Forall₂ (fun d e => d.1 = e.1 ∧ Path.At P d.2 e.2) ds es) :
    (OrdMap.find? k ds = none ∧ OrdMap.find? k es = none) ∨
      ∃ x y, OrdMap.find? k ds = some x ∧ OrdMap.find? k es = some y ∧ Path.At P x y := by
  induction h with
  | nil => exact .inl ⟨rfl,rfl⟩
  | cons hde _ ih =>
    rw [OrdMap.find?, OrdMap.find?, hde.1]
    split
    · exact .inr ⟨_,_,rfl,rfl,hde.2⟩
    · exact ih

theorem Like.get? (h : m.Like P n) (p : Path) : m.get? p = n.get? p := by
  unfold PathMap.get? OrdMap.get?
  rcases Like.find? p.key h with ⟨hm,hn⟩ | ⟨x,y,hm,hn,hxy⟩
  · rw [hm, hn]
  · rw [hm, hn]
    exact congrArg some hxy.2

theorem Like.spelling (h : m.Like P n) {p q : Path} (hpq : P p q) (hkey : p.key = q.key) :
    P (m.spelling p) (n.spelling q) := by
  unfold PathMap.spelling OrdMap.get?
  rw [← hkey]
  rcases Like.find? p.key h with ⟨hm,hn⟩ | ⟨x,y,hm,hn,hxy⟩
  · rw [hm, hn]
    exact hpq
  · rw [hm, hn]
    exact hxy.1

theorem Like.insert (h : m.Like P n) {p q : Path} (hpq : P p q) (hkey : p.key = q.key) (a : α) :
    (m.insert p a).Like P (n.insert q a) := by
  have hentry : Path.At P (m.spelling p,a) (n.spelling q,a) := ⟨h.spelling hpq hkey,rfl⟩
  have hinsert {ds es : List (PathKey × Path × α)}
      (hall : List.Forall₂ (fun d e => d.1 = e.1 ∧ Path.At P d.2 e.2) ds es) :
      List.Forall₂ (fun d e => d.1 = e.1 ∧ Path.At P d.2 e.2)
        (OrdMap.insertEntry p.key (m.spelling p,a) ds)
        (OrdMap.insertEntry p.key (n.spelling q,a) es) := by
    induction hall with
    | nil => exact .cons ⟨rfl,hentry⟩ .nil
    | cons hde hrest ih =>
      rw [OrdMap.insertEntry, OrdMap.insertEntry, hde.1]
      split
      · exact .cons ⟨rfl,hentry⟩ (.cons hde hrest)
      · exact .cons ⟨rfl,hentry⟩ hrest
      · exact .cons hde ih
  change List.Forall₂ _ (OrdMap.insertEntry p.key (m.spelling p,a) m.table.entries)
    (OrdMap.insertEntry q.key (n.spelling q,a) n.table.entries)
  rw [← hkey]
  exact hinsert h

theorem Like.mapValues (h : m.Like P n) (f : α → β) : (m.mapValues f).Like P (n.mapValues f) := by
  refine List.rel_map (fun d e hde => ?_) h
  exact ⟨hde.1,hde.2.1,congrArg f hde.2.2⟩

theorem eq_of_like (h : m.Like Eq n) : m = n := by
  have hentries : m.table.entries = n.table.entries := by
    have hall : List.Forall₂ Eq m.table.entries n.table.entries :=
      h.imp fun d e hde => Prod.ext hde.1 (Prod.ext hde.2.1 hde.2.2)
    rwa [List.forall₂_eq_eq_eq] at hall
  obtain ⟨⟨ds,_⟩,_⟩ := m
  obtain ⟨⟨es,_⟩,_⟩ := n
  obtain rfl : ds = es := hentries
  rfl

end PathMap

namespace RenameEdits

include hP

theorem ofEdits_like {es es' : List (Path × TextEdit)} (h : List.Forall₂ (Path.At P) es es')
    {moves moves' : List (Path × Path)}
    (hmoves : List.Forall₂ (fun x y => P x.1 y.1 ∧ P x.2 y.2) moves moves') :
    (ofEdits es moves).Like P (ofEdits es' moves') := by
  have hgather {m n : PathMap (List TextEdit)} (hmn : m.Like P n) :
      (es.foldl (fun m x => m.insert x.1 ((m.get? x.1).getD [] ++ [x.2])) m).Like P
        (es'.foldl (fun m x => m.insert x.1 ((m.get? x.1).getD [] ++ [x.2])) n) := by
    induction h generalizing m n with
    | nil => exact hmn
    | @cons x y xs ys hxy _ ih =>
      obtain ⟨f,e⟩ := x
      obtain ⟨g,e'⟩ := y
      obtain ⟨hfile,rfl⟩ : P f g ∧ e = e' := hxy
      refine ih ?_
      change (m.insert f ((m.get? f).getD [] ++ [e])).Like P (n.insert g ((n.get? g).getD [] ++ [e]))
      rw [hmn.get? f, n.get?_same (hP.same hfile)]
      exact hmn.insert hfile ((Path.same_iff f g).mp (hP.same hfile)) _
  have hempty : (∅ : PathMap (List TextEdit)).Like P ∅ := List.Forall₂.nil
  exact ⟨(hgather hempty).mapValues _,hmoves⟩

theorem ofMember_like (occurrences : Occurrences) {ls ms : List Location}
    (h : List.Forall₂ (Location.Like P) ls ms) (old new : String) :
    (ofMember occurrences ls old new).Like P (ofMember occurrences ms old new) := by
  refine ofEdits_like hP ?_ .nil
  refine List.rel_append (List.forall₂_same.mpr fun x _ => ⟨hP.refl x.1,rfl⟩) ?_
  refine List.rel_map (fun l m hlm => ⟨hlm.file,?_⟩) h
  rw [hlm.span]

theorem movesOf_like {fs gs : List Path} (h : List.Forall₂ P fs gs) (old new : String) :
    List.Forall₂ (fun x y => P x.1 y.1 ∧ P x.2 y.2) (movesOf fs old new) (movesOf gs old new) := by
  unfold movesOf
  dsimp only
  split
  · next oldPath newPath _ _ =>
    refine List.rel_filterMap (fun f g hfg => ?_) h
    have htarget := hP.relocated oldPath newPath hfg
    rw [Path.same_left (hP.same htarget), Path.same_right (hP.same hfg)]
    split
    · exact .none
    · exact .some ⟨hfg,htarget⟩
  · exact .nil

theorem ofClass_like (occurrences : List Location) {fs gs : List Path} (h : List.Forall₂ P fs gs)
    (old new : String) : (ofClass occurrences fs old new).Like P (ofClass occurrences gs old new) :=
  ofEdits_like hP (List.forall₂_same.mpr fun x _ => ⟨hP.refl x.1,rfl⟩) (movesOf_like hP h old new)

theorem ofLabel_like (file : Path) (occurrences : List Span) (new : String) :
    (ofLabel file occurrences new).Like P (ofLabel file occurrences new) :=
  ofEdits_like hP (List.forall₂_same.mpr fun x _ => ⟨hP.refl x.1,rfl⟩) .nil

end RenameEdits

/-! ### Questions about symbols -/

namespace Query

variable {R : Index → Index → Prop} {s : Surroundings} {o : FileOrder} {W : Prop}

theorem agreeUpTo_refuse {α : Type} {E : α → α → Prop} (r : Refusal) :
    AgreeUpTo R s o W (ExceptLike E) (refuse r) (refuse r) := .pure (.error r)

theorem agreeUpTo_spotIn? (shown : ∀ file, AgreeUpTo R s o W Eq (document? file) (document? file))
    (file : Path) (p : Position) : AgreeUpTo R s o W Eq (spotIn? file p) (spotIn? file p) :=
  (shown file).map_eq _

/-- The places of a symbol, and those where it is declared. -/
abbrev PlacesLike (P : Path → Path → Prop) (x y : List Location × List Location) : Prop :=
  List.Forall₂ (Location.Like P) x.1 y.1 ∧ List.Forall₂ (Location.Like P) x.2 y.2

namespace KeptUpTo

variable (k : KeptUpTo R s o W P)

section Classes

include k

theorem hoverText (spot : Spot) : AgreeUpTo R s o W Eq (hoverText spot) (hoverText spot) := by
  have hhead {α : Type} {ds es : List (Declaration α)} (h : List.Forall₂ (Declaration.Like P) ds es) :
      ds.head?.map (·.member) = es.head?.map (·.member) := by
    cases h with
    | nil => rfl
    | cons hde _ => exact congrArg some hde.member
  cases spot with
  | stringLiteral t => exact .pure rfl
  | type t => exact .pure rfl
  | label l => exact .pure rfl
  | fieldDefinition f => exact .pure rfl
  | methodDefinition m => exact .pure rfl
  | fieldReference r =>
    refine (k.resolveField _ _).bind fun ds es h => ?_
    rw [hhead h]
    exact .pure rfl
  | methodReference r =>
    refine (k.resolveMethod _ _).bind fun ds es h => ?_
    rw [hhead h]
    exact .pure rfl

theorem hover (shown : ∀ file, AgreeUpTo R s o W Eq (document? file) (document? file)) (file : Path)
    (p : Position) : AgreeUpTo R s o W Eq (hover file p) (hover file p) := by
  refine (agreeUpTo_spotIn? shown file p).bind_eq fun spot? => ?_
  cases spot? with
  | none => exact .pure rfl
  | some spot => exact (k.hoverText spot).bind_eq fun _ => .pure rfl

theorem searchSymbols (needle : List Char) (limit : Nat) (files : List Path) (found : List SymbolHit) :
    AgreeUpTo R s o W Eq (searchSymbols needle limit files found)
      (searchSymbols needle limit files found) := by
  induction files generalizing found with
  | nil => exact .pure rfl
  | cons f fs ih =>
    unfold Query.searchSymbols
    refine AgreeUpTo.isCalledOff.bind_eq fun called => ?_
    cases called with
    | true => exact .pure rfl
    | false =>
      rw [if_neg (by simp)]
      split
      · exact .pure rfl
      · refine (k.classOf? f).bind_eq fun c? => ?_
        cases c? with
        | none => exact ih _
        | some c => exact ih _

theorem workspaceSymbols (text : String) (limit : Nat) :
    AgreeUpTo R s o W Eq (workspaceSymbols text limit) (workspaceSymbols text limit) := by
  refine k.waitReady.bind_eq fun _ => .getIndex fun ix jx h => ?_
  rw [k.knownFiles h]
  exact (k.searchSymbols _ _ _ _).bind_eq fun _ => .pure rfl

theorem nameLocations (select : Class → List Token) (ids : List String) :
    AgreeUpTo R s o W (List.Forall₂ (Location.Like P)) (nameLocations select ids)
      (nameLocations select ids) := by
  induction ids with
  | nil => exact .pure .nil
  | cons id ids ih =>
    refine (k.membersOf select id).bind fun ds es h => ih.bind fun ls ms hrest => .pure ?_
    refine List.rel_append (List.rel_map (fun d e hde => ⟨hde.file,?_⟩) h) hrest
    rw [hde.member]

theorem withClassOf {α : Type} {E : α → α → Prop} (file : Path) {f : Class → Query (Except Refusal α)}
    (hf : ∀ c, AgreeUpTo R s o W (ExceptLike E) (f c) (f c)) :
    AgreeUpTo R s o W (ExceptLike E) (withClassOf file f) (withClassOf file f) := by
  refine (k.classOf? file).bind_eq fun c? => ?_
  cases c? with
  | none => exact agreeUpTo_refuse _
  | some c => exact hf c

end Classes

section Definition

include k hP

theorem declarationsOf (file : Path) (spot : Spot) :
    AgreeUpTo R s o W (List.Forall₂ (Location.Like P)) (declarationsOf file spot)
      (declarationsOf file spot) := by
  have hmembers {α : Type} (span : α → Span) {ds es : List (Declaration α)}
      (h : List.Forall₂ (Declaration.Like P) ds es) : List.Forall₂ (Location.Like P)
        (ds.map fun d => ⟨d.file,span d.member⟩) (es.map fun d => ⟨d.file,span d.member⟩) :=
    List.rel_map (fun d e hde => ⟨hde.file,congrArg span hde.member⟩) h
  have hhere (ls : List Location) : List.Forall₂ (Location.Like P) ls ls :=
    List.forall₂_same.mpr fun l _ => Location.Like.refl hP l
  cases spot with
  | stringLiteral t => exact .pure .nil
  | type t =>
    unfold Query.declarationsOf
    dsimp only
    split
    · refine (k.findClasses _).map fun xs ys h => ?_
      refine List.rel_map (fun x y hxy => ?_) h
      exact ⟨hxy.1,congrArg (·.name.span) hxy.2⟩
    · exact .pure .nil
  | fieldDefinition f => exact .pure (hhere _)
  | methodDefinition m => exact .pure (hhere _)
  | fieldReference r => exact (k.resolveField _ _).map fun _ _ h => hmembers (·.name.span) h
  | methodReference r => exact (k.resolveMethod _ _).map fun _ _ h => hmembers (·.name.span) h
  | label l => exact .pure (hhere _)

theorem definition (shown : ∀ file, AgreeUpTo R s o W Eq (document? file) (document? file)) (file : Path)
    (p : Position) : AgreeUpTo R s o W (List.Forall₂ (Location.Like P)) (definition file p)
      (definition file p) := by
  refine (agreeUpTo_spotIn? shown file p).bind_eq fun spot? => ?_
  cases spot? with
  | none => exact .pure .nil
  | some spot =>
    exact (k.declarationsOf hP file spot).bind fun _ _ h => .pure (Location.arrange_like hP h)

end Definition

variable (texts : ∀ file, AgreeUpTo R s o W Eq (sourceOf? file) (sourceOf? file))

section Families

include k texts

theorem withSubclasses (ids family : List String) :
    AgreeUpTo R s o W Eq (withSubclasses ids family) (withSubclasses ids family) := by
  induction ids generalizing family with
  | nil => exact .pure rfl
  | cons id ids ih => exact (k.subclasses texts id).bind_eq fun _ => ih _

theorem fieldFamily (owner : String) (field : Field) (isDeclaration : Bool) :
    AgreeUpTo R s o W (MemberFamily.Like P) (fieldFamily owner field isDeclaration)
      (fieldFamily owner field isDeclaration) := by
  unfold Query.fieldFamily
  extract_lets rest
  have hrest (ds es : List (Declaration Field)) (h : List.Forall₂ (Declaration.Like P) ds es) :
      AgreeUpTo R s o W (MemberFamily.Like P) (rest ds) (rest es) := by
    have howners : ds.map (·.owner.identifier) = es.map (·.owner.identifier) := by
      induction h with
      | nil => rfl
      | cons hde _ ih => rw [List.map_cons, List.map_cons, hde.owner, ih]
    dsimp only [rest]
    rw [howners]
    exact (k.nameLocations _ _).bind fun ls ms hls =>
      (k.withSubclasses texts _ _).bind_eq fun _ => .pure ⟨rfl,hls⟩
  split
  · exact (AgreeUpTo.pure .nil).bind hrest
  · exact (k.resolveField owner field).bind hrest

theorem methodOwners (owner : String) (method : Method) :
    AgreeUpTo R s o W Eq (methodOwners owner method) (methodOwners owner method) := by
  unfold Query.methodOwners
  split
  · exact .pure rfl
  · refine (k.rootDeclarers owner method false).bind_eq fun roots => ?_
    cases roots with
    | nil => exact k.withSubclasses texts _ _
    | cons id ids => exact k.withSubclasses texts _ _

theorem methodFamily (owner : String) (method : Method) :
    AgreeUpTo R s o W (MemberFamily.Like P) (methodFamily owner method) (methodFamily owner method) :=
  (k.methodOwners texts owner method).bind_eq fun _ =>
    (k.nameLocations _ _).bind fun _ _ h => .pure ⟨rfl,h⟩

end Families

section References

include k texts hP

theorem familyPlaces {f g : MemberFamily} (h : f.Like P g) :
    AgreeUpTo R s o W (PlacesLike P) (familyPlaces f) (familyPlaces g) := by
  unfold Query.familyPlaces
  rw [h.symbols]
  exact (k.findOccurrences texts _).bind_eq fun found =>
    .pure ⟨List.forall₂_same.mpr fun l _ => Location.Like.refl hP l,h.declarations⟩

theorem placesOf (file : Path) (spot : Spot) :
    AgreeUpTo R s o W (Option.Rel (PlacesLike P)) (placesOf file spot) (placesOf file spot) := by
  have hhere (ls : List Location) : List.Forall₂ (Location.Like P) ls ls :=
    List.forall₂_same.mpr fun l _ => Location.Like.refl hP l
  have hplaces {family : Query MemberFamily} (h : AgreeUpTo R s o W (MemberFamily.Like P) family family) :
      AgreeUpTo R s o W (Option.Rel (PlacesLike P))
        (family >>= fun x => some <$> Query.familyPlaces x)
        (family >>= fun x => some <$> Query.familyPlaces x) :=
    h.bind fun _ _ hf => (k.familyPlaces hP texts hf).map fun _ _ h => .some h
  cases spot with
  | stringLiteral t => exact .pure .none
  | label l => exact .pure (.some ⟨hhere _,hhere _⟩)
  | type t =>
    unfold Query.placesOf
    dsimp only
    split
    · exact .pure .none
    · refine (k.findOccurrences texts _).bind_eq fun found => (k.findClasses _).bind fun xs ys h => ?_
      refine .pure (.some ⟨hhere _,List.rel_map (fun x y hxy => ?_) h⟩)
      exact ⟨hxy.1,congrArg (·.name.span) hxy.2⟩
  | fieldReference r => exact hplaces (k.fieldFamily texts _ _ _)
  | methodReference r => exact hplaces (k.methodFamily texts _ _)
  | fieldDefinition f =>
    refine (k.classOf? file).bind_eq fun c? => ?_
    cases c? with
    | none => exact .pure .none
    | some c => exact hplaces (k.fieldFamily texts _ _ _)
  | methodDefinition m =>
    refine (k.classOf? file).bind_eq fun c? => ?_
    cases c? with
    | none => exact .pure .none
    | some c => exact hplaces (k.methodFamily texts _ _)

theorem references (shown : ∀ file, AgreeUpTo R s o W Eq (document? file) (document? file)) (file : Path)
    (p : Position) (withDeclarations : Bool) : AgreeUpTo R s o W (List.Forall₂ (Location.Like P))
      (references file p withDeclarations) (references file p withDeclarations) := by
  refine (agreeUpTo_spotIn? shown file p).bind_eq fun spot? => ?_
  cases spot? with
  | none => exact .pure .nil
  | some spot =>
    refine (k.placesOf hP texts file spot).bind fun x? y? h => ?_
    cases h with
    | none => exact .pure .nil
    | some hxy =>
      refine .pure (Location.arrange_like hP ?_)
      cases withDeclarations with
      | true => exact List.rel_append hxy.1 hxy.2
      | false =>
        refine List.rel_filter (fun l m hlm => ?_) hxy.1
        dsimp only
        rw [Location.any_same_like hP hlm hxy.2]

end References

section Rename

include k texts hP

theorem renameFamily {f g : MemberFamily} (h : f.Like P g) (old new : String) :
    AgreeUpTo R s o W (ExceptLike (RenameEdits.Like P)) (renameFamily f old new)
      (renameFamily g old new) := by
  unfold Query.renameFamily
  rw [h.symbols]
  exact (k.findOccurrences texts _).bind_eq fun found =>
    .pure (.ok (RenameEdits.ofMember_like hP found h.declarations old new))

theorem renameField (owner : String) (field : Field) (isDeclaration : Bool) (new : String) :
    AgreeUpTo R s o W (ExceptLike (RenameEdits.Like P)) (renameField owner field isDeclaration new)
      (renameField owner field isDeclaration new) :=
  (k.fieldFamily texts _ _ _).bind fun _ _ h => k.renameFamily hP texts h _ _

theorem renameMethod (owner : String) (method : Method) (new : String) :
    AgreeUpTo R s o W (ExceptLike (RenameEdits.Like P)) (renameMethod owner method new)
      (renameMethod owner method new) :=
  (k.methodFamily texts _ _).bind fun _ _ h => k.renameFamily hP texts h _ _

theorem renameClass (t : Descriptor) (new : String) :
    AgreeUpTo R s o W (ExceptLike (RenameEdits.Like P)) (renameClass t new) (renameClass t new) := by
  unfold Query.renameClass
  split
  · exact agreeUpTo_refuse _
  · split
    · exact agreeUpTo_refuse _
    · refine (k.findClasses _).bind fun xs ys h => ?_
      cases h with
      | nil => exact agreeUpTo_refuse _
      | cons hxy hrest =>
        exact (k.findOccurrences texts _).bind_eq fun _ => .pure (.ok (RenameEdits.ofClass_like hP _
          (.cons hxy.1 (List.rel_map (fun _ _ hxy => hxy.1) hrest)) _ _))

theorem renameSpot (file : Path) (new : String) (spot : Spot) :
    AgreeUpTo R s o W (ExceptLike (RenameEdits.Like P)) (renameSpot file new spot)
      (renameSpot file new spot) := by
  unfold Query.renameSpot
  cases spot with
  | stringLiteral t => exact agreeUpTo_refuse _
  | label l =>
    dsimp only
    split
    · exact agreeUpTo_refuse _
    · exact .pure (.ok (RenameEdits.ofLabel_like hP _ _ _))
  | type t => exact k.renameClass hP texts t new
  | fieldReference r =>
    dsimp only
    split
    · exact k.renameField hP texts _ _ _ _
    · exact agreeUpTo_refuse _
  | fieldDefinition f =>
    dsimp only
    split
    · exact k.withClassOf file fun c => k.renameField hP texts _ _ _ _
    · exact agreeUpTo_refuse _
  | methodReference r =>
    dsimp only
    split
    · exact agreeUpTo_refuse _
    · split
      · exact k.renameMethod hP texts _ _ _
      · exact agreeUpTo_refuse _
  | methodDefinition m =>
    dsimp only
    split
    · exact agreeUpTo_refuse _
    · split
      · exact k.withClassOf file fun c => k.renameMethod hP texts _ _ _
      · exact agreeUpTo_refuse _

theorem rename (shown : ∀ file, AgreeUpTo R s o W Eq (document? file) (document? file)) (file : Path)
    (p : Position) (new : String) : AgreeUpTo R s o W (ExceptLike (RenameEdits.Like P))
      (rename file p new) (rename file p new) := by
  refine (agreeUpTo_spotIn? shown file p).bind_eq fun spot? => ?_
  cases spot? with
  | none => exact agreeUpTo_refuse _
  | some spot => exact k.renameSpot hP texts file new spot

end Rename

end KeptUpTo

end Query

end SmaliNavigator
