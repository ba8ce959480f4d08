import SmaliNavigator.Proofs.Navigation.FieldKeys
import SmaliNavigator.Proofs.Navigation.MethodFamily
import SmaliNavigator.Proofs.Spot.Declarations

/-!
When a method stays with its class.

What is reported for a declaration are the declarations of its family. A private method is never what
a family goes down from, but a family that has nothing to go down from goes down from the class where
it was asked for, and then it takes in whatever is declared below, private or not.
-/

set_option autoImplicit false

namespace SmaliNavigator

open Text

/-! ### Lists of locations -/

theorem exists_same_of_mem_dropRepeats {α : Type} {same : α → α → Bool}
    (hrefl : ∀ a, same a a = true)
    (htrans : ∀ a b c, same a b = true → same b c = true → same a c = true) {xs : List α} {x : α}
    (hx : x ∈ xs) : ∃ y ∈ dropRepeats same xs, same y x = true := by
  fun_induction dropRepeats same xs generalizing x with
  | case1 => cases hx
  | case2 a => exact ⟨a,List.mem_cons_self,by rw [List.mem_singleton.mp hx]; exact hrefl a⟩
  | case3 a b rest hsame ih =>
    rcases List.mem_cons.mp hx with rfl | hx
    · exact ih List.mem_cons_self
    · rcases List.mem_cons.mp hx with rfl | hx
      · obtain ⟨y,hy,hya⟩ := ih List.mem_cons_self
        exact ⟨y,hy,htrans _ _ _ hya hsame⟩
      · exact ih (List.mem_cons_of_mem _ hx)
  | case4 a b rest _ ih =>
    rcases List.mem_cons.mp hx with rfl | hx
    · exact ⟨x,List.mem_cons_self,hrefl x⟩
    · obtain ⟨y,hy,hyx⟩ := ih hx
      exact ⟨y,List.mem_cons_of_mem _ hy,hyx⟩

namespace Location

theorem same_iff {a b : Location} : a.same b = true ↔ a.file.same b.file = true ∧ a.span = b.span := by
  simp [same]

theorem exists_same_arrange {ls : List Location} {k : Location} :
    (∃ l ∈ arrange ls, l.same k = true) ↔ ∃ l ∈ ls, l.same k = true := by
  have htrans (a b c : Location) (hab : a.same b = true) (hbc : b.same c = true) : a.same c = true := by
    obtain ⟨hfile,hspan⟩ := same_iff.mp hab
    obtain ⟨hfile',hspan'⟩ := same_iff.mp hbc
    exact same_iff.mpr ⟨(Path.same_left hfile _).trans hfile',hspan.trans hspan'⟩
  constructor
  · rintro ⟨l,hl,hsame⟩
    exact ⟨l,List.mem_mergeSort.mp ((dropRepeats_sublist _ _).subset hl),hsame⟩
  · rintro ⟨l,hl,hsame⟩
    have hrefl (a : Location) : a.same a = true := same_iff.mpr ⟨a.file.same_refl,rfl⟩
    obtain ⟨l',hl',hsame'⟩ : ∃ l' ∈ arrange ls, l'.same l = true :=
      exists_same_of_mem_dropRepeats hrefl htrans (List.mem_mergeSort.mpr hl)
    exact ⟨l',hl',htrans _ _ _ hsame' hsame⟩

end Location

/-! ### Names and keys -/

theorem not_startsWord_of_mem_symbolLocations {owner descriptor : String} {file : Path} {d : Document}
    {l : Location} (hl : l ∈ symbolLocations (referenceKey owner descriptor) file d) {col : Nat}
    (hcol : RenameEdits.nameColumn? (referenceKey owner descriptor) = some col)
    (hinline : '\n' ∉ owner.toList) : ¬d.StartsWord (l.span.start.right col) := by
  obtain ⟨before,rest,hchars,-,hstart,-⟩ := exists_of_mem_symbolLocations hl
  obtain ⟨front,behind,hfront,rfl,hkey⟩ := RenameEdits.exists_of_nameColumn? hcol
  have hfeed : '\n' ∉ front ++ "->".toList := by
    simpa using fun hmem => hinline (hfront.subset hmem)
  have hsplit : d.chars = before ++ ((front ++ "->".toList) ++ (behind ++ rest)) := by
    rw [hchars, hkey]
    simp
  rintro ⟨words,rest',hwords,hplace,hspace⟩
  rw [hstart, ← Document.positionAt_append hsplit hfeed] at hplace
  rw [← List.append_assoc] at hsplit
  obtain rfl := Document.eq_of_positionAt hwords hsplit hplace.symm
  have hlast : (before ++ (front ++ "->".toList)).getLast? = some '>' := by
    simp [List.getLast?_append]
  rw [hlast] at hspace
  exact absurd hspace (by decide)

theorem ne_span_of_mem_symbolLocations {m : Method} {owner : String} {file : Path} {d : Document}
    {l : Location} (hl : l ∈ symbolLocations (m.key owner) file d) {t : Token}
    (ht : t.IsDeclared d '(') : l.span ≠ t.span := by
  obtain ⟨before,rest,hchars,rfl,-⟩ := exists_place_of_mem_symbolLocations hl
  obtain ⟨before',rest',hchars',hspan⟩ := ht.names.shown
  rw [hspan]
  intro heq
  obtain ⟨hstart,hstop⟩ := Span.mk.inj heq
  obtain rfl := Document.eq_of_positionAt hchars hchars' hstart
  have hname : before ++ (m.key owner).toList = before ++ t.text.toList :=
    Document.eq_of_positionAt (by rw [hchars, List.append_assoc]) (by rw [hchars', List.append_assoc])
      hstop
  have hopen : '(' ∈ (m.key owner).toList := by simp [Method.key, referenceKey, Method.descriptor]
  rw [List.append_cancel_left hname] at hopen
  exact ht.names.not_mem hopen

namespace Index

variable {ix : Index} {s : Surroundings} {m : Method} {owner x : String}

/-! ### The classes of a project -/

theorem isDeclared_of_mem_classes {g : Path} {c : Class} (hc : (g,c) ∈ ix.classes) {n : Method}
    (hn : n ∈ c.allMethods) : n.name.IsDeclared c.document '(' := by
  obtain ⟨t,_,hread⟩ := goodClass?_eq_some (mem_classes.mp hc).2
  rw [Class.document_of_ofDocument hread]
  exact Class.isDeclared_of_mem_allMethods hread hn

theorem not_mem_of_mem_declaredIdentifiers (hx : x ∈ ix.declaredIdentifiers) : '\n' ∉ x.toList := by
  obtain ⟨⟨g,c⟩,hc,rfl⟩ := List.mem_map.mp hx
  obtain ⟨t,_,hread⟩ := goodClass?_eq_some (mem_classes.mp hc).2
  exact (Class.isClassKey_identifier hread).not_mem

theorem DeclaresMethod.mem_declaredIdentifiers {acceptPrivate : Bool}
    (h : ix.DeclaresMethod m acceptPrivate x) : x ∈ ix.declaredIdentifiers := by
  obtain ⟨g,c,hc,rfl,_⟩ := h
  exact List.mem_map.mpr ⟨_,hc,rfl⟩

theorem DeclaresMethod.acceptPrivate {acceptPrivate : Bool} (h : ix.DeclaresMethod m acceptPrivate x) :
    ix.DeclaresMethod m true x := by
  obtain ⟨g,c,hc,hid,n,hn,_⟩ := h
  exact ⟨g,c,hc,hid,n,hn,.inl rfl⟩

/-- All that is found for a class that the project has are classes of the project. -/
theorem AllRead.mem_declaredIdentifiers_of_foundIn (h : ix.AllRead s.source)
    (howner : owner ∈ ix.declaredIdentifiers) (hx : ix.FoundIn m owner x) :
    x ∈ ix.declaredIdentifiers := by
  unfold FoundIn at hx
  split at hx
  · exact hx ▸ howner
  · obtain ⟨id,hid,rfl | hsub⟩ := hx
    · rcases hid with hroot | ⟨_,rfl⟩
      · exact (h.declares_of_mem_rootsOf hroot).2.mem_declaredIdentifiers
      · exact howner
    · exact (below_of_mem_subclassesOf hsub).2.mem_declaredIdentifiers

theorem Complete.document_of_mem_liveTexts (h : ix.Complete s.source) {f g : Path} {d : Document}
    {c : Class} (hd : (f,d) ∈ ix.liveTexts s.source) (hc : (g,c) ∈ ix.classes)
    (hsame : f.same g = true) : d = c.document := by
  obtain ⟨f',hf,hlive⟩ := List.mem_filterMap.mp hd
  obtain ⟨live,hopen,heq⟩ := Option.map_eq_some_iff.mp hlive
  obtain ⟨rfl,rfl⟩ := Prod.mk.inj heq
  have hgood : ix.goodClass? f' = some c := (ix.goodClass?_same hsame).trans (mem_classes.mp hc).2
  have hdocument := h.open?_of_goodClass? hf hgood
  rw [hopen] at hdocument
  exact Option.some.inj hdocument

/-! ### Classes that have a method to themselves -/

/-- Above a class no other one declares a method, unless as a private one, and below it no other one
declares it at all. -/
structure DeclaresAlone (ix : Index) (m : Method) (owner : String) : Prop where
  above : ∀ x, x ≠ owner → ix.Below owner x → ¬ix.DeclaresMethod m false x
  below : ∀ x, x ≠ owner → ix.Below x owner → ¬ix.DeclaresMethod m true x

theorem inFamily_self (ix : Index) (m : Method) (owner : String) : ix.InFamily m owner owner := by
  by_cases hheads : ∃ u, (u = owner ∨ ix.Below owner u) ∧ ix.DeclaresMethod m false u
  · obtain ⟨u,hu,hdeclares⟩ := hheads
    exact ⟨u,.inl ⟨hu,hdeclares⟩,hu.imp_left Eq.symm⟩
  · exact ⟨owner,.inr ⟨rfl,fun u hu hdeclares => hheads ⟨u,hu,hdeclares⟩⟩,.inl rfl⟩

/-- In the family of such a class there is no other one that declares the method. -/
theorem declaresAlone_iff : ix.DeclaresAlone m owner ↔
    ∀ x, ix.InFamily m owner x → x ≠ owner → ¬ix.DeclaresMethod m true x := by
  constructor
  · rintro ⟨habove,hbelow⟩ x ⟨d,hd,hx⟩ hne
    have hhead : d = owner := by
      rcases hd with ⟨rfl | hd,hdeclares⟩ | ⟨rfl,_⟩
      · rfl
      · exact Classical.byContradiction fun hne => habove d hne hd hdeclares
      · rfl
    subst hhead
    exact hbelow x hne (hx.resolve_left hne)
  · intro h
    constructor
    · intro x hne hx hdeclares
      exact h x ⟨x,.inl ⟨.inr hx,hdeclares⟩,.inl rfl⟩ hne hdeclares.acceptPrivate
    · intro x hne hx
      exact h x ((ix.inFamily_self m owner).of_below (.inr hx)) hne

/-! ### What is reported -/

/-- Of what is reported, nothing is a method that another class declares. -/
def KeepsTo (ix : Index) (owner : String) (reported : Path → Span → Prop) : Prop :=
  ∀ g c, (g,c) ∈ ix.classes → c.identifier ≠ owner → ∀ n ∈ c.allMethods, ¬reported g n.name.span

theorem KeepsTo.congr {reported reported' : Path → Span → Prop}
    (h : ∀ g c, (g,c) ∈ ix.classes → ∀ n ∈ c.allMethods,
      reported g n.name.span ↔ reported' g n.name.span) :
    ix.KeepsTo owner reported ↔ ix.KeepsTo owner reported' :=
  forall_congr' fun g => forall_congr' fun c => forall_congr' fun hc => forall_congr' fun _ =>
    forall_congr' fun n => forall_congr' fun hn => not_congr (h g c hc n hn)

section Family

variable {family : MemberFamily} (h : ix.Complete s.source) (hfamily : ix.IsFoundFamily m owner family)
include h hfamily

/-- A family keeps to its class if no other class that is found declares the method. -/
theorem keepsTo_declarations_iff :
    ix.KeepsTo owner (fun g span => ∃ l ∈ family.declarations, l.same ⟨g,span⟩ = true) ↔
      ∀ x, ix.FoundIn m owner x → x ≠ owner → ¬ix.DeclaresMethod m true x := by
  constructor
  · rintro hkeeps x hx hne ⟨g,c,hc,rfl,n,hn,_⟩
    obtain ⟨f,hsame,hf⟩ := h.toAllRead.exists_mem_declared hc
    have hmember : ⟨f,c,n⟩ ∈ ix.membersIn (·.methodsLike m) c.identifier :=
      mem_membersIn.mpr ⟨hf,hn⟩
    refine hkeeps g c hc hne n (List.mem_filter.mp hn).1 ⟨⟨f,n.name.span⟩,?_,?_⟩
    · exact (hfamily.declarations _).mpr ⟨c.identifier,hx,_,hmember,rfl⟩
    · exact Location.same_iff.mpr ⟨hsame,rfl⟩
  · rintro hnone g c hc hne n hn ⟨l,hl,hsame⟩
    obtain ⟨x,hx,d,hd,rfl⟩ := (hfamily.declarations l).mp hl
    obtain ⟨hfile,_⟩ := Location.same_iff.mp hsame
    obtain rfl := eq_of_goodClass? (goodClass?_of_mem_membersIn hd) (mem_classes.mp hc).2 hfile
    obtain rfl := identifier_of_mem_membersIn hd
    exact hnone _ hx hne ⟨g,d.owner,hc,rfl,d.member,(mem_membersIn.mp hd).2,.inl rfl⟩

/-- Among the references, the methods that are declared are the declarations of the family. -/
theorem keepsTo_references_iff :
    ix.KeepsTo owner (fun g span => ∃ l ∈ Location.arrange
        ((occurrencesIn family.symbols (ix.liveTexts s.source)).flatMap (·.2) ++ family.declarations),
        l.same ⟨g,span⟩ = true) ↔
      ∀ x, ix.FoundIn m owner x → x ≠ owner → ¬ix.DeclaresMethod m true x := by
  rw [← keepsTo_declarations_iff h hfamily]
  refine KeepsTo.congr fun g c hc n hn => ?_
  rw [Location.exists_same_arrange]
  constructor
  · rintro ⟨l,hl,hsame⟩
    rcases List.mem_append.mp hl with hl | hl
    · obtain ⟨y,hy,hly⟩ := List.mem_flatMap.mp hl
      obtain ⟨key,hkey,rfl⟩ := List.mem_map.mp hy
      obtain ⟨x,_,rfl⟩ := (hfamily.symbols key).mp (List.mem_eraseDups.mp hkey)
      obtain ⟨⟨f,d⟩,hd,hlocation⟩ := List.mem_flatMap.mp hly
      obtain ⟨_,_,_,rfl,_⟩ := exists_of_mem_symbolLocations hlocation
      obtain ⟨hfile,hspan⟩ := Location.same_iff.mp hsame
      obtain rfl := h.document_of_mem_liveTexts hd hc hfile
      exact absurd hspan (ne_span_of_mem_symbolLocations hlocation (isDeclared_of_mem_classes hc hn))
    · exact ⟨l,hl,hsame⟩
  · rintro ⟨l,hl,hsame⟩
    exact ⟨l,List.mem_append_right _ hl,hsame⟩

/-- Among the edits, those at methods that are declared are at the declarations of the family. -/
theorem keepsTo_renamedMethod_iff (howner : owner ∈ ix.declaredIdentifiers) (new : String) :
    ix.KeepsTo owner ((ix.renamedMethod s.source m family new).Writes new) ↔
      ∀ x, ix.FoundIn m owner x → x ≠ owner → ¬ix.DeclaresMethod m true x := by
  rw [← keepsTo_declarations_iff h hfamily]
  refine KeepsTo.congr fun g c hc n hn => ?_
  simp only [Location.same_iff]
  refine RenameEdits.writes_ofMember.trans (or_iff_right ?_)
  rintro ⟨key,hkey,col,hcol,f,d,hd,l,hl,hsame,hspan⟩
  obtain ⟨x,hx,rfl⟩ := (hfamily.symbols key).mp hkey
  obtain ⟨_,_,_,rfl,_⟩ := exists_of_mem_symbolLocations hl
  obtain rfl := h.document_of_mem_liveTexts hd hc hsame
  have hinline := not_mem_of_mem_declaredIdentifiers
    (h.toAllRead.mem_declaredIdentifiers_of_foundIn howner hx)
  refine not_startsWord_of_mem_symbolLocations hl hcol hinline ?_
  have hword := (isDeclared_of_mem_classes hc hn).startsWord
  rwa [hspan] at hword

end Family

end Index

namespace Query

open Index (DeclaresAlone KeepsTo)

/-- The references from a place are answered, and no method that another class declares is among
them. -/
def ReferencesStay (s : Surroundings) (ix : Index) (file : Path) (p : Position) (owner : String) :
    Prop :=
  ∃ ls, ((references file p true).ask s ix).1 = some ls ∧
    ix.KeepsTo owner fun g span => ∃ l ∈ ls, l.same ⟨g,span⟩ = true

/-- A rename from a place is answered, and if it is not refused there is no edit at a method that
another class declares. -/
def RenameStays (s : Surroundings) (ix : Index) (file : Path) (p : Position) (new owner : String) :
    Prop :=
  ∃ answer, ((rename file p new).ask s ix).1 = some answer ∧
    ∀ r, answer = .ok r → ix.KeepsTo owner (r.Writes new)

section Declaration

variable {s : Surroundings} {ix : Index} {file : Path} {p : Position} {m : Method} {c : Class}
  (h : ix.Complete s.source) (hspot : ((spotIn? file p).ask s ix).1 = some (some (.methodDefinition m)))
include h hspot

theorem renameStays_of_refused {new owner : String}
    (hrefused : m.isConstructor = true ∨ isMemberName new = false) :
    RenameStays s ix file p new owner := by
  obtain ⟨e,hanswers⟩ : ∃ e, Answers s ix (renameSpot file new (.methodDefinition m)) (.error e) := by
    cases hm : m.isConstructor with
    | true =>
      simp only [renameSpot, hm, if_true]
      exact ⟨_,.pure _⟩
    | false =>
      have hnew := hrefused.resolve_left (by simp [hm])
      simp only [renameSpot, hm, hnew, Bool.false_eq_true, if_false]
      exact ⟨_,.pure _⟩
  have hasked : Answers s ix (rename file p new) (.error e) :=
    (answers_spotIn?_of_ask h.sound hspot).bind hanswers
  exact ⟨_,hasked.fst_ask h.sound,fun r hr => by cases hr⟩

variable (hnever : s.cancellation = .never) (hc : ix.goodClass? file = some c)
include hnever hc

theorem referencesStay_iff : ReferencesStay s ix file p c.identifier ↔
    ∀ x, ix.FoundIn m c.identifier x → x ≠ c.identifier → ¬ix.DeclaresMethod m true x := by
  obtain ⟨family,hanswers,hfamily⟩ := h.answers_methodFamily_found hnever m c.identifier
  have hplaces : Answers s ix (familyPlaces family)
      ((occurrencesIn family.symbols (ix.liveTexts s.source)).flatMap (·.2),family.declarations) :=
    (h.answers_findOccurrences hnever family.symbols).bind (.pure _)
  have hspots : Answers s ix (placesOf file (.methodDefinition m)) (some
      ((occurrencesIn family.symbols (ix.liveTexts s.source)).flatMap (·.2),family.declarations)) :=
    (answers_classOf?_some hc).bind (hanswers.bind (hplaces.bind (.pure _)))
  have hasked : Answers s ix (references file p true) _ :=
    (answers_spotIn?_of_ask h.sound hspot).bind (hspots.bind (.pure _))
  rw [← Index.keepsTo_references_iff h hfamily]
  constructor
  · rintro ⟨ls,hls,hkeeps⟩
    rwa [← hasked.eq_of_fst_ask h.sound hls] at hkeeps
  · exact fun hkeeps => ⟨_,hasked.fst_ask h.sound,hkeeps⟩

theorem renameStays_iff {new : String} (hm : m.isConstructor = false)
    (hnew : isMemberName new = true) : RenameStays s ix file p new c.identifier ↔
      ∀ x, ix.FoundIn m c.identifier x → x ≠ c.identifier → ¬ix.DeclaresMethod m true x := by
  obtain ⟨family,hanswers,hfamily⟩ := h.answers_methodFamily_found hnever m c.identifier
  have hasked : Answers s ix (rename file p new) (.ok (ix.renamedMethod s.source m family new)) := by
    refine (answers_spotIn?_of_ask h.sound hspot).bind ?_
    simp only [renameSpot, hm, hnew, if_true]
    exact (answers_classOf?_some hc).bind (h.answers_renameMethod hnever hanswers new)
  obtain ⟨g,_,hg⟩ := Index.mem_classes_of_goodClass? hc
  have howner : c.identifier ∈ ix.declaredIdentifiers := List.mem_map.mpr ⟨_,hg,rfl⟩
  rw [← Index.keepsTo_renamedMethod_iff h hfamily howner new]
  constructor
  · rintro ⟨answer,hanswer,hkeeps⟩
    exact hkeeps _ (hasked.eq_of_fst_ask h.sound hanswer).symm
  · rintro hkeeps
    refine ⟨_,hasked.fst_ask h.sound,fun r hr => ?_⟩
    cases hr
    exact hkeeps

/-- From the declaration of a method, private or not, the references and the rename report no
declaration of another class if the method is a constructor, or if no other class declares it below,
and none above but as a private method. Where the classes spell their parents out, that is also the
only case in which they do not. -/
theorem method_stays_iff :
    (m.isConstructor = true ∨ ix.DeclaresAlone m c.identifier →
      ReferencesStay s ix file p c.identifier ∧ ∀ new, RenameStays s ix file p new c.identifier) ∧
    (ix.SpellsParents → ReferencesStay s ix file p c.identifier →
      m.isConstructor = true ∨ ix.DeclaresAlone m c.identifier) ∧
    ∀ new, isMemberName new = true → ix.SpellsParents → RenameStays s ix file p new c.identifier →
      m.isConstructor = true ∨ ix.DeclaresAlone m c.identifier := by
  have halone (hspelled : ix.SpellsParents) (hm : m.isConstructor = false)
      (hfound : ∀ x, ix.FoundIn m c.identifier x → x ≠ c.identifier → ¬ix.DeclaresMethod m true x) :
      ix.DeclaresAlone m c.identifier := by
    simp only [h.toAllRead.foundIn_iff hspelled hm] at hfound
    exact Index.declaresAlone_iff.mpr hfound
  refine ⟨fun hcond => ?_,fun hspelled hstay => ?_,fun new hnew hspelled hstay => ?_⟩
  · have hfound : ∀ x, ix.FoundIn m c.identifier x → x ≠ c.identifier →
        ¬ix.DeclaresMethod m true x := by
      intro x hx hne
      cases hm : m.isConstructor with
      | true =>
        simp only [Index.FoundIn, hm, if_true] at hx
        exact absurd hx hne
      | false =>
        have halone := hcond.resolve_left (by simp [hm])
        exact Index.declaresAlone_iff.mp halone x (h.toAllRead.inFamily_of_foundIn hm hx) hne
    refine ⟨(referencesStay_iff h hspot hnever hc).mpr hfound,fun new => ?_⟩
    cases hm : m.isConstructor with
    | true => exact renameStays_of_refused h hspot (.inl hm)
    | false =>
      cases hnew : isMemberName new with
      | true => exact (renameStays_iff h hspot hnever hc hm hnew).mpr hfound
      | false => exact renameStays_of_refused h hspot (.inr hnew)
  · cases hm : m.isConstructor with
    | true => exact .inl rfl
    | false => exact .inr (halone hspelled hm ((referencesStay_iff h hspot hnever hc).mp hstay))
  · cases hm : m.isConstructor with
    | true => exact .inl rfl
    | false => exact .inr (halone hspelled hm ((renameStays_iff h hspot hnever hc hm hnew).mp hstay))

end Declaration

/-- A private method with a private one of the same name above it and another method below it. -/
theorem method_stays_iff_private_above :
    let p := Path.ofString "P.smali"
    let s : Surroundings := ⟨(((MemoryProject.empty.put (.ofString "A.smali")
      ⟨".class LA;\n.super Lb;\n.method private secret()V\n.end method\n",none⟩).put p
      ⟨".class LP;\n.super LA;\n.method private secret()V\n.end method\n",none⟩).put (.ofString "Q.smali")
      ⟨".class LQ;\n.super LP;\n.method secret()I\n.end method\n",none⟩).source,.never⟩
    let ix := (Operation.load.query.ask s (.new .default)).2
    let m : Method := ⟨.within 2 0 25,none,[.privateAccess],⟨"secret",.within 2 16 22⟩,[],
      .single (.primitive .void (.within 2 24 25))⟩
    ix.Complete s.source ∧ m.isPrivate = true ∧
      ((spotIn? p ⟨2,16⟩).ask s ix).1 = some (some (.methodDefinition m)) ∧
      (ix.goodClass? p).map (·.identifier) = some "LP;" ∧ ix.DeclaresAlone m "LP;" ∧
      ReferencesStay s ix p ⟨2,16⟩ "LP;" ∧ ∀ new, RenameStays s ix p ⟨2,16⟩ new "LP;" := by
  intro p s ix m
  have hcomplete : ix.Complete s.source :=
    Index.complete_load rfl rfl (MemoryProject.ignoresSpelling _) rfl
  obtain ⟨hspot,hclass,hextends,hnone,hsome⟩ :
      ((spotIn? p ⟨2,16⟩).ask s ix).1 = some (some (.methodDefinition m)) ∧
      (ix.goodClass? p).map (·.identifier) = some "LP;" ∧ ix.Extends "LP;" "LA;" ∧
      ix.classes.all (fun x => (x.2.methodsLike m).all (·.isPrivate)) = true ∧
      ix.classes.all (fun x => (x.2.methodsLike m).isEmpty || x.2.identifier == "LA;" ||
        x.2.identifier == "LP;") = true := by decide +kernel
  have hacyclic : ∀ x, ¬ix.Below x x :=
    Index.not_below_self (fun x => ["Lb;","LA;","LP;","LQ;"].idxOf x) (by decide +kernel)
  have halone : ix.DeclaresAlone m "LP;" := by
    constructor
    · rintro x _ _ ⟨f,c,hc,_,n,hn,hpublic⟩
      have hprivate := List.all_eq_true.mp (List.all_eq_true.mp hnone _ hc) n hn
      simp [hprivate] at hpublic
    · rintro x hne hbelow ⟨f,c,hc,rfl,n,hn,_⟩
      have hhere := List.all_eq_true.mp hsome _ hc
      simp only [Bool.or_eq_true, List.isEmpty_iff, List.ne_nil_of_mem hn, false_or, beq_iff_eq,
        hne, or_false] at hhere
      rw [hhere] at hbelow
      exact hacyclic _ (hbelow.tail hextends)
  obtain ⟨c,hc,hid⟩ := Option.map_eq_some_iff.mp hclass
  obtain ⟨hreferences,hrename⟩ :=
    (method_stays_iff hcomplete hspot rfl hc).1 (.inr (hid ▸ halone))
  exact ⟨hcomplete,by decide,hspot,hclass,halone,hid ▸ hreferences,hid ▸ hrename⟩

/-- A subclass declares a private method of the same name: it is among the references of the method
above it, with which it has nothing to do, and it is renamed along with it. -/
theorem not_method_stays_private_below :
    let p := Path.ofString "P.smali"
    let q := Path.ofString "Q.smali"
    let s : Surroundings := ⟨((MemoryProject.empty.put p
      ⟨".class LP;\n.super Lb;\n.method private secret()V\n.end method\n",none⟩).put q
      ⟨".class LQ;\n.super LP;\n.method private secret()V\n.end method\n",none⟩).source,.never⟩
    let ix := (Operation.load.query.ask s (.new .default)).2
    let m : Method := ⟨.within 2 0 25,none,[.privateAccess],⟨"secret",.within 2 16 22⟩,[],
      .single (.primitive .void (.within 2 24 25))⟩
    ix.Complete s.source ∧ m.isPrivate = true ∧
      ((spotIn? p ⟨2,16⟩).ask s ix).1 = some (some (.methodDefinition m)) ∧
      (ix.goodClass? p).map (·.identifier) = some "LP;" ∧
      (ix.goodClass? q).map (fun c => (c.identifier,(c.methodsLike m).map (·.isPrivate))) =
        some ("LQ;",[true]) ∧
      ((methodFamily "LP;" m).ask s ix).1 = some ⟨["LP;->secret()V","LQ;->secret()V"],
        [⟨p,.within 2 16 22⟩,⟨q,.within 2 16 22⟩]⟩ ∧
      ¬ReferencesStay s ix p ⟨2,16⟩ "LP;" ∧ ¬RenameStays s ix p ⟨2,16⟩ "open" "LP;" := by
  intro p q s ix m
  have hcomplete : ix.Complete s.source :=
    Index.complete_load rfl rfl (MemoryProject.ignoresSpelling _) rfl
  have hm : m.isConstructor = false := by decide
  obtain ⟨hspelled,hspot,hclass,hclass',hfamily⟩ : ix.SpellsParents ∧
      ((spotIn? p ⟨2,16⟩).ask s ix).1 = some (some (.methodDefinition m)) ∧
      (ix.goodClass? p).map (·.identifier) = some "LP;" ∧
      (ix.goodClass? q).map (fun c => (c.identifier,(c.methodsLike m).map (·.isPrivate))) =
        some ("LQ;",[true]) ∧
      ((methodFamily "LP;" m).ask s ix).1 = some ⟨["LP;->secret()V","LQ;->secret()V"],
        [⟨p,.within 2 16 22⟩,⟨q,.within 2 16 22⟩]⟩ := by decide +kernel
  obtain ⟨hextends,hdeclares⟩ :
      ix.Extends "LQ;" "LP;" ∧ ix.DeclaresMethod m true "LQ;" := by decide +kernel
  have hfound : ix.FoundIn m "LP;" "LQ;" := (hcomplete.toAllRead.foundIn_iff hspelled hm).mpr
    ((ix.inFamily_self m "LP;").of_below (.inr (.single hextends)))
  obtain ⟨c,hc,hid⟩ := Option.map_eq_some_iff.mp hclass
  refine ⟨hcomplete,by decide,hspot,hclass,hclass',hfamily,fun hstays => ?_,fun hstays => ?_⟩
  · rw [← hid, referencesStay_iff hcomplete hspot rfl hc, hid] at hstays
    exact hstays "LQ;" hfound (by decide) hdeclares
  · rw [← hid, renameStays_iff hcomplete hspot rfl hc hm (by decide), hid] at hstays
    exact hstays "LQ;" hfound (by decide) hdeclares

end Query

end SmaliNavigator
