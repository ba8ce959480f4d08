import SmaliNavigator.Proofs.Member.Identity
import SmaliNavigator.Proofs.Navigation.Edits
import SmaliNavigator.Proofs.Navigation.Resolution
import SmaliNavigator.Proofs.Query.Roots

/-!
The family of a method, and the rename of it.

The family of a method that is seen in a class goes down from the classes at or above that class that
declare the method. From another class of the family there may be other ones above, which were not
looked for. The families of two classes are the same exactly if each has in it what the other one goes
down from, and then the rename is the same from both.
-/

set_option autoImplicit false

namespace SmaliNavigator

/-! ### The same method -/

namespace Method

section Same

variable {m n : Method} (h : m.same n = true)
include h

theorem methodsLike_congr (c : Class) : c.methodsLike m = c.methodsLike n :=
  List.filter_congr fun k _ => same_congr h k

theorem declaresMethod_congr {ix : Index} {acceptPrivate : Bool} {identifier : String} :
    ix.DeclaresMethod m acceptPrivate identifier ↔ ix.DeclaresMethod n acceptPrivate identifier := by
  unfold Index.DeclaresMethod
  simp only [methodsLike_congr h]

end Same

theorem key_inj {m : Method} {x y : String} : m.key x = m.key y ↔ x = y := by
  refine ⟨fun h => ?_,fun h => h ▸ rfl⟩
  simpa [key, referenceKey, String.append_assoc] using h

end Method

namespace Index

/-! ### What a family goes down from -/

/-- A family that is seen in a class goes down from the classes at or above it that declare the method.
If there are none, it goes down from the class. -/
def Heads (ix : Index) (m : Method) (owner d : String) : Prop :=
  (d = owner ∨ ix.Below owner d) ∧ ix.DeclaresMethod m false d ∨
    d = owner ∧ ∀ u, u = owner ∨ ix.Below owner u → ¬ix.DeclaresMethod m false u

/-- The classes of the family that is seen in a class. -/
def InFamily (ix : Index) (m : Method) (owner x : String) : Prop :=
  ∃ d, ix.Heads m owner d ∧ (x = d ∨ ix.Below x d)

/-- The classes that are found for the family that is seen in a class: some classes, and the subclasses
that are found of each. A constructor is reached through its class only. -/
def FoundIn (ix : Index) (m : Method) (owner x : String) : Prop :=
  if m.isConstructor then x = owner
  else ∃ id, (id ∈ ix.rootsOf m false owner ∨ ix.rootsOf m false owner = [] ∧ id = owner) ∧
    (x = id ∨ x ∈ ix.subclassesOf id)

/-- All that the family of one class goes down from is in the family of another one. -/
def Covers (ix : Index) (m : Method) (x y : String) : Prop :=
  ∀ d, ix.Heads m x d → ix.InFamily m y d

section Families

variable {ix : Index} {m : Method} {owner x y : String}

theorem Below.trans_or {z : String} (h : x = y ∨ ix.Below x y) (h' : y = z ∨ ix.Below y z) :
    x = z ∨ ix.Below x z := by
  rcases h with rfl | h
  · exact h'
  · rcases h' with rfl | h'
    · exact .inr h
    · exact .inr (h.trans h')

theorem InFamily.of_below (h : ix.InFamily m owner y) (hx : x = y ∨ ix.Below x y) :
    ix.InFamily m owner x := by
  obtain ⟨d,hd,hy⟩ := h
  exact ⟨d,hd,Below.trans_or hx hy⟩

theorem covers_iff : ix.Covers m x y ↔ ∀ z, ix.InFamily m x z → ix.InFamily m y z := by
  constructor
  · rintro hcovers z ⟨d,hd,hz⟩
    exact (hcovers d hd).of_below hz
  · intro h d hd
    exact h d ⟨d,hd,.inl rfl⟩

theorem covers_refl (x : String) : ix.Covers m x x := fun d hd => ⟨d,hd,.inl rfl⟩

/-- A class that declares the method has in its family exactly what is below such classes above it. -/
theorem covers_of_declares (hdeclares : ix.DeclaresMethod m false x) : ix.Covers m x y ↔
    ∀ d, d = x ∨ ix.Below x d → ix.DeclaresMethod m false d → ix.InFamily m y d := by
  constructor
  · intro hcovers d hd hdeclared
    exact hcovers d (.inl ⟨hd,hdeclared⟩)
  · rintro h d (⟨hd,hdeclared⟩ | ⟨_,hnone⟩)
    · exact h d hd hdeclared
    · exact absurd hdeclares (hnone x (.inl rfl))

/-- Where one class is above all others that declare the method, there is one family. -/
theorem covers_of_top {top : String} (htop : ix.DeclaresMethod m false top)
    (hall : ∀ d, ix.DeclaresMethod m false d → d = top ∨ ix.Below d top)
    (hx : top = x ∨ ix.Below x top) (hy : top = y ∨ ix.Below y top) : ix.Covers m x y := by
  rintro d (⟨_,hdeclared⟩ | ⟨_,hnone⟩)
  · exact ⟨top,.inl ⟨hy,htop⟩,hall d hdeclared⟩
  · exact absurd htop (hnone top hx)

end Families

/-- The keys of a method are those of the classes of its family, and it is declared where one of them
declares it. -/
structure IsMethodFamily (ix : Index) (m : Method) (owner : String) (family : MemberFamily) : Prop where
  symbols : ∀ key, key ∈ family.symbols ↔ ∃ x, ix.InFamily m owner x ∧ key = m.key x
  declarations : ∀ l, l ∈ family.declarations ↔ ∃ x, ix.InFamily m owner x ∧
    ∃ d ∈ ix.membersIn (·.methodsLike m) x, l = ⟨d.file,d.member.name.span⟩

/-- The same of the classes that are found for the family. -/
structure IsFoundFamily (ix : Index) (m : Method) (owner : String) (family : MemberFamily) : Prop where
  symbols : ∀ key, key ∈ family.symbols ↔ ∃ x, ix.FoundIn m owner x ∧ key = m.key x
  declarations : ∀ l, l ∈ family.declarations ↔ ∃ x, ix.FoundIn m owner x ∧
    ∃ d ∈ ix.membersIn (·.methodsLike m) x, l = ⟨d.file,d.member.name.span⟩

namespace IsMethodFamily

variable {ix : Index} {m : Method} {x y : String} {family family' : MemberFamily}

theorem of_same {n : Method} (h : ix.IsMethodFamily n x family) (hsame : n.same m = true) :
    ix.IsMethodFamily m x family := by
  have hfamily (z : String) : ix.InFamily n x z ↔ ix.InFamily m x z := by
    simp only [InFamily, Heads, Method.declaresMethod_congr hsame]
  constructor
  case symbols =>
    intro key
    rw [h.symbols]
    simp only [hfamily, Method.key_congr hsame]
  case declarations =>
    intro l
    rw [h.declarations]
    simp only [hfamily, Method.methodsLike_congr hsame]

theorem key_mem (h : ix.IsMethodFamily m x family) {z : String} :
    m.key z ∈ family.symbols ↔ ix.InFamily m x z := by
  rw [h.symbols]
  constructor
  · rintro ⟨z',hz,hkey⟩
    rwa [Method.key_inj.mp hkey]
  · exact fun hz => ⟨z,hz,rfl⟩

theorem declaration_mem (h : ix.IsMethodFamily m x family) {z : String} {d : Declaration Method}
    (hd : d ∈ ix.membersIn (·.methodsLike m) z) :
    ⟨d.file,d.member.name.span⟩ ∈ family.declarations ↔ ix.InFamily m x z := by
  rw [h.declarations]
  constructor
  · rintro ⟨z',hz,e,he,hl⟩
    have hfile : d.file = e.file := congrArg Location.file hl
    have howner : d.owner = e.owner := eq_of_goodClass? (goodClass?_of_mem_membersIn hd)
      (goodClass?_of_mem_membersIn he) (hfile ▸ d.file.same_refl)
    rwa [← identifier_of_mem_membersIn hd, howner, identifier_of_mem_membersIn he]
  · exact fun hz => ⟨z,hz,d,hd,rfl⟩

/-- Two families are the same if each has in it what the other one goes down from. -/
theorem same_iff (h : ix.IsMethodFamily m x family) (h' : ix.IsMethodFamily m y family') :
    ((∀ key, key ∈ family.symbols ↔ key ∈ family'.symbols) ∧
        ∀ l, l ∈ family.declarations ↔ l ∈ family'.declarations) ↔
      ix.Covers m x y ∧ ix.Covers m y x := by
  constructor
  · rintro ⟨hsymbols,_⟩
    have hfamily (z : String) : ix.InFamily m x z ↔ ix.InFamily m y z := by
      rw [← h.key_mem, ← h'.key_mem]
      exact hsymbols _
    exact ⟨covers_iff.mpr fun z => (hfamily z).mp,covers_iff.mpr fun z => (hfamily z).mpr⟩
  · rintro ⟨hxy,hyx⟩
    have hfamily (z : String) : ix.InFamily m x z ↔ ix.InFamily m y z :=
      ⟨covers_iff.mp hxy z,covers_iff.mp hyx z⟩
    refine ⟨fun key => ?_,fun l => ?_⟩
    · rw [h.symbols, h'.symbols]
      simp only [hfamily]
    · rw [h.declarations, h'.declarations]
      simp only [hfamily]

end IsMethodFamily

open Query (Answers)

variable {s : Surroundings} {ix : Index}

/-- The walk upwards finds what a family goes down from: if there are roots, the roots are enough. -/
theorem AllRead.inFamily_iff (h : ix.AllRead s.source) {m : Method} {owner x : String} :
    ix.InFamily m owner x ↔
      ∃ id, (id ∈ ix.rootsOf m false owner ∨ ix.rootsOf m false owner = [] ∧ id = owner) ∧
        (x = id ∨ ix.Below x id) := by
  constructor
  · rintro ⟨d,⟨hd,hdeclares⟩ | ⟨rfl,hnone⟩,hx⟩
    · obtain ⟨r,hr,hbelow⟩ := h.exists_mem_rootsOf hd hdeclares
      exact ⟨r,.inl hr,Below.trans_or hx hbelow⟩
    · refine ⟨d,.inr ⟨List.eq_nil_iff_forall_not_mem.mpr fun r hr => ?_,rfl⟩,hx⟩
      obtain ⟨habove,hdeclares⟩ := h.declares_of_mem_rootsOf hr
      exact hnone r habove hdeclares
  · rintro ⟨id,hid | ⟨hroots,rfl⟩,hx⟩
    · exact ⟨id,.inl (h.declares_of_mem_rootsOf hid),hx⟩
    · refine ⟨id,.inr ⟨rfl,fun u hu hdeclares => ?_⟩,hx⟩
      obtain ⟨r,hr,_⟩ := h.exists_mem_rootsOf hu hdeclares
      simp [hroots] at hr

theorem AllRead.inFamily_of_foundIn (h : ix.AllRead s.source) {m : Method}
    (hm : m.isConstructor = false) {owner x : String} (hx : ix.FoundIn m owner x) :
    ix.InFamily m owner x := by
  simp only [FoundIn, hm, Bool.false_eq_true, if_false] at hx
  obtain ⟨id,hid,hx⟩ := hx
  exact h.inFamily_iff.mpr ⟨id,hid,hx.imp_right fun hsub => (below_of_mem_subclassesOf hsub).2⟩

theorem AllRead.foundIn_iff (h : ix.AllRead s.source) (hspelled : ix.SpellsParents) {m : Method}
    (hm : m.isConstructor = false) {owner x : String} :
    ix.FoundIn m owner x ↔ ix.InFamily m owner x := by
  simp only [h.inFamily_iff, FoundIn, hm, Bool.false_eq_true, if_false,
    hspelled.eq_or_mem_subclassesOf]

theorem AllRead.exists_mem_membersIn (h : ix.AllRead s.source) {m : Method} {acceptPrivate : Bool}
    {x : String} (hx : ix.DeclaresMethod m acceptPrivate x) :
    ∃ d, d ∈ ix.membersIn (·.methodsLike m) x := by
  obtain ⟨f,c,hc,rfl,n,hn,_⟩ := hx
  obtain ⟨g,_,hg⟩ := h.exists_mem_declared hc
  exact ⟨⟨g,c,n⟩,mem_membersIn.mpr ⟨hg,hn⟩⟩

/-- No override is in a family without the declarations above it, if the family takes in whatever the
families of its classes go down from. -/
theorem IsMethodFamily.covered_iff (h : ix.AllRead s.source) {m : Method} {owner : String}
    {family : MemberFamily} (hfamily : ix.IsMethodFamily m owner family) :
    (∀ x, ix.InFamily m owner x → ix.DeclaresMethod m false x → ix.Covers m x owner) ↔
      ∀ x, ix.InFamily m owner x → ix.DeclaresMethod m false x →
        ∀ y, ix.Below x y → ix.DeclaresMethod m false y →
          ∀ d ∈ ix.membersIn (·.methodsLike m) y,
            ⟨d.file,d.member.name.span⟩ ∈ family.declarations := by
  refine forall_congr' fun x => forall_congr' fun hx => forall_congr' fun hdeclares => ?_
  rw [covers_of_declares hdeclares]
  constructor
  · intro hcovers y hy hdeclared d hd
    exact (hfamily.declaration_mem hd).mpr (hcovers y (.inr hy) hdeclared)
  · rintro hall y (rfl | hy) hdeclared
    · exact hx
    · obtain ⟨d,hd⟩ := h.exists_mem_membersIn hdeclared
      exact (hfamily.declaration_mem hd).mp (hall y hy hdeclared d hd)

end Index

namespace Query

/-- A place from which a method is renamed as one of a class: the method is declared there, or a
reference names the class. -/
inductive StartsMethod (s : Surroundings) (ix : Index) (file : Path) (p : Position) (m : Method) :
    String → Prop
  | definition {n : Method} {owner : String}
      (hspot : ((spotIn? file p).ask s ix).1 = some (some (.methodDefinition n)))
      (hn : n.same m = true) (howner : (ix.goodClass? file).map (·.identifier) = some owner) :
      StartsMethod s ix file p m owner
  | reference {r : MethodReference}
      (hspot : ((spotIn? file p).ask s ix).1 = some (some (.methodReference r)))
      (hr : r.method.same m = true) : StartsMethod s ix file p m r.owner.raw

end Query

namespace Index

open Query (Answers StartsMethod)

variable {s : Surroundings} {ix : Index} {m : Method}

/-- The edits that put a new name at all places of a family of a method. -/
def renamedMethod (ix : Index) (source : Source) (m : Method) (family : MemberFamily) (new : String) :
    RenameEdits :=
  .ofMember (occurrencesIn family.symbols (ix.liveTexts source)) family.declarations m.name.text new

theorem writes_renamedMethod {source : Source} {family : MemberFamily} {new : String} {l : Location}
    (hl : l ∈ family.declarations) : (ix.renamedMethod source m family new).Writes new l.file l.span :=
  RenameEdits.writes_ofMember.mpr (.inr ⟨l,hl,l.file.same_refl,rfl⟩)

section Complete

variable (h : ix.Complete s.source) (hnever : s.cancellation = .never)
include h hnever

theorem Complete.answers_renameMethod {owner : String} {family : MemberFamily}
    (hfamily : Answers s ix (Query.methodFamily owner m) family) (new : String) :
    Answers s ix (Query.renameMethod owner m new) (.ok (ix.renamedMethod s.source m family new)) :=
  hfamily.bind ((h.answers_findOccurrences hnever _).bind (.pure _))

theorem Complete.answers_methodOwners (m : Method) (owner : String) :
    ∃ family, Answers s ix (Query.methodOwners owner m) family ∧
      ∀ x, x ∈ family ↔ ix.FoundIn m owner x := by
  unfold Query.methodOwners FoundIn
  cases hm : m.isConstructor with
  | true => exact ⟨_,.pure _,fun x => by simp⟩
  | false =>
    have hroots : Answers s ix (Query.rootDeclarers owner m false) (ix.rootsOf m false owner) :=
      h.toAllRead.answers_rootDeclarers hnever hm owner
    cases hlist : ix.rootsOf m false owner with
    | nil =>
      obtain ⟨family,hfamily,hmem⟩ := h.answers_withSubclasses_found hnever [owner] []
      exact ⟨family,(hlist ▸ hroots).bind hfamily,fun x => by rw [hmem]; simp⟩
    | cons root roots =>
      obtain ⟨family,hfamily,hmem⟩ := h.answers_withSubclasses_found hnever (root :: roots) []
      exact ⟨family,(hlist ▸ hroots).bind hfamily,fun x => by rw [hmem]; simp⟩

theorem Complete.answers_methodFamily_found (m : Method) (owner : String) :
    ∃ family, Answers s ix (Query.methodFamily owner m) family ∧ ix.IsFoundFamily m owner family := by
  obtain ⟨ids,hids,hmem⟩ := h.answers_methodOwners hnever m owner
  refine ⟨_,hids.bind ((h.answers_nameLocations _ ids).bind (.pure _)),fun key => ?_,fun l => ?_⟩
  · rw [List.mem_map]
    simp only [hmem, eq_comm]
  · rw [List.mem_flatMap]
    simp only [hmem, mem_map_name]

variable (hspelled : ix.SpellsParents) (hm : m.isConstructor = false)
include hspelled hm

theorem Complete.answers_methodFamily (owner : String) :
    ∃ family, Answers s ix (Query.methodFamily owner m) family ∧ ix.IsMethodFamily m owner family := by
  obtain ⟨family,hanswers,hsymbols,hdeclarations⟩ := h.answers_methodFamily_found hnever m owner
  simp only [h.toAllRead.foundIn_iff hspelled hm] at hsymbols hdeclarations
  exact ⟨family,hanswers,hsymbols,hdeclarations⟩

theorem Complete.isMethodFamily_of_fst_ask {owner : String} {family : MemberFamily}
    (hasked : ((Query.methodFamily owner m).ask s ix).1 = some family) :
    ix.IsMethodFamily m owner family := by
  obtain ⟨found,hfound,hfamily⟩ := h.answers_methodFamily hnever hspelled hm owner
  exact hfound.eq_of_fst_ask h.sound hasked ▸ hfamily

theorem Complete.answers_rename_method {file : Path} {p : Position} {owner new : String}
    (hnew : isMemberName new = true) (hstart : StartsMethod s ix file p m owner) :
    ∃ family, Answers s ix (Query.rename file p new) (.ok (ix.renamedMethod s.source m family new)) ∧
      ix.IsMethodFamily m owner family := by
  cases hstart with
  | @definition n _ hasked hn howner =>
    obtain ⟨c,hc,rfl⟩ := Option.map_eq_some_iff.mp howner
    have hn' : n.isConstructor = false := (Method.isConstructor_congr hn).trans hm
    obtain ⟨family,hanswers,hfamily⟩ := h.answers_methodFamily hnever hspelled hn' c.identifier
    refine ⟨family,(Query.answers_spotIn?_of_ask h.sound hasked).bind ?_,hfamily.of_same hn⟩
    simp only [Query.renameSpot, hn', hnew, if_true]
    refine (Query.answers_classOf?_some hc).bind ?_
    have hrename := h.answers_renameMethod hnever hanswers new
    rwa [renamedMethod, (Method.parts_of_same hn).1] at hrename
  | @reference r hasked hr =>
    have hr' : r.method.isConstructor = false := (Method.isConstructor_congr hr).trans hm
    obtain ⟨family,hanswers,hfamily⟩ := h.answers_methodFamily hnever hspelled hr' r.owner.raw
    refine ⟨family,(Query.answers_spotIn?_of_ask h.sound hasked).bind ?_,hfamily.of_same hr⟩
    simp only [Query.renameSpot, hr', hnew, if_true]
    have hrename := h.answers_renameMethod hnever hanswers new
    rwa [renamedMethod, (Method.parts_of_same hr).1] at hrename

end Complete

end Index

namespace Query

/-- The families of two classes are the same exactly if each has in it what the other one goes down
from. Whatever the classes are, a rename names all declarations of the family it was started in, and
two of them make the same edits where the families are the same. A family has no override without the
declarations above it exactly if it covers the families of all of its classes that declare the
method. -/
theorem methodFamily_same_iff {s : Surroundings} {ix : Index} (h : ix.Complete s.source)
    (hnever : s.cancellation = .never) (hspelled : ix.SpellsParents) {m : Method}
    (hm : m.isConstructor = false) (x y : String) :
    ∃ F G, ((methodFamily x m).ask s ix).1 = some F ∧ ((methodFamily y m).ask s ix).1 = some G ∧
      ix.IsMethodFamily m x F ∧ ix.IsMethodFamily m y G ∧
      (((∀ key, key ∈ F.symbols ↔ key ∈ G.symbols) ∧ ∀ l, l ∈ F.declarations ↔ l ∈ G.declarations) ↔
        ix.Covers m x y ∧ ix.Covers m y x) ∧
      ((∀ z, ix.InFamily m x z → ix.DeclaresMethod m false z → ix.Covers m z x) ↔
        ∀ z, ix.InFamily m x z → ix.DeclaresMethod m false z →
          ∀ w, ix.Below z w → ix.DeclaresMethod m false w →
            ∀ d ∈ ix.membersIn (·.methodsLike m) w, ⟨d.file,d.member.name.span⟩ ∈ F.declarations) ∧
      ∀ file p file' p' new, StartsMethod s ix file p m x → StartsMethod s ix file' p' m y →
        isMemberName new = true →
        ∃ r r', ((rename file p new).ask s ix).1 = some (.ok r) ∧
          ((rename file' p' new).ask s ix).1 = some (.ok r') ∧
          (∀ l ∈ F.declarations, r.Writes new l.file l.span) ∧
          (ix.Covers m x y → ix.Covers m y x →
            r.moves = r'.moves ∧ ∀ g, r.edits.get? g = r'.edits.get? g) := by
  obtain ⟨F,hF,hfamily⟩ := h.answers_methodFamily hnever hspelled hm x
  obtain ⟨G,hG,hfamily'⟩ := h.answers_methodFamily hnever hspelled hm y
  refine ⟨F,G,hF.fst_ask h.sound,hG.fst_ask h.sound,hfamily,hfamily',hfamily.same_iff hfamily',
    hfamily.covered_iff h.toAllRead,fun file p file' p' new hstart hstart' hnew => ?_⟩
  obtain ⟨E,hanswers,hE⟩ := h.answers_rename_method hnever hspelled hm hnew hstart
  obtain ⟨E',hanswers',hE'⟩ := h.answers_rename_method hnever hspelled hm hnew hstart'
  refine ⟨_,_,hanswers.fst_ask h.sound,hanswers'.fst_ask h.sound,fun l hl => ?_,fun hxy hyx => ⟨rfl,?_⟩⟩
  · exact Index.writes_renamedMethod ((hE.declarations l).mpr ((hfamily.declarations l).mp hl))
  · obtain ⟨hsymbols,hdeclarations⟩ := (hE.same_iff hE').mpr ⟨hxy,hyx⟩
    exact RenameEdits.get?_edits_ofMember_congr hsymbols hdeclarations

/-- An override that is renamed by a call through it, and by the declaration above it. -/
theorem methodFamily_same_iff_override :
    let a := Path.ofString "A.smali"
    let c := Path.ofString "C.smali"
    let s : Surroundings := ⟨(((MemoryProject.empty.put a
      ⟨".class LA;\n.super Lb;\n.method f()V\n.end method\n",none⟩).put (.ofString "B.smali")
      ⟨".class LB;\n.super LA;\n.method f()V\n.end method\n",none⟩).put c
      ⟨".class LC;\n.super LB;\n.method g()V\ninvoke-virtual \x7bp0\x7d, LB;->f()V\n.end method\n",
        none⟩).source,.never⟩
    let ix := (Operation.load.query.ask s (.new .default)).2
    let m : Method := ⟨.within 2 0 12,none,[],⟨"f",.within 2 8 9⟩,[],
      .single (.primitive .void (.within 2 11 12))⟩
    ix.Complete s.source ∧ ix.SpellsParents ∧ m.isConstructor = false ∧
      StartsMethod s ix a ⟨2,8⟩ m "LA;" ∧ StartsMethod s ix c ⟨3,26⟩ m "LB;" ∧
      ∃ F G, ((methodFamily "LA;" m).ask s ix).1 = some F ∧ ((methodFamily "LB;" m).ask s ix).1 = some G ∧
        (∀ key, key ∈ F.symbols ↔ key ∈ G.symbols) ∧ (∀ l, l ∈ F.declarations ↔ l ∈ G.declarations) ∧
        ∃ r r', ((rename a ⟨2,8⟩ "h").ask s ix).1 = some (.ok r) ∧
          ((rename c ⟨3,26⟩ "h").ask s ix).1 = some (.ok r') ∧
          r.moves = r'.moves ∧ (∀ g, r.edits.get? g = r'.edits.get? g) ∧
          ∀ l ∈ F.declarations, r.Writes "h" l.file l.span := by
  intro a c s ix m
  have hcomplete : ix.Complete s.source :=
    Index.complete_load rfl rfl (MemoryProject.ignoresSpelling _) rfl
  have hm : m.isConstructor = false := by decide
  let call : MethodReference := ⟨.single (.object ⟨"B",.within 3 21 24⟩),
    ⟨.within 3 21 30,none,[],⟨"f",.within 3 26 27⟩,[],.single (.primitive .void (.within 3 29 30))⟩⟩
  -- the method is declared by the two classes only
  obtain ⟨hspelled,hspota,hclassa,hspotc,hextends,htop,hone⟩ : ix.SpellsParents ∧
      ((spotIn? a ⟨2,8⟩).ask s ix).1 = some (some (.methodDefinition m)) ∧
      (ix.goodClass? a).map (·.identifier) = some "LA;" ∧
      ((spotIn? c ⟨3,26⟩).ask s ix).1 = some (some (.methodReference call)) ∧
      ix.Extends "LB;" "LA;" ∧ ix.DeclaresMethod m false "LA;" ∧
      ix.classes.all (fun x => (x.2.methodsLike m).isEmpty || x.2.identifier == "LA;" ||
        x.2.identifier == "LB;") = true := by decide +kernel
  have hdefinition : StartsMethod s ix a ⟨2,8⟩ m "LA;" := .definition hspota (by decide) hclassa
  have hreference : StartsMethod s ix c ⟨3,26⟩ m "LB;" := .reference hspotc (by decide)
  have hbelow : ix.Below "LB;" "LA;" := .single hextends
  have hall (d : String) (hd : ix.DeclaresMethod m false d) : d = "LA;" ∨ ix.Below d "LA;" := by
    obtain ⟨f,c,hc,rfl,n,hn,_⟩ := hd
    have hhere := List.all_eq_true.mp hone _ hc
    simp only [Bool.or_eq_true, List.isEmpty_iff, List.ne_nil_of_mem hn, false_or, beq_iff_eq] at hhere
    rcases hhere with hid | hid
    · exact .inl hid
    · exact .inr (hid ▸ hbelow)
  have hcovers {x y : String} (hx : "LA;" = x ∨ ix.Below x "LA;")
      (hy : "LA;" = y ∨ ix.Below y "LA;") : ix.Covers m x y := Index.covers_of_top htop hall hx hy
  obtain ⟨F,G,hF,hG,_,_,hsame,_,hrename⟩ :=
    methodFamily_same_iff hcomplete rfl hspelled hm "LA;" "LB;"
  have hxy := hcovers (.inl rfl) (.inr hbelow)
  have hyx := hcovers (.inr hbelow) (.inl rfl)
  obtain ⟨hsymbols,hdeclarations⟩ := hsame.mpr ⟨hxy,hyx⟩
  obtain ⟨r,r',hr,hr',hwrites,hedits⟩ :=
    hrename a ⟨2,8⟩ c ⟨3,26⟩ "h" hdefinition hreference (by decide)
  obtain ⟨hmoves,hedits⟩ := hedits hxy hyx
  exact ⟨hcomplete,hspelled,hm,hdefinition,hreference,F,G,hF,hG,hsymbols,hdeclarations,r,r',hr,hr',
    hmoves,hedits,hwrites⟩

/-- A class below two that declare the method. From one of them it is renamed without the other one,
which it implements too, and from the class itself both are renamed. -/
theorem not_same_methodFamily_two_roots :
    let a := Path.ofString "A.smali"
    let b := Path.ofString "B.smali"
    let i := Path.ofString "I.smali"
    let s : Surroundings := ⟨(((MemoryProject.empty.put a
      ⟨".class LA;\n.super Lb;\n.method f()V\n.end method\n",none⟩).put b
      ⟨".class LB;\n.super LA;\n.implements LI;\n.method f()V\n.end method\n",none⟩).put i
      ⟨".class LI;\n.super Lb;\n.method f()V\n.end method\n",none⟩).source,.never⟩
    let ix := (Operation.load.query.ask s (.new .default)).2
    let m : Method := ⟨.within 2 0 12,none,[],⟨"f",.within 2 8 9⟩,[],
      .single (.primitive .void (.within 2 11 12))⟩
    ix.Complete s.source ∧ ix.SpellsParents ∧ m.isConstructor = false ∧
      ix.DeclaresMethod m false "LA;" ∧ ix.DeclaresMethod m false "LB;" ∧
      ix.Extends "LB;" "LA;" ∧ ix.Extends "LB;" "LI;" ∧
      ((methodFamily "LA;" m).ask s ix).1 = some ⟨["LA;->f()V","LB;->f()V"],
        [⟨a,.within 2 8 9⟩,⟨b,.within 3 8 9⟩]⟩ ∧
      ((methodFamily "LB;" m).ask s ix).1 = some ⟨["LA;->f()V","LB;->f()V","LI;->f()V"],
        [⟨a,.within 2 8 9⟩,⟨b,.within 3 8 9⟩,⟨i,.within 2 8 9⟩]⟩ ∧
      ∃ r r', ((rename a ⟨2,8⟩ "g").ask s ix).1 = some (.ok r) ∧
        ((rename b ⟨3,8⟩ "g").ask s ix).1 = some (.ok r') ∧
        r.Writes "g" b (.within 3 8 9) ∧ ¬r.Writes "g" i (.within 2 8 9) ∧
        r'.Writes "g" b (.within 3 8 9) ∧ r'.Writes "g" i (.within 2 8 9) := by
  intro a b i s ix m
  have hcomplete : ix.Complete s.source :=
    Index.complete_load rfl rfl (MemoryProject.ignoresSpelling _) rfl
  have hm : m.isConstructor = false := by decide
  let n : Method :=
    ⟨.within 3 0 12,none,[],⟨"f",.within 3 8 9⟩,[],.single (.primitive .void (.within 3 11 12))⟩
  obtain ⟨hspelled,hdeclares,hextends,hF,hG⟩ : ix.SpellsParents ∧
      (ix.DeclaresMethod m false "LA;" ∧ ix.DeclaresMethod m false "LB;") ∧
      (ix.Extends "LB;" "LA;" ∧ ix.Extends "LB;" "LI;") ∧
      ((methodFamily "LA;" m).ask s ix).1 = some ⟨["LA;->f()V","LB;->f()V"],
        [⟨a,.within 2 8 9⟩,⟨b,.within 3 8 9⟩]⟩ ∧
      ((methodFamily "LB;" m).ask s ix).1 = some ⟨["LA;->f()V","LB;->f()V","LI;->f()V"],
        [⟨a,.within 2 8 9⟩,⟨b,.within 3 8 9⟩,⟨i,.within 2 8 9⟩]⟩ := by decide +kernel
  obtain ⟨hspota,hclassa,hspotb,hclassb⟩ :
      ((spotIn? a ⟨2,8⟩).ask s ix).1 = some (some (.methodDefinition m)) ∧
      (ix.goodClass? a).map (·.identifier) = some "LA;" ∧
      ((spotIn? b ⟨3,8⟩).ask s ix).1 = some (some (.methodDefinition n)) ∧
      (ix.goodClass? b).map (·.identifier) = some "LB;" := by decide +kernel
  have hfromA : StartsMethod s ix a ⟨2,8⟩ m "LA;" := .definition hspota (by decide) hclassa
  have hfromB : StartsMethod s ix b ⟨3,8⟩ m "LB;" := .definition hspotb (by decide) hclassb
  have hnew : isMemberName "g" = true := by decide
  obtain ⟨E,hE,hfamilyE⟩ := hcomplete.answers_rename_method rfl hspelled hm hnew hfromA
  obtain ⟨E',hE',hfamilyE'⟩ := hcomplete.answers_rename_method rfl hspelled hm hnew hfromB
  obtain ⟨hsymbols,hdeclarations⟩ :=
    (hfamilyE.same_iff (hcomplete.isMethodFamily_of_fst_ask rfl hspelled hm hF)).mpr
      ⟨Index.covers_refl _,Index.covers_refl _⟩
  obtain ⟨_,hdeclarations'⟩ :=
    (hfamilyE'.same_iff (hcomplete.isMethodFamily_of_fst_ask rfl hspelled hm hG)).mpr
      ⟨Index.covers_refl _,Index.covers_refl _⟩
  have hleft : ¬(ix.renamedMethod s.source m E "g").Writes "g" i (.within 2 8 9) := by
    intro hwrites
    rcases RenameEdits.writes_ofMember.mp hwrites with ⟨key,hkey,_,_,g,d,hd,l,hl,_⟩ | ⟨l,hl,hfile,_⟩
    · -- no text of the project has a reference
      have hnone : ∀ key ∈ ["LA;->f()V","LB;->f()V"], ∀ x ∈ ix.liveTexts s.source,
          symbolLocations key x.1 x.2 = [] := by decide +kernel
      rw [hnone key ((hsymbols key).mp hkey) _ hd] at hl
      cases hl
    · have hother : ∀ l ∈ [(⟨a,.within 2 8 9⟩ : Location),⟨b,.within 3 8 9⟩],
          l.file.same i = false := by decide +kernel
      rw [hother l ((hdeclarations l).mp hl)] at hfile
      cases hfile
  refine ⟨hcomplete,hspelled,hm,hdeclares.1,hdeclares.2,hextends.1,hextends.2,hF,hG,_,_,
    hE.fst_ask hcomplete.sound,hE'.fst_ask hcomplete.sound,?_,hleft,?_,?_⟩
  · exact Index.writes_renamedMethod (l := ⟨b,.within 3 8 9⟩) ((hdeclarations _).mpr (by simp))
  · exact Index.writes_renamedMethod (l := ⟨b,.within 3 8 9⟩) ((hdeclarations' _).mpr (by simp))
  · exact Index.writes_renamedMethod (l := ⟨i,.within 2 8 9⟩) ((hdeclarations' _).mpr (by simp))

end Query

end SmaliNavigator
