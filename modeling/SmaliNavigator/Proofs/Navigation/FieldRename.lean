import SmaliNavigator.Proofs.Navigation.Edits
import SmaliNavigator.Proofs.Navigation.FieldKeys
import SmaliNavigator.Proofs.Navigation.Resolution

/-!
When the renaming of a field leaves every reference with the declaration that it is resolved to.

The places that are renamed are found from the declaring class downwards, by the text of the keys.
Resolution goes upwards from the owner of a reference and stops at the first class that declares the
field. The two agree exactly if no class below the declaring one that is referred to finds another
declaration on its way up.
-/

set_option autoImplicit false

namespace SmaliNavigator

open Text

namespace Index

/-- A class of the project has a reference to the field with an owner. -/
def Refers (ix : Index) (f : Field) (owner : String) (file : Path) (c : Class) (span : Span) : Prop :=
  (file,c) ∈ ix.classes ∧ span ∈ c.referencesTo (f.key owner)

/-- What the searches go by is in the texts: the names of the parents as the walk downwards looks for
them, plain names of classes, and references to the field that no symbol runs into. -/
structure Searchable (ix : Index) (f : Field) (owner : String) : Prop where
  spelled : ix.SpellsParents
  plain : ∀ id, id = owner ∨ id ∈ ix.declaredIdentifiers → IsPlain id
  apart : ∀ x g c span, ix.Refers f x g c span → c.document.continuesAt span.start = false

theorem Searchable.of_all {ix : Index} {f : Field} {owner : String} (howner : IsPlain owner)
    (h : ix.classes.all (fun x => decide (IsPlain x.2.identifier) &&
      (x.2.parentIdentifiers.all fun parent => Query.mentionsChildOf [parent] x.2.document) &&
      x.2.references.entries.all fun e => e.2.all fun span =>
        !x.2.document.continuesAt span.start) = true) : ix.Searchable f owner := by
  simp only [List.all_eq_true, Bool.and_eq_true, decide_eq_true_eq] at h
  refine ⟨fun x hx parent hparent => (h x hx).1.2 parent hparent,fun id hid => ?_,
    fun x g c span hrefers => ?_⟩
  · rcases hid with rfl | hid
    · exact howner
    · obtain ⟨x,hx,rfl⟩ := List.mem_map.mp hid
      exact (h x hx).1.1
  · obtain ⟨spans,hspans,hspan⟩ := Class.exists_entry_of_mem_referencesTo hrefers.2
    simpa using (h _ hrefers.1).2 _ hspans span hspan

end Index

/-- A rename leaves the references with their declarations: all that a renamed reference is resolved
to is renamed, and so is each reference that is resolved to something renamed. -/
structure RenameEdits.Agrees (r : RenameEdits) (s : Surroundings) (ix : Index) (f : Field)
    (new : String) : Prop where
  resolves : ∀ x g c span, ix.Refers f x g c span → r.Writes new g (f.nameSpan x span.start) →
    ∃ found, ((Query.resolveField x f).ask s ix).1 = some found ∧
      ∀ d ∈ found, r.Writes new d.file d.member.name.span
  edited : ∀ x g c span found d, ix.Refers f x g c span →
    ((Query.resolveField x f).ask s ix).1 = some found → d ∈ found →
    r.Writes new d.file d.member.name.span → r.Writes new g (f.nameSpan x span.start)

namespace Query

/-- The class whose field is renamed from a place: the one that declares it there, the one that a
reference is resolved to, or the owner that a reference names if it is resolved to nothing. -/
inductive StartsField (s : Surroundings) (ix : Index) (file : Path) (p : Position) (f : Field) :
    String → Prop
  | definition {owner : String}
      (hspot : ((spotIn? file p).ask s ix).1 = some (some (.fieldDefinition f)))
      (howner : (ix.goodClass? file).map (·.identifier) = some owner) : StartsField s ix file p f owner
  | resolved {r : FieldReference} {d : Declaration Field} {ds : List (Declaration Field)}
      (hspot : ((spotIn? file p).ask s ix).1 = some (some (.fieldReference r))) (hf : r.field = f)
      (hfound : ((resolveField r.owner.raw f).ask s ix).1 = some (d :: ds)) :
      StartsField s ix file p f d.owner.identifier
  | unresolved {r : FieldReference}
      (hspot : ((spotIn? file p).ask s ix).1 = some (some (.fieldReference r))) (hf : r.field = f)
      (hfound : ((resolveField r.owner.raw f).ask s ix).1 = some []) :
      StartsField s ix file p f r.owner.raw

end Query

namespace Index

/-- The edits that put a new name at all places of a family of a field. -/
def renamed (ix : Index) (f : Field) (family : MemberFamily) (new : String) : RenameEdits :=
  .ofMember (occurrencesIn family.symbols ix.texts) family.declarations f.name.text new

namespace Loaded

open Query (Answers StartsField)

variable {s : Surroundings} {ix : Index} (h : ix.Loaded s.source)
include h

/-! ### The question -/

theorem answers_renameField (hnever : s.cancellation = .never) {f : Field} {seen : String}
    {isDeclaration : Bool} {family : MemberFamily}
    (hfamily : Answers s ix (Query.fieldFamily seen f isDeclaration) family) (new : String) :
    Answers s ix (Query.renameField seen f isDeclaration new) (.ok (ix.renamed f family new)) :=
  hfamily.bind ((h.answers_findOccurrences hnever _).bind (.pure _))

section Rename

variable (hnever : s.cancellation = .never) (hspelled : ix.SpellsParents) {file : Path} {p : Position}
  {f : Field} {owner new : String} (hnew : isMemberName new = true)
include hnever hspelled hnew

theorem answers_rename_definition
    (hspot : Answers s ix (Query.spotIn? file p) (some (.fieldDefinition f)))
    (howner : (ix.goodClass? file).map (·.identifier) = some owner) :
    ∃ family, Answers s ix (Query.rename file p new) (.ok (ix.renamed f family new)) ∧
      ix.IsFamily f owner family := by
  obtain ⟨c,hc,rfl⟩ := Option.map_eq_some_iff.mp howner
  obtain ⟨family,hanswers,hfamily⟩ := h.answers_fieldFamily_declared hnever hspelled f c.identifier
  refine ⟨family,hspot.bind ?_,hfamily⟩
  simp only [Query.renameSpot, hnew, if_true]
  exact (Query.answers_classOf?_some hc).bind (h.answers_renameField hnever hanswers new)

theorem answers_rename_reference {r : FieldReference} {found : List (Declaration Field)}
    (hspot : Answers s ix (Query.spotIn? file p) (some (.fieldReference r)))
    (hfound : ((Query.resolveField r.owner.raw r.field).ask s ix).1 = some found)
    (howner : found = [] ∧ owner = r.owner.raw ∨
      found ≠ [] ∧ ∀ d ∈ found, d.owner.identifier = owner) :
    ∃ family, Answers s ix (Query.rename file p new) (.ok (ix.renamed r.field family new)) ∧
      ix.IsFamily r.field owner family := by
  obtain ⟨family,hanswers,hfamily⟩ := h.answers_fieldFamily_resolved hnever hspelled
    (h.resolveField_cases hnever hfound).1 howner
  refine ⟨family,hspot.bind ?_,hfamily⟩
  simp only [Query.renameSpot, hnew, if_true]
  exact h.answers_renameField hnever hanswers new

theorem answers_rename (hstart : StartsField s ix file p f owner) :
    ∃ family, Answers s ix (Query.rename file p new) (.ok (ix.renamed f family new)) ∧
      ix.IsFamily f owner family := by
  cases hstart with
  | definition hasked howner =>
    exact h.answers_rename_definition hnever hspelled hnew
      (Query.answers_spotIn?_of_ask h.sound hasked) howner
  | resolved hasked hf hfound =>
    subst hf
    refine h.answers_rename_reference hnever hspelled hnew
      (Query.answers_spotIn?_of_ask h.sound hasked) hfound (.inr ⟨List.cons_ne_nil _ _,fun e he => ?_⟩)
    obtain ⟨-,hall⟩ := h.owner_of_mem_resolveField hnever hfound _ List.mem_cons_self
    rw [hall] at he
    exact identifier_of_mem_membersIn he
  | unresolved hasked hf hfound =>
    subst hf
    exact h.answers_rename_reference hnever hspelled hnew
      (Query.answers_spotIn?_of_ask h.sound hasked) hfound (.inl ⟨rfl,rfl⟩)

end Rename

end Loaded

/-! ### Keys of the project -/

section Keys

variable {ix : Index} {f : Field} {x owner : String} {g : Path} {c : Class} {span : Span}

theorem Refers.exists_keyAt (h : ix.Refers f x g c span) :
    ∃ before, c.document.Shows before (f.key x).toList span ∧
      f.KeyAt c.document x span.start before := by
  obtain ⟨hc,hspan⟩ := h
  obtain ⟨text,_,hread⟩ := goodClass?_eq_some (mem_classes.mp hc).2
  obtain ⟨before,hshows⟩ := Class.isIn_of_mem_referencesTo hread hspan
  rw [← Class.document_of_ofDocument hread] at hshows
  have hinline : '\n' ∉ x.toList := by
    have hkey := (Class.isReferenceKey_of_mem_referencesTo hread hspan).not_mem
    simp only [Field.key, referenceKey, String.toList_append, List.mem_append, not_or] at hkey
    exact hkey.1.1
  exact ⟨before,hshows,hshows.occurs,hshows.start_eq,hinline⟩

theorem exists_keyAt_of_mem_symbolLocations (hx : IsPlain x) {d : Document} {l : Location}
    (hl : l ∈ symbolLocations (f.key x) g d) :
    ∃ before, f.KeyAt d x l.span.start before ∧ before.getLast?.any continuesSymbol = false := by
  obtain ⟨before,rest,hchars,_,hstart,hbefore⟩ := exists_of_mem_symbolLocations hl
  have hinline : '\n' ∉ x.toList := hx.not_mem (by decide) (by decide)
  exact ⟨before,⟨⟨rest,by rw [hchars, List.append_assoc]⟩,hstart,hinline⟩,hbefore⟩

theorem startsWord_of_mem_membersIn {d : Declaration Field}
    (hd : d ∈ ix.membersIn (·.fieldsLike f) owner) :
    d.owner.document.StartsWord d.member.name.span.start := by
  obtain ⟨text,_,hread⟩ := goodClass?_eq_some (goodClass?_of_mem_membersIn hd)
  rw [Class.document_of_ofDocument hread]
  exact (Class.isDeclared_of_mem_fields hread (List.mem_filter.mp (mem_membersIn.mp hd).2).1).startsWord

end Keys

/-! ### The places of a family -/

theorem Searchable.isPlain_of_below {ix : Index} {f : Field} {owner y : String}
    (h : ix.Searchable f owner) (hy : y = owner ∨ ix.Below y owner) : IsPlain y :=
  h.plain y (hy.imp_right Below.mem_declaredIdentifiers)

section Family

variable {ix : Index} {f : Field} {owner new : String} {family : MemberFamily}
  (hfamily : ix.IsFamily f owner family) (hsearch : ix.Searchable f owner)
include hfamily hsearch

/-- The names are put behind the keys of the classes of the family, and where the field is declared. -/
theorem writes_renamed {file : Path} {span : Span} :
    (ix.renamed f family new).Writes new file span ↔
      (∃ y, (y = owner ∨ ix.Below y owner) ∧ ∃ g c, (g,c) ∈ ix.classes ∧ g.same file = true ∧
        ∃ l ∈ symbolLocations (f.key y) g c.document, span = f.nameSpan y l.span.start) ∨
      ∃ d ∈ ix.membersIn (·.fieldsLike f) owner, d.file.same file = true ∧
        d.member.name.span = span := by
  have hcolumn {y : String} (hy : y = owner ∨ ix.Below y owner) :
      RenameEdits.nameColumn? (f.key y) = some (y.utf8ByteSize + 2) :=
    RenameEdits.nameColumn?_key
      ((hsearch.isPlain_of_below hy).not_mem (by decide) (by decide)) f
  unfold renamed
  rw [RenameEdits.writes_ofMember]
  refine or_congr ⟨?_,?_⟩ ⟨?_,?_⟩
  · rintro ⟨key,hkey,col,hcol,g,d,hd,l,hl,hsame,hspan⟩
    obtain ⟨y,hy,rfl⟩ := (hfamily.symbols key).mp hkey
    obtain ⟨c,hc,rfl⟩ := mem_texts.mp hd
    obtain rfl : y.utf8ByteSize + 2 = col := Option.some.inj ((hcolumn hy).symm.trans hcol)
    obtain ⟨_,_,_,hfile,_⟩ := exists_of_mem_symbolLocations hl
    exact ⟨y,hy,g,c,hc,hfile ▸ hsame,l,hl,hspan⟩
  · rintro ⟨y,hy,g,c,hc,hsame,l,hl,hspan⟩
    obtain ⟨_,_,_,hfile,_⟩ := exists_of_mem_symbolLocations hl
    exact ⟨_,(hfamily.symbols _).mpr ⟨y,hy,rfl⟩,_,hcolumn hy,g,_,mem_texts.mpr ⟨c,hc,rfl⟩,l,hl,
      hfile ▸ hsame,hspan⟩
  · rintro ⟨l,hl,hsame,hspan⟩
    obtain ⟨d,hd,rfl⟩ := (hfamily.declarations l).mp hl
    exact ⟨d,hd,hsame,hspan⟩
  · rintro ⟨d,hd,hsame,hspan⟩
    exact ⟨_,(hfamily.declarations _).mpr ⟨d,hd,rfl⟩,hsame,hspan⟩

/-- A reference that is renamed is one of the family, or has an owner with a name that could be part of
a longer symbol. -/
theorem below_of_writes {x : String} (hx : IsPlain x) {g : Path} {c : Class} {span : Span}
    (hrefers : ix.Refers f x g c span)
    (hwrites : (ix.renamed f family new).Writes new g (f.nameSpan x span.start)) :
    x = owner ∨ ix.Below x owner := by
  obtain ⟨before,hshows,hkey⟩ := hrefers.exists_keyAt
  have hgood := (mem_classes.mp hrefers.1).2
  rcases (writes_renamed hfamily hsearch).mp hwrites with
    ⟨y,hy,g',c',hc',hsame,l,hl,hname⟩ | ⟨d,hd,hsame,hname⟩
  · obtain rfl := eq_of_goodClass? (mem_classes.mp hc').2 hgood hsame
    have hplain := hsearch.isPlain_of_below hy
    obtain ⟨before',hkey',hbefore'⟩ := exists_keyAt_of_mem_symbolLocations hplain hl
    have hbefore := hsearch.apart x g c' span hrefers
    rw [hkey.continuesAt] at hbefore
    obtain rfl := hx.eq_of_append_eq hplain (hkey.append_eq hkey' hname) hbefore hbefore'
    exact hy
  · obtain rfl := eq_of_goodClass? (goodClass?_of_mem_membersIn hd) hgood hsame
    exact absurd (hname ▸ startsWord_of_mem_membersIn hd) hkey.not_startsWord

theorem writes_of_below {x : String} (hx : x = owner ∨ ix.Below x owner) {g : Path} {c : Class}
    {span : Span} (hrefers : ix.Refers f x g c span) :
    (ix.renamed f family new).Writes new g (f.nameSpan x span.start) := by
  obtain ⟨before,hshows,hkey⟩ := hrefers.exists_keyAt
  have hbefore := hsearch.apart x g c span hrefers
  rw [hkey.continuesAt] at hbefore
  have hfound := (hshows.mem_symbolLocations g).mpr hbefore
  exact (writes_renamed hfamily hsearch).mpr
    (.inl ⟨x,hx,g,c,hrefers.1,g.same_refl,_,hfound,rfl⟩)

theorem writes_declaration {d : Declaration Field} (hd : d ∈ ix.membersIn (·.fieldsLike f) owner) :
    (ix.renamed f family new).Writes new d.file d.member.name.span :=
  (writes_renamed hfamily hsearch).mpr (.inr ⟨d,hd,d.file.same_refl,rfl⟩)

theorem owner_of_writes {x : String} {d : Declaration Field} (hd : d ∈ ix.membersIn (·.fieldsLike f) x)
    (hwrites : (ix.renamed f family new).Writes new d.file d.member.name.span) : x = owner := by
  have hgood := goodClass?_of_mem_membersIn hd
  rcases (writes_renamed hfamily hsearch).mp hwrites with
    ⟨y,hy,g,c,hc,hsame,l,hl,hname⟩ | ⟨e,he,hsame,_⟩
  · obtain rfl := eq_of_goodClass? (mem_classes.mp hc).2 hgood hsame
    obtain ⟨_,hkey,_⟩ := exists_keyAt_of_mem_symbolLocations (hsearch.isPlain_of_below hy) hl
    exact absurd (hname ▸ startsWord_of_mem_membersIn hd) hkey.not_startsWord
  · have howner := eq_of_goodClass? (goodClass?_of_mem_membersIn he) hgood hsame
    rw [← identifier_of_mem_membersIn hd, ← howner, identifier_of_mem_membersIn he]

end Family

namespace Loaded

variable {s : Surroundings} {ix : Index} (h : ix.Loaded s.source)
include h

theorem agrees_renamed_iff (hnever : s.cancellation = .never) {f : Field} {owner : String}
    {family : MemberFamily} (hfamily : ix.IsFamily f owner family) (hsearch : ix.Searchable f owner)
    {new : String} : (ix.renamed f family new).Agrees s ix f new ↔
      ∀ x g c span found, ix.Refers f x g c span → x = owner ∨ ix.Below x owner →
        ((Query.resolveField x f).ask s ix).1 = some found →
        ∀ d ∈ found, d.owner.identifier = owner := by
  constructor
  · intro hagrees x g c span found hrefers hx hfound d hd
    obtain ⟨found',hfound',hall⟩ :=
      hagrees.resolves x g c span hrefers (writes_of_below hfamily hsearch hx hrefers)
    obtain rfl : found = found' := Option.some.inj (hfound.symm.trans hfound')
    obtain ⟨_,hfrom⟩ := h.owner_of_mem_resolveField hnever hfound d hd
    exact owner_of_writes hfamily hsearch (hfrom ▸ hd) (hall d hd)
  intro hone
  constructor
  case resolves =>
    intro x g c span hrefers hwrites
    obtain ⟨found,hanswers,_⟩ := h.answers_resolveField hnever x f
    have hfound := hanswers.fst_ask h.sound
    refine ⟨found,hfound,fun d hd => ?_⟩
    by_cases hx : IsPlain x
    · have hbelow := below_of_writes hfamily hsearch hx hrefers hwrites
      have howner := hone x g c span found hrefers hbelow hfound d hd
      obtain ⟨_,hfrom⟩ := h.owner_of_mem_resolveField hnever hfound d hd
      rw [hfrom, howner] at hd
      exact writes_declaration hfamily hsearch hd
    · -- the project declares no such class, which is resolved to nothing
      have hundeclared : x ∉ ix.declaredIdentifiers := fun hx' => hx (hsearch.plain x (.inr hx'))
      have hnil := h.answers_resolveField_nil hnever hundeclared f
      obtain rfl := hnil.eq_of_fst_ask h.sound hfound
      cases hd
  case edited =>
    intro x g c span found d hrefers hfound hd hwrites
    obtain ⟨hbelow,hfrom⟩ := h.owner_of_mem_resolveField hnever hfound d hd
    have howner := owner_of_writes hfamily hsearch (hfrom ▸ hd) hwrites
    rw [howner] at hbelow
    exact writes_of_below hfamily hsearch (hbelow.imp_left Eq.symm) hrefers

end Loaded

end Index

/-- From whatever place it is started, a field rename renames the declarations of one class, and it
agrees with the resolution of the field exactly if every reference through that class, or through a
class below it, is resolved to that class. -/
theorem Query.rename_agrees_iff {ix : Index} {s : Surroundings} (h : ix.Loaded s.source)
    (hnever : s.cancellation = .never) {file : Path} {p : Position} {f : Field} {owner : String}
    (hstart : StartsField s ix file p f owner) (hsearch : ix.Searchable f owner) {new : String}
    (hnew : isMemberName new = true) :
    ∃ r, ((rename file p new).ask s ix).1 = some (.ok r) ∧
      (∀ d ∈ ix.membersIn (·.fieldsLike f) owner, r.Writes new d.file d.member.name.span) ∧
      (r.Agrees s ix f new ↔ ∀ x g c span found,
        ix.Refers f x g c span → x = owner ∨ ix.Below x owner →
        ((resolveField x f).ask s ix).1 = some found → ∀ d ∈ found, d.owner.identifier = owner) := by
  obtain ⟨family,hanswers,hfamily⟩ := h.answers_rename hnever hsearch.spelled hnew hstart
  exact ⟨_,hanswers.fst_ask h.sound,fun d hd => Index.writes_declaration hfamily hsearch hd,
    h.agrees_renamed_iff hnever hfamily hsearch⟩

/-- A field that is renamed where it is declared, with a reference through a subclass. -/
theorem Query.rename_agrees_iff_inherited :
    let a := ".class LA;\n.super Lb;\n.field x:I\n"
    let b := ".class LB;\n.super LA;\n.method f()V\niget v0, p0, LB;->x:I\n.end method\n"
    let file := Path.ofString "A.smali"
    let s : Surroundings := ⟨((MemoryProject.empty.put file ⟨a,none⟩).put (.ofString "B.smali")
      ⟨b,none⟩).source,.never⟩
    let ix := (Operation.load.query.ask s (.new .default)).2
    let f : Field := ⟨.within 2 0 10,[],⟨"x",.within 2 7 8⟩,
      .single (.primitive .int (.within 2 9 10)),none⟩
    ((spotIn? file ⟨2,7⟩).ask s ix).1 = some (some (.fieldDefinition f)) ∧
      ∃ r, ((rename file ⟨2,7⟩ "y").ask s ix).1 = some (.ok r) ∧
        r.Writes "y" file (.within 2 7 8) ∧ r.Agrees s ix f "y" := by
  intro a b file s ix f
  have hloaded : ix.Loaded s.source :=
    .of_all (.step s .load (.new .default)) (by decide +kernel)
  have hspot : ((spotIn? file ⟨2,7⟩).ask s ix).1 = some (some (.fieldDefinition f)) := by
    decide +kernel
  have hsearch : ix.Searchable f "LA;" :=
    .of_all (by decide +kernel) (by decide +kernel)
  have hstart : StartsField s ix file ⟨2,7⟩ f "LA;" := .definition hspot (by decide +kernel)
  have hnew : isMemberName "y" = true := by decide
  obtain ⟨r,hr,hwrites,hiff⟩ := rename_agrees_iff hloaded rfl hstart hsearch hnew
  have hdeclared : (ix.membersIn (·.fieldsLike f) "LA;").map (fun d => (d.file,d.member.name.span)) =
      [(file,.within 2 7 8)] := by decide +kernel
  have hwritten : r.Writes "y" file (.within 2 7 8) := by
    obtain ⟨d,hd,heq⟩ := List.mem_map.mp (hdeclared ▸ List.mem_singleton.mpr rfl)
    obtain ⟨hfile,hname⟩ := Prod.mk.inj heq
    rw [← hfile, ← hname]
    exact hwrites d hd
  refine ⟨hspot,r,hr,hwritten,hiff.mpr fun x g c span found _ _ hfound d hd => ?_⟩
  -- no other class of the project declares the field
  have hone : ix.classes.all (fun x => (x.2.fieldsLike f).isEmpty || x.2.identifier == "LA;") = true := by
    decide +kernel
  obtain ⟨_,hfrom⟩ := hloaded.owner_of_mem_resolveField rfl hfound d hd
  rw [hfrom] at hd
  obtain ⟨g',_,hc⟩ := Index.mem_classes_of_goodClass? (Index.goodClass?_of_mem_membersIn hd)
  have hd' := List.all_eq_true.mp hone _ hc
  have hfields := List.ne_nil_of_mem (Index.mem_membersIn.mp hd).2
  simpa [hfields] using hd'

/-- A subclass that declares the field again and uses its own: the reference is renamed with the field
of the other class, and its own field is not. -/
theorem Query.not_agrees_rename_redeclared :
    let a := ".class LA;\n.super Lb;\n.field x:I\n"
    let b := ".class LB;\n.super LA;\n.field x:I\n.method f()V\niget v0, p0, LB;->x:I\n.end method\n"
    let file := Path.ofString "A.smali"
    let s : Surroundings := ⟨((MemoryProject.empty.put file ⟨a,none⟩).put (.ofString "B.smali")
      ⟨b,none⟩).source,.never⟩
    let ix := (Operation.load.query.ask s (.new .default)).2
    let f : Field := ⟨.within 2 0 10,[],⟨"x",.within 2 7 8⟩,
      .single (.primitive .int (.within 2 9 10)),none⟩
    ix.Loaded s.source ∧ ((spotIn? file ⟨2,7⟩).ask s ix).1 = some (some (.fieldDefinition f)) ∧
      ∃ r, ((rename file ⟨2,7⟩ "y").ask s ix).1 = some (.ok r) ∧ ¬r.Agrees s ix f "y" := by
  intro a b file s ix f
  have hloaded : ix.Loaded s.source :=
    .of_all (.step s .load (.new .default)) (by decide +kernel)
  have hspot : ((spotIn? file ⟨2,7⟩).ask s ix).1 = some (some (.fieldDefinition f)) := by
    decide +kernel
  have hsearch : ix.Searchable f "LA;" :=
    .of_all (by decide +kernel) (by decide +kernel)
  have hstart : StartsField s ix file ⟨2,7⟩ f "LA;" := .definition hspot (by decide +kernel)
  have hnew : isMemberName "y" = true := by decide
  obtain ⟨family,hanswers,hfamily⟩ := hloaded.answers_rename rfl hsearch.spelled hnew hstart
  refine ⟨hloaded,hspot,_,hanswers.fst_ask hloaded.sound,fun hagrees => ?_⟩
  have hone := (hloaded.agrees_renamed_iff rfl hfamily hsearch).mp hagrees
  have hclass : ix.classes.any (fun x => x.2.identifier == "LB;" &&
      x.2.parentIdentifiers.contains "LA;" &&
      (x.2.referencesTo (f.key "LB;")).contains (.within 4 13 21)) = true := by decide +kernel
  have hown : ((resolveField "LB;" f).ask s ix).1.map (·.map (·.owner.identifier)) = some ["LB;"] := by
    decide +kernel
  obtain ⟨⟨g,c⟩,hc,hcond⟩ := List.any_eq_true.mp hclass
  simp only [Bool.and_eq_true, beq_iff_eq, List.contains_iff_mem] at hcond
  obtain ⟨⟨hid,hparent⟩,hspan⟩ := hcond
  have hbelow : ix.Below "LB;" "LA;" := .single ⟨g,c,hc,hid,hparent⟩
  obtain ⟨found,hfound,hids⟩ := Option.map_eq_some_iff.mp hown
  obtain ⟨d,hd,howner⟩ : ∃ d ∈ found, d.owner.identifier = "LB;" :=
    List.mem_map.mp (by rw [hids]; exact List.mem_singleton.mpr rfl)
  have hother := hone "LB;" g c _ found ⟨hc,hspan⟩ (.inr hbelow) hfound d hd
  rw [howner] at hother
  exact absurd hother (by decide)

end SmaliNavigator
