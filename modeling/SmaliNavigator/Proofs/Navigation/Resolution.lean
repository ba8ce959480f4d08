import SmaliNavigator.Navigation.References
import SmaliNavigator.Proofs.Index.Currency
import SmaliNavigator.Proofs.Index.Hierarchy

/-!
What a field is resolved to, and its family. A field that is seen in a class is resolved to the fields
of one class, which is that class or above it. The family is made downwards from there and takes in
all that is below, whatever it declares itself.
-/

set_option autoImplicit false

namespace SmaliNavigator

theorem eraseDups_eq_singleton {xs : List String} {x : String} (hne : xs ≠ [])
    (h : ∀ y ∈ xs, y = x) : xs.eraseDups = [x] := by
  cases xs with
  | nil => exact absurd rfl hne
  | cons y ys =>
    obtain rfl := h y List.mem_cons_self
    have hnone : ys.filter (fun z => !z == y) = [] := by
      rw [List.filter_eq_nil_iff]
      intro z hz
      simp [h z (List.mem_cons_of_mem _ hz)]
    rw [List.eraseDups_cons, hnone, List.eraseDups_nil]

/-- What is at a place is found in the text that is shown, whether it can be read as a class or not. -/
theorem Query.answers_spotIn? (s : Surroundings) (ix : Index) (file : Path) (p : Position) :
    ∃ spot?, Answers s ix (spotIn? file p) spot? := by
  have hshown : ∃ d?, Answers s ix (document? file) d? := by
    cases hopen : s.source.open? file with
    | ok live =>
      refine ⟨some (.ofString live.text),answers_openFile ?_⟩
      rw [hopen]
      exact .pure _
    | error e =>
      refine ⟨(ix.stateOf file).goodText?.map .ofString,answers_openFile ?_⟩
      rw [hopen]
      intro a ha
      dsimp only
      rw [Index.run_indexedText? ha.sound', ← ha.stateOf file]
      exact ⟨_,rfl,ha.core,ha.sound,ha.sound'.consult file⟩
  obtain ⟨d?,hd⟩ := hshown
  exact ⟨_,hd.bind (.pure _)⟩

theorem Query.answers_spotIn?_of_ask {s : Surroundings} {ix : Index} (hsound : ix.Sound) {file : Path}
    {p : Position} {spot? : Option Spot} (hasked : ((spotIn? file p).ask s ix).1 = some spot?) :
    Answers s ix (spotIn? file p) spot? := by
  obtain ⟨found,hfound⟩ := answers_spotIn? s ix file p
  exact hfound.eq_of_fst_ask hsound hasked ▸ hfound

namespace Index

/-- The members of a kind that the classes of an identifier have. -/
def membersIn {α : Type} (ix : Index) (select : Class → List α) (identifier : String) :
    List (Declaration α) :=
  (ix.declared identifier).flatMap fun x => (select x.2).map fun m => ⟨x.1,x.2,m⟩

section Members

variable {α : Type} {ix : Index} {select : Class → List α} {identifier : String}

theorem mem_membersIn {d : Declaration α} : d ∈ ix.membersIn select identifier ↔
    (d.file,d.owner) ∈ ix.declared identifier ∧ d.member ∈ select d.owner := by
  unfold membersIn
  rw [List.mem_flatMap]
  constructor
  · rintro ⟨⟨f,c⟩,hc,hd⟩
    obtain ⟨m,hm,rfl⟩ := List.mem_map.mp hd
    exact ⟨hc,hm⟩
  · rintro ⟨hc,hm⟩
    exact ⟨_,hc,List.mem_map.mpr ⟨_,hm,rfl⟩⟩

theorem identifier_of_mem_membersIn {d : Declaration α} (h : d ∈ ix.membersIn select identifier) :
    d.owner.identifier = identifier :=
  (mem_declared.mp (mem_membersIn.mp h).1).2.2

theorem goodClass?_of_mem_membersIn {d : Declaration α} (h : d ∈ ix.membersIn select identifier) :
    ix.goodClass? d.file = some d.owner :=
  (mem_declared.mp (mem_membersIn.mp h).1).2.1

theorem membersIn_eq_nil (h : identifier ∉ ix.declaredIdentifiers) :
    ix.membersIn select identifier = [] := by
  refine List.eq_nil_iff_forall_not_mem.mpr fun d hd => h ?_
  obtain ⟨g,_,hg⟩ := mem_classes_of_goodClass? (goodClass?_of_mem_membersIn hd)
  exact List.mem_map.mpr ⟨_,hg,identifier_of_mem_membersIn hd⟩

/-- The members of the first class of a list that has any. -/
def firstMembersIn (ix : Index) (select : Class → List α) (order : List String) :
    List (Declaration α) :=
  ((order.find? fun id => !(ix.membersIn select id).isEmpty).map (ix.membersIn select)).getD []

theorem firstMembersIn_cons (id : String) (order : List String) :
    ix.firstMembersIn select (id :: order) =
      if (ix.membersIn select id).isEmpty then ix.firstMembersIn select order
      else ix.membersIn select id := by
  unfold firstMembersIn
  rw [List.find?_cons]
  cases (ix.membersIn select id).isEmpty <;> rfl

theorem firstMembersIn_eq_nil_or (order : List String) : ix.firstMembersIn select order = [] ∨
    ∃ id ∈ order, ix.firstMembersIn select order = ix.membersIn select id := by
  unfold firstMembersIn
  cases hfirst : order.find? fun id => !(ix.membersIn select id).isEmpty with
  | none => exact .inl rfl
  | some id => exact .inr ⟨id,List.mem_of_find?_eq_some hfirst,rfl⟩

end Members

theorem mem_map_name {α : Type} {ix : Index} {select : Class → List α} {name : α → Token}
    {owner : String} {l : Location} :
    l ∈ (ix.membersIn (fun c => (select c).map name) owner).map
        (fun d => (⟨d.file,d.member.span⟩ : Location)) ↔
      ∃ d ∈ ix.membersIn select owner, l = ⟨d.file,(name d.member).span⟩ := by
  rw [List.mem_map]
  constructor
  · rintro ⟨⟨file,c,t⟩,hd,rfl⟩
    obtain ⟨hc,ht⟩ := mem_membersIn.mp hd
    obtain ⟨m,hm,rfl⟩ := List.mem_map.mp ht
    exact ⟨⟨file,c,m⟩,mem_membersIn.mpr ⟨hc,hm⟩,rfl⟩
  · rintro ⟨d,hd,rfl⟩
    obtain ⟨hc,hm⟩ := mem_membersIn.mp hd
    exact ⟨⟨d.file,d.owner,name d.member⟩,mem_membersIn.mpr ⟨hc,List.mem_map.mpr ⟨_,hm,rfl⟩⟩,rfl⟩

/-- The keys of a field are those of a class and of all that is below, and the field is declared where
the class declares it. -/
structure IsFamily (ix : Index) (f : Field) (owner : String) (family : MemberFamily) : Prop where
  symbols : ∀ key, key ∈ family.symbols ↔ ∃ id, (id = owner ∨ ix.Below id owner) ∧ key = f.key id
  declarations : ∀ l, l ∈ family.declarations ↔
    ∃ d ∈ ix.membersIn (·.fieldsLike f) owner, l = ⟨d.file,d.member.name.span⟩

open Query (Answers)

variable {s : Surroundings} {ix : Index}

/-! ### Members of the classes of a project -/

theorem AllRead.answers_membersOf {α : Type} (h : ix.AllRead s.source) (select : Class → List α)
    (identifier : String) :
    Answers s ix (Query.membersOf select identifier) (ix.membersIn select identifier) :=
  (h.answers_findClasses identifier).map _

theorem AllRead.answers_firstMembersIn {α : Type} (h : ix.AllRead s.source)
    (select : Class → List α) (order : List String) :
    Answers s ix (Query.firstMembers select order) (ix.firstMembersIn select order) := by
  induction order with
  | nil => exact .pure _
  | cons id order ih =>
    refine (h.answers_membersOf select id).bind ?_
    rw [firstMembersIn_cons]
    cases (ix.membersIn select id).isEmpty with
    | true => exact ih
    | false => exact .pure _

theorem AllRead.answers_lookupOrder (h : ix.AllRead s.source) (hnever : s.cancellation = .never)
    (owner : String) : Answers s ix (Query.lookupOrder owner) (owner :: ix.superclassesOf owner) :=
  (h.answers_superclasses hnever owner).bind (.pure _)

theorem AllRead.answers_nameLocations (h : ix.AllRead s.source) (select : Class → List Token)
    (ids : List String) :
    Answers s ix (Query.nameLocations select ids)
      (ids.flatMap fun id => (ix.membersIn select id).map fun d => ⟨d.file,d.member.span⟩) := by
  induction ids with
  | nil => exact .pure _
  | cons id ids ih => exact (h.answers_membersOf select id).bind (ih.bind (.pure _))

theorem Complete.answers_withSubclasses_found (h : ix.Complete s.source)
    (hnever : s.cancellation = .never) (ids before : List String) :
    ∃ family, Answers s ix (Query.withSubclasses ids before) family ∧
      ∀ x, x ∈ family ↔ x ∈ before ∨ ∃ id ∈ ids, x = id ∨ x ∈ ix.subclassesOf id := by
  induction ids generalizing before with
  | nil => exact ⟨before,.pure _,by simp⟩
  | cons id ids ih =>
    obtain ⟨family,hfamily,hmem⟩ := ih (addNew before (id :: ix.subclassesOf id)).1
    refine ⟨family,(h.answers_subclasses hnever id).bind hfamily,fun x => ?_⟩
    rw [hmem, mem_fst_addNew, List.mem_cons, List.exists_mem_cons_iff, or_assoc]

/-- Where all parents are spelled out, the subclasses that are found are all that is below. -/
theorem SpellsParents.eq_or_mem_subclassesOf (hspelled : ix.SpellsParents) {id x : String} :
    x = id ∨ x ∈ ix.subclassesOf id ↔ x = id ∨ ix.Below x id := by
  rw [hspelled.mem_subclassesOf]
  by_cases hx : x = id <;> simp [hx]

theorem Complete.answers_withSubclasses (h : ix.Complete s.source) (hnever : s.cancellation = .never)
    (hspelled : ix.SpellsParents) (ids before : List String) :
    ∃ family, Answers s ix (Query.withSubclasses ids before) family ∧
      ∀ x, x ∈ family ↔ x ∈ before ∨ ∃ id ∈ ids, x = id ∨ ix.Below x id := by
  simpa only [hspelled.eq_or_mem_subclassesOf] using h.answers_withSubclasses_found hnever ids before

namespace Loaded

variable (h : ix.Loaded s.source)
include h

/-! ### Resolution -/

theorem answers_resolveField (hnever : s.cancellation = .never) (owner : String) (f : Field) :
    ∃ found, Answers s ix (Query.resolveField owner f) found ∧ (found = [] ∨
      ∃ id, (id = owner ∨ ix.Below owner id) ∧ found = ix.membersIn (·.fieldsLike f) id) := by
  have hread := h.complete.toAllRead
  refine ⟨_,(hread.answers_lookupOrder hnever owner).bind (hread.answers_firstMembersIn _ _),
    (firstMembersIn_eq_nil_or _).imp_right ?_⟩
  rintro ⟨id,hid,heq⟩
  exact ⟨id,(List.mem_cons.mp hid).imp_right fun hid => (hread.mem_superclassesOf.mp hid).2,heq⟩

theorem resolveField_cases (hnever : s.cancellation = .never) {owner : String} {f : Field}
    {found : List (Declaration Field)}
    (hfound : ((Query.resolveField owner f).ask s ix).1 = some found) :
    Answers s ix (Query.resolveField owner f) found ∧ (found = [] ∨
      ∃ id, (id = owner ∨ ix.Below owner id) ∧ found = ix.membersIn (·.fieldsLike f) id) := by
  obtain ⟨found',hfound',hfrom⟩ := h.answers_resolveField hnever owner f
  obtain rfl := hfound'.eq_of_fst_ask h.sound hfound
  exact ⟨hfound',hfrom⟩

theorem owner_of_mem_resolveField (hnever : s.cancellation = .never) {owner : String} {f : Field}
    {found : List (Declaration Field)}
    (hfound : ((Query.resolveField owner f).ask s ix).1 = some found) :
    ∀ d ∈ found, (d.owner.identifier = owner ∨ ix.Below owner d.owner.identifier) ∧
      found = ix.membersIn (·.fieldsLike f) d.owner.identifier := by
  intro d hd
  obtain ⟨-,rfl | ⟨id,hid,rfl⟩⟩ := h.resolveField_cases hnever hfound
  · cases hd
  · obtain rfl := identifier_of_mem_membersIn hd
    exact ⟨hid,rfl⟩

theorem answers_resolveField_nil (hnever : s.cancellation = .never) {owner : String}
    (howner : owner ∉ ix.declaredIdentifiers) (f : Field) :
    Answers s ix (Query.resolveField owner f) [] := by
  obtain ⟨found,hfound,rfl | ⟨id,rfl | hbelow,rfl⟩⟩ := h.answers_resolveField hnever owner f
  · exact hfound
  · rwa [membersIn_eq_nil howner] at hfound
  · exact absurd hbelow.mem_declaredIdentifiers howner

/-! ### Families -/

variable (hnever : s.cancellation = .never) (hspelled : ix.SpellsParents)
include hnever hspelled

theorem answers_family (f : Field) (owner : String) :
    ∃ family, Answers s ix (do
        let declarations ← Query.nameLocations (fun c => (c.fieldsLike f).map (·.name)) [owner]
        let family ← Query.withSubclasses [owner] []
        return (⟨family.map f.key,declarations⟩ : MemberFamily)) family ∧
      ix.IsFamily f owner family := by
  obtain ⟨family,hfamily,hmem⟩ := h.complete.answers_withSubclasses hnever hspelled [owner] []
  refine ⟨_,(h.complete.answers_nameLocations _ [owner]).bind (hfamily.bind (.pure _)),fun key => ?_,
    fun l => ?_⟩
  · rw [List.mem_map]
    simp [hmem, eq_comm]
  · rw [List.flatMap_singleton]
    exact mem_map_name

theorem answers_fieldFamily_declared (f : Field) (owner : String) :
    ∃ family, Answers s ix (Query.fieldFamily owner f true) family ∧ ix.IsFamily f owner family := by
  obtain ⟨family,hanswers,hfamily⟩ := h.answers_family hnever hspelled f owner
  exact ⟨family,(Answers.pure []).bind hanswers,hfamily⟩

theorem answers_fieldFamily_resolved {f : Field} {seen owner : String} {found : List (Declaration Field)}
    (hfound : Answers s ix (Query.resolveField seen f) found)
    (howner : found = [] ∧ owner = seen ∨ found ≠ [] ∧ ∀ d ∈ found, d.owner.identifier = owner) :
    ∃ family, Answers s ix (Query.fieldFamily seen f false) family ∧ ix.IsFamily f owner family := by
  obtain ⟨family,hanswers,hfamily⟩ := h.answers_family hnever hspelled f owner
  refine ⟨family,hfound.bind ?_,hfamily⟩
  rcases howner with ⟨rfl,rfl⟩ | ⟨hne,howner⟩
  · exact hanswers
  · have hids : (found.map (·.owner.identifier)).eraseDups = [owner] := by
      refine eraseDups_eq_singleton (by simpa using hne) fun id hid => ?_
      obtain ⟨d,hd,rfl⟩ := List.mem_map.mp hid
      exact howner d hd
    dsimp only
    rw [hids]
    exact hanswers

end Loaded

end Index

end SmaliNavigator
