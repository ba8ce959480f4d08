import SmaliNavigator.Proofs.Index.Levels
import SmaliNavigator.Proofs.Query.Answers

/-!
The walks through the inheritance of a project. Both go level by level and keep what is new, and both
come to an end in time: between two steps there is always a class that the project declares. Upwards
they find what a class extends or implements, directly or not. Downwards they find all that do so,
where each class says it in the words that the walk looks for.
-/

set_option autoImplicit false

namespace SmaliNavigator

namespace Index

open Query (mentionsChildOf)

/-- A class of the project names another one as a parent. -/
def Extends (ix : Index) (child parent : String) : Prop :=
  ∃ f c, (f,c) ∈ ix.classes ∧ c.identifier = child ∧ parent ∈ c.parentIdentifiers

instance (ix : Index) (child parent : String) : Decidable (ix.Extends child parent) :=
  decidable_of_iff (ix.classes.any (fun x => x.2.identifier == child &&
      x.2.parentIdentifiers.contains parent) = true) <| by
    simp only [List.any_eq_true, Bool.and_eq_true, beq_iff_eq, List.contains_iff_mem]
    exact ⟨fun ⟨⟨f,c⟩,hc,hid,hparent⟩ => ⟨f,c,hc,hid,hparent⟩,
      fun ⟨f,c,hc,hid,hparent⟩ => ⟨⟨f,c⟩,hc,hid,hparent⟩⟩

/-- What is above a class, directly or not. -/
def Below (ix : Index) : String → String → Prop := Relation.TransGen ix.Extends

/-- The text of each class names the parents of the class as the walk downwards looks for them. -/
def SpellsParents (ix : Index) : Prop :=
  ∀ x ∈ ix.classes, ∀ parent ∈ x.2.parentIdentifiers, mentionsChildOf [parent] x.2.document = true

instance (ix : Index) : Decidable ix.SpellsParents :=
  inferInstanceAs (Decidable (∀ x ∈ ix.classes, ∀ parent ∈ x.2.parentIdentifiers,
    mentionsChildOf [parent] x.2.document = true))

/-- The identifiers that the project declares, once for each file. -/
def declaredIdentifiers (ix : Index) : List String := ix.classes.map (·.2.identifier)

theorem length_knownFiles (ix : Index) : ix.knownFiles.length = ix.files.size := by
  simp [knownFiles, PathMap.files, PathMap.toList, PathMap.size, OrdMap.values, OrdMap.size]

theorem length_declaredIdentifiers_le (ix : Index) : ix.declaredIdentifiers.length ≤ ix.files.size := by
  rw [← length_knownFiles, declaredIdentifiers, List.length_map]
  exact List.length_filterMap_le _ _

theorem Extends.mem_declaredIdentifiers {ix : Index} {child parent : String}
    (h : ix.Extends child parent) : child ∈ ix.declaredIdentifiers := by
  obtain ⟨f,c,hc,rfl,_⟩ := h
  exact List.mem_map.mpr ⟨_,hc,rfl⟩

theorem mentionsChildOf_mono {level : List String} {parent : String} (h : parent ∈ level)
    {d : Document} (hd : mentionsChildOf [parent] d = true) : mentionsChildOf level d = true := by
  unfold mentionsChildOf at hd ⊢
  rw [List.any_eq_true] at hd ⊢
  obtain ⟨id,hid,hmentions⟩ := hd
  obtain rfl := List.mem_singleton.mp hid
  exact ⟨id,h,hmentions⟩

theorem Below.mem_declaredIdentifiers {ix : Index} {child ancestor : String}
    (h : ix.Below child ancestor) : child ∈ ix.declaredIdentifiers := by
  obtain ⟨_,hstep,_⟩ := Relation.TransGen.head'_iff.mp h
  exact hstep.mem_declaredIdentifiers

theorem not_below_self {ix : Index} (place : String → Nat) (h : ix.classes.all (fun x =>
    x.2.parentIdentifiers.all fun parent => place parent < place x.2.identifier) = true) (x : String) :
    ¬ix.Below x x := by
  have hstep {child parent : String} (hup : ix.Extends child parent) : place parent < place child := by
    obtain ⟨f,c,hc,rfl,hparent⟩ := hup
    simpa using List.all_eq_true.mp (List.all_eq_true.mp h _ hc) parent hparent
  have hbelow {child ancestor : String} (hup : ix.Below child ancestor) :
      place ancestor < place child := by
    induction hup with
    | single hup => exact hstep hup
    | tail _ hup ih => exact Nat.lt_trans (hstep hup) ih
  exact fun hself => absurd (hbelow hself) (Nat.lt_irrefl _)

open Query (Answers)

variable {s : Surroundings} {ix : Index}

/-! ### Upwards -/

section Upwards

/-- The parents of a level, but for the origin. -/
def parentsBut (ix : Index) (origin : String) (level : List String) : List String :=
  level.flatMap fun id =>
    ((ix.declared id).flatMap fun x => x.2.parentIdentifiers).filter (· ≠ origin)

/-- What the walk upwards finds. -/
def superclassesOf (ix : Index) (identifier : String) : List String :=
  widen (ix.parentsBut identifier) (ix.files.size + 2) [identifier] []

variable (h : ix.AllRead s.source)
include h

theorem AllRead.mem_identifiers_iff {identifier : String} :
    identifier ∈ ix.identifiers ↔ identifier ∈ ix.declaredIdentifiers := by
  rw [Index.mem_identifiers_iff h.mapped, declaredIdentifiers, List.mem_map]
  constructor
  · rintro ⟨f,hf,hid⟩
    rw [identifierOf?_eq] at hid
    obtain ⟨t,c,hread,rfl,hstate⟩ := (h.sound.grounded f).of_identifier? hid
    have hgood : ix.goodClass? f = some c := by
      rcases hstate with hstate | hstate <;>
        simp [goodClass?, hstate, FileState.goodText?, hread, Except.toOption]
    exact ⟨_,mem_classes.mpr ⟨hf,hgood⟩,rfl⟩
  · rintro ⟨⟨f,c⟩,hc,rfl⟩
    obtain ⟨hf,hgood⟩ := mem_classes.mp hc
    exact ⟨f,hf,h.sound.identifierOf?_of_goodClass? hgood⟩

theorem AllRead.extends_iff {child parent : String} :
    ix.Extends child parent ↔ parent ∈ (ix.declared child).flatMap fun x => x.2.parentIdentifiers := by
  rw [List.mem_flatMap]
  constructor
  · rintro ⟨f,c,hc,rfl,hparent⟩
    obtain ⟨g,_,hg⟩ := h.exists_mem_declared hc
    exact ⟨_,hg,hparent⟩
  · rintro ⟨⟨f,c⟩,hc,hparent⟩
    obtain ⟨_,hgood,hid⟩ := mem_declared.mp hc
    obtain ⟨g,_,hg⟩ := mem_classes_of_goodClass? hgood
    exact ⟨g,c,hg,hid,hparent⟩

theorem AllRead.mem_parentsBut {origin : String} (level : List String) (x : String) :
    x ∈ ix.parentsBut origin level ↔ x ≠ origin ∧ ∃ y ∈ level, ix.Extends y x := by
  simp only [parentsBut, List.mem_flatMap, List.mem_filter, decide_eq_true_eq, h.extends_iff]
  grind

/-- The ancestors that are found are those that the class is below, but for itself. -/
theorem AllRead.mem_superclassesOf {identifier x : String} :
    x ∈ ix.superclassesOf identifier ↔ x ≠ identifier ∧ ix.Below identifier x := by
  have hsize := ix.length_declaredIdentifiers_le
  refine Widen.mem_widen_iff h.mem_parentsBut (fun _ y _ _ hyz => hyz.mem_declaredIdentifiers) ?_ x
  omega

theorem AllRead.answers_parentsOf (identifier : String) :
    Answers s ix (Query.parentsOf identifier)
      ((ix.declared identifier).flatMap fun x => x.2.parentIdentifiers) :=
  (h.answers_findClasses identifier).map _

variable (hnever : s.cancellation = .never)
include hnever

theorem AllRead.answers_ascend (origin : String) (level chain : List String) :
    Answers s ix (Query.ascend origin level chain) (addNew chain (ix.parentsBut origin level)) := by
  induction level generalizing chain with
  | nil => exact .pure _
  | cons id level ih =>
    refine (Query.answers_isCalledOff hnever).bind ((h.answers_parentsOf id).bind ?_)
    have hlevel : ix.parentsBut origin (id :: level) =
        ((ix.declared id).flatMap fun x => x.2.parentIdentifiers).filter (· ≠ origin) ++
          ix.parentsBut origin level := List.flatMap_cons
    rw [hlevel, addNew_append]
    exact (ih _).bind (.pure _)

theorem AllRead.answers_ascendAll (origin : String) (fuel : Nat) (level chain : List String) :
    Answers s ix (Query.ascendAll origin fuel level chain)
      (widen (ix.parentsBut origin) fuel level chain) := by
  induction fuel generalizing level chain with
  | zero => exact .pure _
  | succ fuel ih =>
    cases level with
    | nil => exact .pure _
    | cons id level => exact (h.answers_ascend hnever origin _ chain).bind (ih _ _)

theorem AllRead.answers_superclasses (identifier : String) :
    Answers s ix (Query.superclasses identifier) (ix.superclassesOf identifier) := by
  refine Query.answers_getIndex fun jx ha => ?_
  rw [← ha.files]
  exact h.answers_ascendAll hnever identifier _ _ _

end Upwards

/-! ### Downwards -/

/-- The class of a file, if the file says that it is a child of one of a level. -/
def childOf? (ix : Index) (origin : String) (level : List String) (file : Path) : Option String :=
  (ix.goodClass? file).bind fun c =>
    if mentionsChildOf level c.document && (level.any c.extendsOrImplements && c.identifier != origin)
    then some c.identifier else none

/-- The children of a level, but for the origin. -/
def childrenBut (ix : Index) (origin : String) (level : List String) : List String :=
  ix.knownFiles.flatMap fun f => (ix.childOf? origin level f).toList

/-- What the walk downwards finds. -/
def subclassesOf (ix : Index) (identifier : String) : List String :=
  widen (ix.childrenBut identifier) (ix.files.size + 2) [identifier] []

/-- A class of the project names another one as a parent, as the walk downwards looks for it. -/
def Spells (ix : Index) (child parent : String) : Prop :=
  ∃ f c, (f,c) ∈ ix.classes ∧ c.identifier = child ∧ parent ∈ c.parentIdentifiers ∧
    mentionsChildOf [parent] c.document = true

theorem SpellsParents.spells (h : ix.SpellsParents) {child parent : String}
    (hextends : ix.Extends child parent) : ix.Spells child parent := by
  obtain ⟨f,c,hc,hid,hparent⟩ := hextends
  exact ⟨f,c,hc,hid,hparent,h _ hc parent hparent⟩

theorem mem_childrenBut {origin : String} {level : List String} {x : String} :
    x ∈ ix.childrenBut origin level ↔ x ≠ origin ∧ ∃ f c, (f,c) ∈ ix.classes ∧ c.identifier = x ∧
      (∃ y ∈ level, y ∈ c.parentIdentifiers) ∧ mentionsChildOf level c.document = true := by
  unfold childrenBut childOf?
  rw [List.mem_flatMap]
  constructor
  · rintro ⟨f,hf,hx⟩
    obtain ⟨c,hc,hchild⟩ := Option.bind_eq_some_iff.mp (Option.mem_toList.mp hx)
    split at hchild
    · next hcond =>
      obtain rfl := Option.some.inj hchild
      simp only [Bool.and_eq_true, List.any_eq_true, bne_iff_ne] at hcond
      obtain ⟨hmentions,⟨y,hy,hparent⟩,horigin⟩ := hcond
      refine ⟨horigin,f,c,mem_classes.mpr ⟨hf,hc⟩,rfl,⟨y,hy,?_⟩,hmentions⟩
      simpa [Class.extendsOrImplements] using hparent
    · cases hchild
  · rintro ⟨hx,f,c,hc,rfl,⟨y,hy,hparent⟩,hmentions⟩
    obtain ⟨hf,hgood⟩ := mem_classes.mp hc
    refine ⟨f,hf,Option.mem_toList.mpr (Option.bind_eq_some_iff.mpr ⟨c,hgood,?_⟩)⟩
    have hextends : level.any c.extendsOrImplements = true :=
      List.any_eq_true.mpr ⟨y,hy,by simpa [Class.extendsOrImplements] using hparent⟩
    rw [hmentions, hextends, bne_iff_ne.mpr hx]
    rfl

/-- The walk goes to no class that does not extend one of the level, and to all that say so. -/
theorem leads_childrenBut (ix : Index) (origin : String) :
    Widen.Leads (ix.childrenBut origin) (Function.swap ix.Extends) (Function.swap ix.Spells)
      (· = origin) where
  exists_step level x hx := by
    obtain ⟨hne,f,c,hc,hid,⟨y,hy,hparent⟩,_⟩ := mem_childrenBut.mp hx
    exact ⟨hne,y,hy,f,c,hc,hid,hparent⟩
  mem level y hy x hspells hne := by
    obtain ⟨f,c,hc,hid,hparent,hmentions⟩ := hspells
    exact mem_childrenBut.mpr ⟨hne,f,c,hc,hid,⟨y,hy,hparent⟩,mentionsChildOf_mono hy hmentions⟩

theorem below_of_mem_subclassesOf {identifier x : String} (hx : x ∈ ix.subclassesOf identifier) :
    x ≠ identifier ∧ ix.Below x identifier := by
  obtain ⟨hne,hreach⟩ := Widen.sound_widen (leads_childrenBut ix identifier) identifier
    (by simp [Relation.ReflTransGen.refl]) (by simp) x hx
  have hbelow := (Relation.reflTransGen_iff_eq_or_transGen.mp hreach).resolve_left hne
  exact ⟨hne,Relation.transGen_swap.mp hbelow⟩

theorem mem_subclassesOf_of_spells {identifier x : String}
    (hx : Relation.TransGen ix.Spells x identifier) (hne : x ≠ identifier) :
    x ∈ ix.subclassesOf identifier := by
  have hsize := ix.length_declaredIdentifiers_le
  have hlength := List.length_filter_le (· ∉ ([] : List String)) ix.declaredIdentifiers
  exact Widen.mem_widen_of_reflTransGen (leads_childrenBut ix identifier)
    (fun _ _ _ hxy _ => hxy.mem_declaredIdentifiers) (by omega) (by simp) (.inl rfl)
    (Relation.transGen_swap.mpr hx).to_reflTransGen hne

/-- The subclasses that are found are those that are below the class, but for itself. -/
theorem SpellsParents.mem_subclassesOf (hspelled : ix.SpellsParents) {identifier x : String} :
    x ∈ ix.subclassesOf identifier ↔ x ≠ identifier ∧ ix.Below x identifier :=
  ⟨below_of_mem_subclassesOf,fun ⟨hne,hbelow⟩ =>
    mem_subclassesOf_of_spells (Relation.TransGen.mono (fun _ _ => hspelled.spells) _ _ hbelow) hne⟩

/-- Each class that is found is a child of a level, and that is the class itself or below it. -/
theorem exists_level_of_mem_subclassesOf {identifier x : String} (hx : x ∈ ix.subclassesOf identifier) :
    ∃ level, (level = [identifier] ∨ ∀ y ∈ level, y ≠ identifier ∧ ix.Below y identifier) ∧
      x ∈ ix.childrenBut identifier level := by
  refine Widen.forall_mem_widen (P := fun x => ∃ level, (level = [identifier] ∨
    ∀ y ∈ level, y ≠ identifier ∧ ix.Below y identifier) ∧ x ∈ ix.childrenBut identifier level)
    (fun level hlevel x hx => ⟨level,hlevel,hx⟩) (fun level hall => ?_) (.inl rfl) (by simp) x hx
  refine .inr fun y hy => ?_
  obtain ⟨above,habove,hchild⟩ := hall y hy
  obtain ⟨hne,z,hz,hextends⟩ := (leads_childrenBut ix identifier).exists_step above y hchild
  refine ⟨hne,?_⟩
  rcases habove with rfl | habove
  · obtain rfl := List.mem_singleton.mp hz
    exact .single hextends
  · exact .head hextends (habove z hz).2

/-- Asked of indexes of a kind, the walk downwards sees the files and classes of one index. It may see
other texts than those of classes, but not of a file that has a class. -/
structure Shown (s : Surroundings) (K : Index → Prop) (ix : Index) : Prop where
  knownFiles : ∀ jx, K jx → jx.knownFiles = ix.knownFiles
  ready : ∀ jx, K jx → jx.ready = true
  classOf? : ∀ f ∈ ix.knownFiles, Query.Meets s K (Query.classOf? f) (· = ix.goodClass? f)
  sourceOf? : ∀ f ∈ ix.knownFiles, Query.Meets s K (Query.sourceOf? f) fun d? =>
    ∀ c, ix.goodClass? f = some c → d? = some c.document

namespace Shown

open Query (Meets)

variable {K : Index → Prop} (h : Shown s K ix) (hnever : s.cancellation = .never)
include h hnever

theorem meets_descend (origin : String) (level : List String) (files : List Path)
    (hfiles : ∀ f ∈ files, f ∈ ix.knownFiles) (found : List String) :
    Meets s K (Query.descend origin level files found)
      (· = addNew found (files.flatMap fun f => (ix.childOf? origin level f).toList)) := by
  induction files generalizing found with
  | nil => exact .pure rfl
  | cons f fs ih =>
    obtain ⟨hf,hfs⟩ := List.forall_mem_cons.mp hfiles
    refine (Meets.isCalledOff hnever).bind_eq ((h.sourceOf? f hf).bind fun d? hd? => ?_)
    extract_lets rest
    have hrest (child? : Option String) : Meets s K (rest child?) (· = addNew found
        (child?.toList ++ fs.flatMap fun f => (ix.childOf? origin level f).toList)) := by
      refine (ih hfs _).bind_eq (.pure ?_)
      rw [addNew_append]
    have hclass := h.classOf? f hf
    rw [List.flatMap_cons]
    unfold childOf?
    cases hgood : ix.goodClass? f with
    | none =>
      -- a text that is no class of the project adds nothing, whatever it says
      rw [hgood] at hclass
      cases d? with
      | none => exact hrest none
      | some d =>
        dsimp only
        split
        · exact hclass.bind_eq (hrest none)
        · exact hrest none
    | some c =>
      rw [hgood] at hclass
      rw [hd? c hgood]
      dsimp only [Option.bind_some]
      cases mentionsChildOf level c.document with
      | false => exact hrest none
      | true =>
        refine hclass.bind_eq ?_
        dsimp only
        cases level.any c.extendsOrImplements && c.identifier != origin with
        | false => exact hrest none
        | true => exact hrest (some c.identifier)

theorem meets_descendAll (origin : String) (fuel : Nat) (level found : List String) :
    Meets s K (Query.descendAll origin fuel level found)
      (· = widen (ix.childrenBut origin) fuel level found) := by
  induction fuel generalizing level found with
  | zero => exact .pure rfl
  | succ fuel ih =>
    cases level with
    | nil => exact .pure rfl
    | cons id level =>
      refine (Meets.isCalledOff hnever).bind_eq (.getIndex fun jx hj => ?_)
      rw [h.knownFiles jx hj]
      exact (h.meets_descend hnever origin _ _ (fun _ hf => hf) found).bind_eq (ih _ _)

theorem meets_subclasses (identifier : String) :
    Meets s K (Query.subclasses identifier) (· = ix.subclassesOf identifier) := by
  refine (Meets.waitReady h.ready).bind fun _ _ => .getIndex fun jx hj => ?_
  rw [← length_knownFiles, h.knownFiles jx hj, length_knownFiles]
  exact h.meets_descendAll hnever identifier _ _ _

end Shown

theorem Complete.shown (h : ix.Complete s.source) : Shown s (Alike ix) ix where
  knownFiles jx ha := by simp [knownFiles, ha.files]
  ready jx ha := (congrArg (·.ready) ha.core).symm.trans h.ready
  classOf? f hf := Query.answers_iff_meets.mp (h.answers_classOf? hf)
  sourceOf? f hf := (Query.answers_iff_meets.mp (h.answers_sourceOf? hf)).imp fun d? hd? c hc =>
    hd?.trans (h.open?_of_goodClass? hf hc)

theorem Complete.answers_subclasses (h : ix.Complete s.source) (hnever : s.cancellation = .never)
    (identifier : String) : Answers s ix (Query.subclasses identifier) (ix.subclassesOf identifier) :=
  Query.answers_iff_meets.mpr (h.shown.meets_subclasses hnever identifier)

end Index

end SmaliNavigator
