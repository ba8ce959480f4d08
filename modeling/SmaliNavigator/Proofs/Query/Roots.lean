import SmaliNavigator.Proofs.Index.Hierarchy
import SmaliNavigator.Proofs.Index.Loading
import SmaliNavigator.Proofs.Index.Topmost

/-!
The topmost classes that declare a method, as they are answered over a project that was read.

The ancestry of a class is surveyed level by level, with what all declarations of a class say of it,
and then walked. What is known of the walk so becomes a statement about the classes of the project.
-/

set_option autoImplicit false

namespace SmaliNavigator

namespace Index

/-- A class of the project declares a method, as one that is not private unless that is accepted. -/
def DeclaresMethod (ix : Index) (m : Method) (acceptPrivate : Bool) (identifier : String) : Prop :=
  ∃ f c, (f,c) ∈ ix.classes ∧ c.identifier = identifier ∧
    ∃ n ∈ c.methodsLike m, acceptPrivate = true ∨ n.isPrivate = false

instance (ix : Index) (m : Method) (acceptPrivate : Bool) (identifier : String) :
    Decidable (ix.DeclaresMethod m acceptPrivate identifier) :=
  decidable_of_iff (ix.classes.any (fun x => x.2.identifier == identifier &&
      (x.2.methodsLike m).any fun n => acceptPrivate || !n.isPrivate) = true) <| by
    simp only [List.any_eq_true, Bool.and_eq_true, beq_iff_eq, Bool.or_eq_true, Bool.not_eq_true']
    exact ⟨fun ⟨⟨f,c⟩,hc,hid,hmethod⟩ => ⟨f,c,hc,hid,hmethod⟩,
      fun ⟨f,c,hc,hid,hmethod⟩ => ⟨⟨f,c⟩,hc,hid,hmethod⟩⟩

/-- A class at or above another one that declares a method while nothing above it does. -/
structure IsTopmost (ix : Index) (m : Method) (acceptPrivate : Bool) (identifier x : String) : Prop where
  above : x = identifier ∨ ix.Below identifier x
  declares : ix.DeclaresMethod m acceptPrivate x
  top : ∀ y, ix.Below x y → ¬ix.DeclaresMethod m acceptPrivate y

/-- The parents of a class in all of its declarations, each once. -/
def parentsOf (ix : Index) (identifier : String) : List String :=
  (((ix.declared identifier).map (·.2)).flatMap Class.parentIdentifiers).eraseDups

/-- What all declarations of a class say of it. -/
def ancestorOf (ix : Index) (m : Method) (acceptPrivate : Bool) (identifier : String) : Ancestor where
  identifier
  parents := ix.parentsOf identifier
  declares := ((ix.declared identifier).map (·.2)).any fun c =>
    (c.methodsLike m).any fun n => acceptPrivate || !n.isPrivate

/-- The parents of the classes of a level. -/
def parentsAbove (ix : Index) (level : List String) : List String := level.flatMap ix.parentsOf

/-- A class and what is above it, in the order in which it is surveyed. -/
def surveyed (ix : Index) (identifier : String) : List String :=
  widen ix.parentsAbove (ix.files.size + 1) [identifier] [identifier]

/-- The ancestry of a class. -/
def ancestryOf (ix : Index) (m : Method) (acceptPrivate : Bool) (identifier : String) : Ancestry :=
  (ix.surveyed identifier).map (ix.ancestorOf m acceptPrivate)

/-- On the walk up from a class, another one learns of a topmost class that declares a method: that is
a parent, or a parent learns of it to which the walk came from there. -/
def Learns (ix : Index) (m : Method) (acceptPrivate : Bool) (identifier : String) : String → Prop :=
  let a := ix.ancestryOf m acceptPrivate identifier
  a.Sees (a.walk identifier).seen (ix.IsTopmost m acceptPrivate identifier)

/-- The classes that are answered as the topmost ones. -/
def rootsOf (ix : Index) (m : Method) (acceptPrivate : Bool) (identifier : String) : List String :=
  (ix.ancestryOf m acceptPrivate identifier).roots identifier

open Query (Answers)

variable {s : Surroundings} {ix : Index} {m : Method} {acceptPrivate : Bool}

theorem find?_map_ancestorOf (ids : List String) (id : String) :
    Ancestry.find? (ids.map (ix.ancestorOf m acceptPrivate)) id =
      if id ∈ ids then some (ix.ancestorOf m acceptPrivate id) else none := by
  unfold Ancestry.find?
  induction ids with
  | nil => rfl
  | cons x xs ih =>
    rw [List.map_cons, List.find?_cons]
    by_cases hx : x = id
    · subst hx
      simp [ancestorOf]
    · have hne : ((ix.ancestorOf m acceptPrivate x).identifier == id) = false := by
        simpa [ancestorOf] using hx
      rw [hne, ih]
      simp [Ne.symm hx]

section AllRead

variable (h : ix.AllRead s.source)
include h

theorem AllRead.mem_parentsOf {child parent : String} :
    parent ∈ ix.parentsOf child ↔ ix.Extends child parent := by
  rw [h.extends_iff, parentsOf, List.mem_eraseDups, List.flatMap_map]

theorem AllRead.declares_ancestorOf {identifier : String} :
    (ix.ancestorOf m acceptPrivate identifier).declares = true ↔
      ix.DeclaresMethod m acceptPrivate identifier := by
  simp only [ancestorOf, List.any_map, List.any_eq_true, Function.comp, Bool.or_eq_true,
    Bool.not_eq_true']
  constructor
  · rintro ⟨⟨f,c⟩,hc,n,hn,hprivate⟩
    obtain ⟨_,hgood,hid⟩ := mem_declared.mp hc
    obtain ⟨g,_,hg⟩ := mem_classes_of_goodClass? hgood
    exact ⟨g,c,hg,hid,n,hn,hprivate⟩
  · rintro ⟨f,c,hc,rfl,n,hn,hprivate⟩
    obtain ⟨g,_,hg⟩ := h.exists_mem_declared hc
    exact ⟨_,hg,n,hn,hprivate⟩

theorem AllRead.leads_parentsAbove :
    Widen.Leads ix.parentsAbove ix.Extends ix.Extends (fun _ => False) := by
  have hmem (level : List String) (x : String) :
      x ∈ ix.parentsAbove level ↔ ∃ y ∈ level, ix.Extends y x := by
    simp [parentsAbove, h.mem_parentsOf]
  exact ⟨fun level x hx => ⟨not_false,(hmem level x).mp hx⟩,
    fun level y hy x hup _ => (hmem level x).mpr ⟨y,hy,hup⟩⟩

theorem AllRead.mem_surveyed {identifier x : String} :
    x ∈ ix.surveyed identifier ↔ Relation.ReflTransGen ix.Extends identifier x := by
  constructor
  · intro hx
    exact (Widen.sound_widen h.leads_parentsAbove identifier
      (by simp [Relation.ReflTransGen.refl]) (by simp [Relation.ReflTransGen.refl]) x hx).2
  · intro hx
    by_cases hid : identifier ∈ ix.declaredIdentifiers
    · have hsize := ix.length_declaredIdentifiers_le
      have hfuel := length_filter_not_mem_lt (List.nil_subset [identifier]) hid (by simp)
        List.mem_cons_self
      have hlength := List.length_filter_le (· ∉ ([] : List String)) ix.declaredIdentifiers
      exact Widen.mem_widen_of_reflTransGen h.leads_parentsAbove
        (fun _ y _ _ hyz => hyz.mem_declaredIdentifiers) (by omega) (by simp) (by simp) hx not_false
    · rcases Relation.ReflTransGen.cases_head hx with rfl | ⟨y,hup,_⟩
      · exact Widen.mem_widen_of_mem List.mem_cons_self
      · exact absurd hup.mem_declaredIdentifiers hid

/-! ### The ancestry of a class -/

theorem AllRead.up_iff {identifier child parent : String} :
    (ix.ancestryOf m acceptPrivate identifier).Up child parent ↔
      Relation.ReflTransGen ix.Extends identifier child ∧ ix.Extends child parent := by
  unfold Ancestry.Up ancestryOf
  rw [find?_map_ancestorOf, ← h.mem_surveyed]
  simp [ancestorOf, h.mem_parentsOf]

theorem AllRead.declares_iff {identifier x : String} :
    (ix.ancestryOf m acceptPrivate identifier).Declares x ↔
      Relation.ReflTransGen ix.Extends identifier x ∧ ix.DeclaresMethod m acceptPrivate x := by
  unfold Ancestry.Declares ancestryOf
  rw [find?_map_ancestorOf, ← h.mem_surveyed]
  simp [h.declares_ancestorOf]

theorem AllRead.above_iff {identifier : String} {x y : String}
    (hx : Relation.ReflTransGen ix.Extends identifier x) :
    Relation.TransGen (ix.ancestryOf m acceptPrivate identifier).Up x y ↔ ix.Below x y := by
  constructor
  · exact fun hup => Relation.TransGen.mono (fun _ _ hup => (h.up_iff.mp hup).2) _ _ hup
  · intro hup
    induction hup with
    | single hup => exact .single (h.up_iff.mpr ⟨hx,hup⟩)
    | tail hbelow hup ih =>
      exact ih.tail (h.up_iff.mpr ⟨hx.trans (Relation.TransGen.to_reflTransGen hbelow),hup⟩)

theorem AllRead.reach_iff {identifier x y : String}
    (hx : Relation.ReflTransGen ix.Extends identifier x) :
    Relation.ReflTransGen (ix.ancestryOf m acceptPrivate identifier).Up x y ↔ y = x ∨ ix.Below x y := by
  rw [Relation.reflTransGen_iff_eq_or_transGen, h.above_iff hx]

theorem AllRead.isTopmost_iff {identifier x : String} :
    (ix.ancestryOf m acceptPrivate identifier).IsTopmost identifier x ↔
      ix.IsTopmost m acceptPrivate identifier x := by
  constructor
  · rintro ⟨hreach,hdeclares,htop⟩
    have habove := (h.reach_iff .refl).mp hreach
    have hreach' := Relation.reflTransGen_iff_eq_or_transGen.mpr habove
    refine ⟨habove,(h.declares_iff.mp hdeclares).2,
      fun y hy hdeclares => htop y ((h.above_iff hreach').mpr hy) (h.declares_iff.mpr ⟨?_,hdeclares⟩)⟩
    exact hreach'.trans (Relation.TransGen.to_reflTransGen hy)
  · rintro ⟨habove,hdeclares,htop⟩
    have hreach := Relation.reflTransGen_iff_eq_or_transGen.mpr habove
    exact ⟨(h.reach_iff .refl).mpr habove,h.declares_iff.mpr ⟨hreach,hdeclares⟩,
      fun y hy hdeclares => htop y ((h.above_iff hreach).mp hy) (h.declares_iff.mp hdeclares).2⟩

/-- Each class that is answered is at or above the class and declares the method. -/
theorem AllRead.declares_of_mem_rootsOf {identifier x : String}
    (hx : x ∈ ix.rootsOf m acceptPrivate identifier) :
    (x = identifier ∨ ix.Below identifier x) ∧ ix.DeclaresMethod m acceptPrivate x := by
  obtain ⟨hreach,hdeclares⟩ := Ancestry.reflTransGen_of_mem_roots hx
  exact ⟨(h.reach_iff .refl).mp hreach,(h.declares_iff.mp hdeclares).2⟩

/-- Each class that declares the method is answered or below one that is, whatever cycles there are. -/
theorem AllRead.exists_mem_rootsOf {identifier x : String} (hx : x = identifier ∨ ix.Below identifier x)
    (hdeclares : ix.DeclaresMethod m acceptPrivate x) :
    ∃ r ∈ ix.rootsOf m acceptPrivate identifier, x = r ∨ ix.Below x r := by
  have hreach := Relation.reflTransGen_iff_eq_or_transGen.mpr hx
  obtain ⟨r,hr,hxr⟩ := Ancestry.exists_root ((h.reach_iff .refl).mpr hx)
    (h.declares_iff.mpr ⟨hreach,hdeclares⟩)
  exact ⟨r,hr,((h.reach_iff hreach).mp hxr).imp_left Eq.symm⟩

variable (hnever : s.cancellation = .never)
include hnever

theorem AllRead.answers_surveyLevel (level ids : List String) :
    Answers s ix (Query.surveyLevel m acceptPrivate level (ids.map (ix.ancestorOf m acceptPrivate)))
      ((addNew ids level).1.map (ix.ancestorOf m acceptPrivate),
        ix.parentsAbove (addNew ids level).2) := by
  induction level generalizing ids with
  | nil => exact .pure _
  | cons id level ih =>
    unfold Query.surveyLevel
    by_cases hid : id ∈ ids
    · rw [find?_map_ancestorOf, if_pos hid, Option.isSome_some, if_pos rfl, addNew_cons_of_mem _ hid]
      exact ih ids
    · rw [find?_map_ancestorOf, if_neg hid, if_neg (by simp), addNew_cons_of_not_mem _ hid]
      have hnode : Answers s ix (Query.ancestor m acceptPrivate id)
          (ix.ancestorOf m acceptPrivate id) := (h.answers_findClasses id).map _
      have hrest := ih (ids ++ [id])
      rw [List.map_append, List.map_singleton] at hrest
      exact (Query.answers_isCalledOff hnever).bind (hnode.bind (hrest.bind (.pure _)))

theorem AllRead.answers_survey (fuel : Nat) (level ids : List String) :
    Answers s ix
      (Query.survey m acceptPrivate (fuel + 1) level (ids.map (ix.ancestorOf m acceptPrivate)))
      ((widen ix.parentsAbove fuel (addNew ids level).2 (addNew ids level).1).map
        (ix.ancestorOf m acceptPrivate)) := by
  induction fuel generalizing level ids with
  | zero =>
    cases level with
    | nil => exact .pure _
    | cons id level => exact (h.answers_surveyLevel hnever _ ids).bind (.pure _)
  | succ fuel ih =>
    cases level with
    | nil => exact .pure _
    | cons id level =>
      refine (h.answers_surveyLevel hnever _ ids).bind ?_
      have hstep (fresh all : List String) : widen ix.parentsAbove (fuel + 1) fresh all =
          widen ix.parentsAbove fuel (addNew all (ix.parentsAbove fresh)).2
            (addNew all (ix.parentsAbove fresh)).1 := by
        cases fresh with
        | nil => exact Widen.widen_nil.symm
        | cons x fresh => rfl
      rw [hstep]
      exact ih _ _

theorem AllRead.answers_rootDeclarers (hm : m.isConstructor = false) (identifier : String) :
    Answers s ix (Query.rootDeclarers identifier m acceptPrivate)
      (ix.rootsOf m acceptPrivate identifier) := by
  unfold Query.rootDeclarers
  rw [hm, if_neg (by simp)]
  refine Query.answers_getIndex fun jx ha => ?_
  rw [← ha.files]
  exact (h.answers_survey hnever (ix.files.size + 1) [identifier] []).map _

end AllRead

end Index

namespace Query

variable {s : Surroundings} {ix : Index}

/-- The answered classes are at or above the class and declare the method, all topmost ones are among
them, and each class that declares it is one of them or below one, whatever cycles there are. Without
cycles they are the topmost classes exactly if each other class that declares the method learns of one
of those on the walk. -/
theorem rootDeclarers_topmost_iff (h : ix.AllRead s.source) (hnever : s.cancellation = .never)
    {m : Method} (hm : m.isConstructor = false) (acceptPrivate : Bool) (identifier : String) :
    ∃ roots, ((rootDeclarers identifier m acceptPrivate).ask s ix).1 = some roots ∧ roots.Nodup ∧
      (∀ x ∈ roots, (x = identifier ∨ ix.Below identifier x) ∧ ix.DeclaresMethod m acceptPrivate x) ∧
      (∀ x, ix.IsTopmost m acceptPrivate identifier x → x ∈ roots) ∧
      (∀ x, x = identifier ∨ ix.Below identifier x → ix.DeclaresMethod m acceptPrivate x →
        ∃ r ∈ roots, x = r ∨ ix.Below x r) ∧
      ((∀ x, x = identifier ∨ ix.Below identifier x → ¬ix.Below x x) →
        ((∀ x, x ∈ roots ↔ ix.IsTopmost m acceptPrivate identifier x) ↔
          ∀ x, x = identifier ∨ ix.Below identifier x → ix.DeclaresMethod m acceptPrivate x →
            ¬ix.IsTopmost m acceptPrivate identifier x → ix.Learns m acceptPrivate identifier x)) := by
  refine ⟨_,(h.answers_rootDeclarers hnever hm identifier).fst_ask h.sound,
    Ancestry.nodup_roots _ identifier,fun x hx => h.declares_of_mem_rootsOf hx,
    fun x hx => (h.isTopmost_iff.mpr hx).mem_roots,fun x hx hdeclares => h.exists_mem_rootsOf hx hdeclares,
    fun hacyclic => ?_⟩
  have hacyclic' : (ix.ancestryOf m acceptPrivate identifier).Acyclic [identifier] := by
    intro id hid x hx hself
    obtain rfl := List.mem_singleton.mp hid
    have habove := (h.reach_iff .refl).mp hx
    exact hacyclic x habove
      ((h.above_iff (Relation.reflTransGen_iff_eq_or_transGen.mpr habove)).mp hself)
  have htop : (ix.ancestryOf m acceptPrivate identifier).IsTopmost identifier =
      ix.IsTopmost m acceptPrivate identifier := funext fun x => propext h.isTopmost_iff
  have hexact := Ancestry.mem_roots_iff_isTopmost hacyclic'
  simp only [htop] at hexact
  refine hexact.trans (forall_congr' fun x => ?_)
  rw [h.reach_iff .refl]
  refine forall_congr' fun hx => ?_
  rw [h.declares_iff, and_iff_right (Relation.reflTransGen_iff_eq_or_transGen.mpr hx)]
  rfl

/-- Two ways up to the one class at the top, where one of them comes by another declaration. -/
theorem rootDeclarers_topmost_iff_diamond :
    let s : Surroundings := ⟨((((MemoryProject.empty.put (.ofString "A.smali")
      ⟨".class LA;\n.super Lb;\n.method f()V\n.end method\n",none⟩).put (.ofString "D.smali")
      ⟨".class LD;\n.super LM;\n.implements LN;\n",none⟩).put (.ofString "M.smali")
      ⟨".class LM;\n.super LA;\n",none⟩).put (.ofString "N.smali")
      ⟨".class LN;\n.super LA;\n.method f()V\n.end method\n",none⟩).source,.never⟩
    let ix := (Operation.load.query.ask s (.new .default)).2
    let m : Method := ⟨.within 2 0 12,none,[],⟨"f",.within 2 8 9⟩,[],
      .single (.primitive .void (.within 2 11 12))⟩
    ix.AllRead s.source ∧ m.isConstructor = false ∧
      ∃ roots, ((rootDeclarers "LD;" m false).ask s ix).1 = some roots ∧ roots.Nodup ∧
        (∀ x, ix.IsTopmost m false "LD;" x → x ∈ roots) ∧
        ((∀ x, x = "LD;" ∨ ix.Below "LD;" x → ¬ix.Below x x) →
          ((∀ x, x ∈ roots ↔ ix.IsTopmost m false "LD;" x) ↔
            ∀ x, x = "LD;" ∨ ix.Below "LD;" x → ix.DeclaresMethod m false x →
              ¬ix.IsTopmost m false "LD;" x → ix.Learns m false "LD;" x)) ∧
        roots = ["LA;"] := by
  intro s ix m
  have hread : ix.AllRead s.source :=
    (Index.complete_load rfl rfl (MemoryProject.ignoresSpelling _) rfl).toAllRead
  have hm : m.isConstructor = false := by decide
  obtain ⟨roots,hroots,hnodup,_,htop,_,hexact⟩ := rootDeclarers_topmost_iff hread rfl hm false "LD;"
  have hanswer : ((rootDeclarers "LD;" m false).ask s ix).1 = some ["LA;"] := by decide +kernel
  exact ⟨hread,hm,roots,hroots,hnodup,htop,hexact,Option.some.inj (hroots.symm.trans hanswer)⟩

/-- Two ways up that meet below the top: the class on the second one does not learn of the root, and
is answered although it is below it. -/
theorem rootDeclarers_below_root :
    let s : Surroundings := ⟨((((MemoryProject.empty.put (.ofString "A.smali")
      ⟨".class LA;\n.super Lb;\n.method f()V\n.end method\n",none⟩).put (.ofString "D.smali")
      ⟨".class LD;\n.super LM;\n.implements LN;\n",none⟩).put (.ofString "M.smali")
      ⟨".class LM;\n.super LA;\n",none⟩).put (.ofString "N.smali")
      ⟨".class LN;\n.super LM;\n.method f()V\n.end method\n",none⟩).source,.never⟩
    let ix := (Operation.load.query.ask s (.new .default)).2
    let m : Method := ⟨.within 2 0 12,none,[],⟨"f",.within 2 8 9⟩,[],
      .single (.primitive .void (.within 2 11 12))⟩
    ix.Complete s.source ∧ (∀ x, ¬ix.Below x x) ∧ m.isConstructor = false ∧
      ((rootDeclarers "LD;" m false).ask s ix).1 = some ["LA;","LN;"] ∧
      ¬ix.IsTopmost m false "LD;" "LN;" := by
  intro s ix m
  have hcomplete : ix.Complete s.source :=
    Index.complete_load rfl rfl (MemoryProject.ignoresSpelling _) rfl
  have hacyclic : ∀ x, ¬ix.Below x x :=
    Index.not_below_self (fun x => ["Lb;","LA;","LM;","LN;","LD;"].idxOf x) (by decide +kernel)
  have hdeclares : ix.DeclaresMethod m false "LA;" := by decide +kernel
  have hbelow : ix.Below "LN;" "LA;" :=
    .head (b := "LM;") (by decide +kernel) (.single (by decide +kernel))
  exact ⟨hcomplete,hacyclic,by decide,by decide +kernel,fun htop => htop.top "LA;" hbelow hdeclares⟩

end Query

end SmaliNavigator
