import SmaliNavigator.Proofs.Index.Ancestry

/-!
What the walk up an ancestry without cycles takes for the topmost classes.

At a class that it has seen before, the walk only says whether that class is a root. So a class below
a root learns of it through classes that the walk came to from there, one from the other, and is told
nothing where it meets one of them a second time. `Sees` is what a class learns in this way.
-/

set_option autoImplicit false

namespace SmaliNavigator.Ancestry

variable {a : Ancestry} {ids : List String} {w w' : Walk} {found : Bool}

def isChild (a : Ancestry) (parent child : String) : Bool :=
  (a.find? child).any (·.parents.contains parent)

theorem isChild_iff {parent child : String} : a.isChild parent child = true ↔ a.Up child parent := by
  simp [isChild, Up, Option.any_eq_true]

/-! ### Where the walk came from -/

/-- The class that a walk came from when it came to a class: the last one before of which that is a
parent. The order of the walk has the last class first. -/
def enteredFrom? (a : Ancestry) (order : List String) (identifier : String) : Option String :=
  (order.dropWhile (· ≠ identifier)).tail.find? (a.isChild identifier)

theorem enteredFrom?_cons_self (id : String) (order : List String) :
    a.enteredFrom? (id :: order) id = order.find? (a.isChild id) := by
  simp [enteredFrom?]

theorem enteredFrom?_append {new order : List String} {id : String} (h : id ∉ new) :
    a.enteredFrom? (new ++ order) id = a.enteredFrom? order id := by
  unfold enteredFrom?
  rw [List.dropWhile_append_of_pos]
  intro x hx
  simpa using fun heq : x = id => h (heq ▸ hx)

theorem up_of_enteredFrom? {order : List String} {x y : String} (h : a.enteredFrom? order y = some x) :
    a.Up x y :=
  isChild_iff.mp (List.find?_some h)

theorem mem_of_enteredFrom?_cons {order : List String} {id x y : String}
    (h : a.enteredFrom? (id :: order) y = some x) : x ∈ order := by
  have hmem := List.mem_of_find?_eq_some h
  by_cases hid : id = y
  · simpa [hid] using hmem
  · rw [List.dropWhile_cons_of_pos (by simpa using hid)] at hmem
    exact (List.dropWhile_sublist _).subset (List.mem_of_mem_tail hmem)

/-- A class learns of a root that is its parent, and of those that a parent learns of if the walk came
to the parent from the class. -/
inductive Sees (a : Ancestry) (order : List String) (roots : String → Prop) : String → Prop
  | parent {x r : String} (hup : a.Up x r) (hr : roots r) : Sees a order roots x
  | entered {x y : String} (hentry : a.enteredFrom? order y = some x) (h : Sees a order roots y) :
    Sees a order roots x

theorem Sees.exists_up {order : List String} {roots : String → Prop} {x : String}
    (h : a.Sees order roots x) : ∃ y, a.Up x y := by
  cases h with
  | parent hup _ => exact ⟨_,hup⟩
  | entered hentry _ => exact ⟨_,up_of_enteredFrom? hentry⟩

theorem Sees.congr {order order' : List String} {roots roots' : String → Prop} {x : String}
    (h : a.Sees order roots x)
    (hentry : ∀ y, Relation.TransGen a.Up x y → a.enteredFrom? order' y = a.enteredFrom? order y)
    (hroots : ∀ y, Relation.TransGen a.Up x y → roots y → roots' y) : a.Sees order' roots' x := by
  induction h with
  | parent hup hr => exact .parent hup (hroots _ (.single hup) hr)
  | entered hentered _ ih =>
    have hup := up_of_enteredFrom? hentered
    refine .entered ((hentry _ (.single hup)).trans hentered) (ih ?_ ?_)
    · exact fun y hy => hentry y (.head hup hy)
    · exact fun y hy => hroots y (.head hup hy)

/-! ### Classes that are judged -/

/-- The walk has come to a class and all that is above it, and knows for each whether it is a root. -/
def Judged (a : Ancestry) (w : Walk) (identifier : String) : Prop :=
  ∀ x, Relation.ReflTransGen a.Up identifier x →
    x ∈ w.seen ∧ (x ∈ w.roots ↔ a.Declares x ∧ ¬a.Sees w.seen (· ∈ w.roots) x)

/-- A walk that went on: what it came to since is in front, and so are the roots among that. -/
structure Walk.Grows (w w' : Walk) : Prop where
  nodup : w'.seen.Nodup
  seen : ∃ new, w'.seen = new ++ w.seen
  roots : w.roots ⊆ w'.roots
  new : ∀ r ∈ w'.roots, r ∈ w.roots ∨ r ∉ w.seen

namespace Walk.Grows

theorem refl (h : w.seen.Nodup) : w.Grows w where
  nodup := h
  seen := ⟨[],rfl⟩
  roots := List.Subset.refl _
  new _ := .inl

variable (h : w.Grows w')
include h

theorem seen_subset : w.seen ⊆ w'.seen := by
  obtain ⟨new,hnew⟩ := h.seen
  rw [hnew]
  exact List.subset_append_right _ _

theorem enteredFrom?_eq {x : String} (hx : x ∈ w.seen) :
    a.enteredFrom? w'.seen x = a.enteredFrom? w.seen x := by
  obtain ⟨new,hnew⟩ := h.seen
  have hnodup := h.nodup
  rw [hnew] at hnodup ⊢
  exact enteredFrom?_append fun hmem => List.disjoint_of_nodup_append hnodup hmem hx

theorem mem_roots_iff {x : String} (hx : x ∈ w.seen) : x ∈ w'.roots ↔ x ∈ w.roots :=
  ⟨fun hmem => (h.new x hmem).resolve_right fun hnew => hnew hx,fun hmem => h.roots hmem⟩

theorem trans {w'' : Walk} (h' : w'.Grows w'') : w.Grows w'' where
  nodup := h'.nodup
  seen := by
    obtain ⟨new,hnew⟩ := h.seen
    obtain ⟨new',hnew'⟩ := h'.seen
    exact ⟨new' ++ new,by rw [hnew', hnew, List.append_assoc]⟩
  roots _ hr := h'.roots (h.roots hr)
  new r hr := by
    rcases h'.new r hr with hr | hr
    · exact h.new r hr
    · exact .inr fun hseen => hr (h.seen_subset hseen)

theorem leave {id : String} (hid : id ∉ w.seen) (above declares : Bool) :
    w.Grows (w'.leave id above declares) where
  nodup := by simpa using h.nodup
  seen := by simpa using h.seen
  roots _ hr := Walk.mem_roots_leave.mpr (.inl (h.roots hr))
  new r hr := by
    rcases Walk.mem_roots_leave.mp hr with hr | ⟨rfl,_⟩
    · exact h.new r hr
    · exact .inr hid

end Walk.Grows

theorem Walk.Proper.grows_enter (h : w.Proper) {id : String} (hid : id ∉ w.seen) :
    w.Grows { w with seen := id :: w.seen } where
  nodup := List.nodup_cons.mpr ⟨hid,h.nodup_seen⟩
  seen := ⟨[id],rfl⟩
  roots := List.Subset.refl _
  new _ := .inl

theorem sees_iff_of_above {x : String}
    (hentry : ∀ y, Relation.TransGen a.Up x y → a.enteredFrom? w'.seen y = a.enteredFrom? w.seen y)
    (hroots : ∀ y, Relation.TransGen a.Up x y → (y ∈ w'.roots ↔ y ∈ w.roots)) :
    a.Sees w'.seen (· ∈ w'.roots) x ↔ a.Sees w.seen (· ∈ w.roots) x :=
  ⟨fun hsees => hsees.congr (fun y hy => (hentry y hy).symm) fun y hy => (hroots y hy).mp,
    fun hsees => hsees.congr hentry fun y hy => (hroots y hy).mpr⟩

theorem Judged.of_above {x : String} (h : a.Judged w x) (hseen : w.seen ⊆ w'.seen)
    (hentry : ∀ y, Relation.ReflTransGen a.Up x y → a.enteredFrom? w'.seen y = a.enteredFrom? w.seen y)
    (hroots : ∀ y, Relation.ReflTransGen a.Up x y → (y ∈ w'.roots ↔ y ∈ w.roots)) :
    a.Judged w' x := by
  intro y hy
  obtain ⟨hyseen,hjudged⟩ := h y hy
  refine ⟨hseen hyseen,?_⟩
  have hsees := sees_iff_of_above (fun z hz => hentry z (hy.trans hz.to_reflTransGen))
    fun z hz => hroots z (hy.trans hz.to_reflTransGen)
  rw [hroots y hy, hjudged, hsees]

theorem Judged.grows {x : String} (h : a.Judged w x) (hgrows : w.Grows w') : a.Judged w' x :=
  h.of_above hgrows.seen_subset (fun y hy => hgrows.enteredFrom?_eq (h y hy).1)
    fun y hy => hgrows.mem_roots_iff (h y hy).1

theorem Judged.sees_grows {x : String} (h : a.Judged w x) (hgrows : w.Grows w') :
    a.Sees w'.seen (· ∈ w'.roots) x ↔ a.Sees w.seen (· ∈ w.roots) x :=
  sees_iff_of_above (fun y hy => hgrows.enteredFrom?_eq (h y hy.to_reflTransGen).1)
    fun y hy => hgrows.mem_roots_iff (h y hy.to_reflTransGen).1

theorem Visits.grows (h : a.Visits ids w found w') (hw : w.Proper) : w.Grows w' where
  nodup := (h.proper hw).nodup_seen
  seen := h.exists_seen_eq
  roots := h.roots_subset
  new _ hr := (h.mem_roots_cases hr).imp_right And.left

/-! ### Visits -/

/-- What the visit of a class says: that it is a root, or that it learns of one if the walk comes to
it right then. -/
def Tells (a : Ancestry) (w w' : Walk) (identifier : String) : Prop :=
  identifier ∈ w'.roots ∨ identifier ∉ w.seen ∧
    a.enteredFrom? w'.seen identifier = w.seen.find? (a.isChild identifier) ∧
    a.Sees w'.seen (· ∈ w'.roots) identifier

/-- What a walk that visits some classes makes of those that it comes to. -/
structure Judges (a : Ancestry) (ids : List String) (w : Walk) (found : Bool) (w' : Walk) : Prop where
  judged : ∀ x ∈ w'.seen, x ∉ w.seen → a.Judged w' x
  entry : ∀ x ∈ w'.seen, x ∉ w.seen → (∃ y, a.enteredFrom? w'.seen x = some y ∧ y ∉ w.seen) ∨
    x ∈ ids ∧ a.enteredFrom? w'.seen x = w.seen.find? (a.isChild x)
  found_iff : found = true ↔ ∃ x ∈ ids, a.Tells w w' x

/-- Before a visit, each class is judged that was seen, or the walk is still on its way up from it. -/
def Open (a : Ancestry) (ids : List String) (w : Walk) : Prop :=
  ∀ x ∈ w.seen, a.Judged w x ∨ ∀ id ∈ ids, Relation.TransGen a.Up x id

/-- No class at or above some classes is above itself. -/
def Acyclic (a : Ancestry) (ids : List String) : Prop :=
  ∀ id ∈ ids, ∀ x, Relation.ReflTransGen a.Up id x → ¬Relation.TransGen a.Up x x

section Node

/-! A class is visited from which the walk goes up to its parents. -/

variable {id : String} {node : Ancestor} {above : Bool} {w₁ : Walk} (hw : w.Proper)
  (hnew : id ∉ w.seen) (hnode : a.find? id = some node)
  (hvisits : a.Visits node.parents { w with seen := id :: w.seen } above w₁)
  (hjudges : a.Judges node.parents { w with seen := id :: w.seen } above w₁)
include hw hnew hnode hvisits hjudges

theorem sees_iff_above : a.Sees w₁.seen (· ∈ w₁.roots) id ↔ above = true := by
  have hgrows := hvisits.grows (hw.enter hnew)
  have hfind {x : String} (hup : a.Up id x) : (id :: w.seen).find? (a.isChild x) = some id :=
    List.find?_cons_of_pos (isChild_iff.mpr hup)
  have hparents {x : String} (hup : a.Up id x) : x ∈ node.parents := by
    obtain ⟨node',hnode',hparent⟩ := hup
    exact Option.some.inj (hnode.symm.trans hnode') ▸ hparent
  rw [hjudges.found_iff]
  constructor
  · intro hsees
    cases hsees with
    | @parent _ r hup hr => exact ⟨r,hparents hup,.inl hr⟩
    | @entered _ y hentry hsees =>
      have hup := up_of_enteredFrom? hentry
      refine ⟨y,hparents hup,.inr ⟨fun hseen => hnew ?_,hentry.trans (hfind hup).symm,hsees⟩⟩
      rw [hgrows.enteredFrom?_eq hseen] at hentry
      exact mem_of_enteredFrom?_cons hentry
  · rintro ⟨x,hx,hr | ⟨-,hentry,hsees⟩⟩
    · exact .parent ⟨node,hnode,hx⟩ hr
    · exact .entered (hentry.trans (hfind ⟨node,hnode,hx⟩)) hsees

variable (hacyclic : ∀ x, Relation.ReflTransGen a.Up id x → ¬Relation.TransGen a.Up x x)
include hacyclic

omit hw hnew hnode hvisits hjudges in
theorem Judged.leave {x : String} (h : a.Judged w₁ x) (hx : Relation.TransGen a.Up id x) :
    a.Judged (w₁.leave id above node.declares) x := by
  refine h.of_above (by simp) (by simp) fun y hy => ?_
  have hne : y ≠ id := by
    rintro rfl
    exact hacyclic y .refl (hx.trans_left hy)
  rw [Walk.mem_roots_leave]
  simp [hne]

theorem sees_leave_iff : a.Sees (w₁.leave id above node.declares).seen
    (· ∈ (w₁.leave id above node.declares).roots) id ↔ above = true := by
  rw [← sees_iff_above hw hnew hnode hvisits hjudges]
  refine sees_iff_of_above (by simp) fun y hy => ?_
  have hne : y ≠ id := by
    rintro rfl
    exact hacyclic y .refl hy
  rw [Walk.mem_roots_leave]
  simp [hne]

variable (hopen : ∀ x ∈ w.seen, a.Judged w x ∨ Relation.TransGen a.Up x id)
include hopen

/-- When the walk leaves the class, the class is judged, and so is all that it came to from there. -/
theorem judged_leave {x : String} (hx : x ∈ w₁.seen) (hold : x ∉ w.seen) :
    a.Judged (w₁.leave id above node.declares) x := by
  have hgrows := (hw.grows_enter hnew).trans (hvisits.grows (hw.enter hnew))
  have hparent {p : String} (hup : a.Up id p) : a.Judged (w₁.leave id above node.declares) p := by
    have hmem : p ∈ w₁.seen := by
      obtain ⟨node',hnode',hparent⟩ := hup
      obtain rfl := Option.some.inj (hnode.symm.trans hnode')
      exact hvisits.mem_seen hparent
    have hjudged : a.Judged w₁ p := by
      by_cases hseen : p ∈ id :: w.seen
      · rcases List.mem_cons.mp hseen with rfl | hseen
        · exact absurd (.single hup) (hacyclic p .refl)
        rcases hopen p hseen with hjudged | hback
        · exact hjudged.grows hgrows
        · exact absurd (.head hup hback) (hacyclic id .refl)
      · exact hjudges.judged p hmem hseen
    exact hjudged.leave hacyclic (.single hup)
  by_cases hid : x = id
  · subst hid
    have hroot := hvisits.not_mem_roots hw hold
    have hdeclares : a.Declares x ↔ node.declares = true := by simp [Declares, hnode]
    have hsees := sees_leave_iff hw hnew hnode hvisits hjudges hacyclic
    intro y hy
    rcases Relation.ReflTransGen.cases_head hy with rfl | ⟨p,hup,hy⟩
    · refine ⟨by simpa using hx,?_⟩
      rw [Walk.mem_roots_leave, hdeclares, hsees]
      simp [hroot, and_comm]
    · exact hparent hup y hy
  · obtain ⟨p,hp,hreach⟩ := hvisits.reflTransGen_of_mem_seen hx (by simp [hid, hold])
    refine (hjudges.judged x hx (by simp [hid, hold])).leave hacyclic ?_
    exact .head' ⟨node,hnode,hp⟩ hreach

end Node

/-- Classes that a walk has judged since have no parent that it has not come to. -/
theorem find?_eq_of_judged (hgrows : w.Grows w') (hjudged : ∀ x ∈ w'.seen, x ∉ w.seen → a.Judged w' x)
    {x : String} (hx : x ∉ w'.seen) :
    w'.seen.find? (a.isChild x) = w.seen.find? (a.isChild x) := by
  obtain ⟨new,hnew⟩ := hgrows.seen
  have hnone : new.find? (a.isChild x) = none := by
    rw [List.find?_eq_none]
    intro y hy hchild
    have hyseen : y ∈ w'.seen := hnew ▸ List.mem_append_left _ hy
    have hyold : y ∉ w.seen := fun hmem =>
      List.disjoint_of_nodup_append (hnew ▸ hgrows.nodup) hy hmem
    exact hx (hjudged y hyseen hyold x (.single (isChild_iff.mp hchild))).1
  rw [hnew, List.find?_append, hnone, Option.none_or]

/-- What a walk makes of some classes and then of others is what it makes of all of them. -/
theorem Judges.append {ids' : List String} {w'' : Walk} {found' : Bool} (h : a.Judges ids w found w')
    (h' : a.Judges ids' w' found' w'') (hgrows : w.Grows w') (hgrows' : w'.Grows w'')
    (hids : ids ⊆ w'.seen) : a.Judges (ids ++ ids') w (found || found') w'' := by
  have hfind {x : String} (hx : x ∉ w'.seen) := find?_eq_of_judged hgrows h.judged hx
  have hfirst {x : String} (hx : x ∈ w'.seen) : a.Tells w w' x ↔ a.Tells w w'' x := by
    unfold Tells
    rw [hgrows'.mem_roots_iff hx, hgrows'.enteredFrom?_eq hx]
    refine or_congr_right (and_congr_right fun hold => and_congr_right fun _ => ?_)
    exact ((h.judged x hx hold).sees_grows hgrows').symm
  have hsecond {x : String} (hx : x ∉ w'.seen) : a.Tells w' w'' x ↔ a.Tells w w'' x := by
    have hold : x ∉ w.seen := fun hmem => hx (hgrows.seen_subset hmem)
    unfold Tells
    rw [hfind hx]
    simp [hx, hold]
  constructor
  case judged =>
    intro x hx hold
    by_cases hearlier : x ∈ w'.seen
    · exact (h.judged x hearlier hold).grows hgrows'
    · exact h'.judged x hx hearlier
  case entry =>
    intro x hx hold
    by_cases hearlier : x ∈ w'.seen
    · rw [hgrows'.enteredFrom?_eq hearlier]
      exact (h.entry x hearlier hold).imp_right (And.imp_left (List.mem_append_left _))
    · rcases h'.entry x hx hearlier with ⟨y,hy,hynew⟩ | ⟨hmem,hfrom⟩
      · exact .inl ⟨y,hy,fun hmem => hynew (hgrows.seen_subset hmem)⟩
      · exact .inr ⟨List.mem_append_right _ hmem,hfrom.trans (hfind hearlier)⟩
  case found_iff =>
    rw [Bool.or_eq_true, h.found_iff, h'.found_iff]
    constructor
    · rintro (⟨x,hx,htells⟩ | ⟨x,hx,htells⟩)
      · exact ⟨x,List.mem_append_left _ hx,(hfirst (hids hx)).mp htells⟩
      · by_cases hearlier : x ∈ w'.seen
        · exact ⟨x,List.mem_append_right _ hx,.inl (htells.resolve_right fun h => h.1 hearlier)⟩
        · exact ⟨x,List.mem_append_right _ hx,(hsecond hearlier).mp htells⟩
    · rintro ⟨x,hx,htells⟩
      rcases List.mem_append.mp hx with hx | hx
      · exact .inl ⟨x,hx,(hfirst (hids hx)).mpr htells⟩
      by_cases hearlier : x ∈ w'.seen
      · rcases htells with hroot | ⟨hold,hfrom,hsees⟩
        · exact .inr ⟨x,hx,.inl hroot⟩
        -- the walk came to the class before, and from a class that it had seen by then
        rcases h.entry x hearlier hold with ⟨y,hy,hynew⟩ | ⟨hmem,_⟩
        · rw [hgrows'.enteredFrom?_eq hearlier, hy] at hfrom
          exact absurd (List.mem_of_find?_eq_some hfrom.symm) hynew
        · exact .inl ⟨x,hmem,(hfirst hearlier).mpr (.inr ⟨hold,hfrom,hsees⟩)⟩
      · exact .inr ⟨x,hx,(hsecond hearlier).mpr htells⟩

/-- The walk has judged all that it came to, and so it is ready for what comes then. -/
theorem Judges.opens (h : a.Judges ids w found w') (hgrows : w.Grows w') {ids' : List String}
    (hopen : a.Open (ids ++ ids') w) : a.Open ids' w' := by
  intro x hx
  by_cases hold : x ∈ w.seen
  · exact (hopen x hold).imp (fun hjudged => hjudged.grows hgrows)
      fun hback id hid => hback id (List.mem_append_right _ hid)
  · exact .inl (h.judged x hx hold)

/-! ### Visits of one class -/

theorem judges_seen {id : String} (hseen : id ∈ w.seen) :
    a.Judges [id] w (w.roots.contains id) w where
  judged _ hx hnew := absurd hx hnew
  entry _ hx hnew := absurd hx hnew
  found_iff := by simp [Tells, hseen]

theorem judges_unknown {id : String} (hw : w.Proper) (hnew : id ∉ w.seen) (hnode : a.find? id = none) :
    a.Judges [id] w false { w with seen := id :: w.seen } := by
  have hnone {y : String} : ¬a.Up id y := by
    rintro ⟨node,hnode',_⟩
    simp [hnode] at hnode'
  have hundeclared : ¬a.Declares id := by
    rintro ⟨node,hnode',_⟩
    simp [hnode] at hnode'
  have hroot : id ∉ w.roots := fun hroot => hnew (hw.subset hroot)
  have hthere {x : String} (hx : x ∈ id :: w.seen) (hold : x ∉ w.seen) : x = id :=
    (List.mem_cons.mp hx).resolve_right hold
  constructor
  case judged =>
    intro x hx hold y hy
    obtain rfl := hthere hx hold
    rcases Relation.ReflTransGen.cases_head hy with rfl | ⟨z,hup,_⟩
    · exact ⟨List.mem_cons_self,iff_of_false hroot fun h => hundeclared h.1⟩
    · exact absurd hup hnone
  case entry =>
    intro x hx hold
    obtain rfl := hthere hx hold
    exact .inr ⟨List.mem_cons_self,enteredFrom?_cons_self x w.seen⟩
  case found_iff =>
    have hsees : ¬a.Sees (id :: w.seen) (· ∈ w.roots) id := fun hsees => hnone hsees.exists_up.choose_spec
    simp [Tells, hroot, hsees]

/-- The class of which the parents were visited tells of itself, or of what it has learned. -/
theorem judges_node {id : String} {node : Ancestor} {above : Bool} {w₁ : Walk} (hw : w.Proper)
    (hnew : id ∉ w.seen) (hnode : a.find? id = some node)
    (hvisits : a.Visits node.parents { w with seen := id :: w.seen } above w₁)
    (hjudges : a.Judges node.parents { w with seen := id :: w.seen } above w₁)
    (hacyclic : ∀ x, Relation.ReflTransGen a.Up id x → ¬Relation.TransGen a.Up x x)
    (hopen : ∀ x ∈ w.seen, a.Judged w x ∨ Relation.TransGen a.Up x id) :
    a.Judges [id] w (above || node.declares) (w₁.leave id above node.declares) := by
  have hjudged {x : String} (hx : x ∈ w₁.seen) (hold : x ∉ w.seen) :=
    judged_leave hw hnew hnode hvisits hjudges hacyclic hopen hx hold
  have hid : id ∈ w₁.seen := hvisits.seen_subset List.mem_cons_self
  have hentry : a.enteredFrom? w₁.seen id = w.seen.find? (a.isChild id) := by
    rw [(hvisits.grows (hw.enter hnew)).enteredFrom?_eq List.mem_cons_self, enteredFrom?_cons_self]
  constructor
  case judged => exact fun x hx hold => hjudged (by simpa using hx) hold
  case entry =>
    intro x hx hold
    rw [Walk.seen_leave] at hx ⊢
    by_cases heq : x = id
    · exact .inr ⟨heq ▸ List.mem_cons_self,heq ▸ hentry⟩
    -- to a class above, the walk came from this one or from another one above it
    rcases hjudges.entry x hx (by simp [heq, hold]) with ⟨y,hy,hynew⟩ | ⟨hparent,hfrom⟩
    · exact .inl ⟨y,hy,fun hmem => hynew (List.mem_cons_of_mem _ hmem)⟩
    · refine .inl ⟨id,hfrom.trans ?_,hnew⟩
      exact List.find?_cons_of_pos (isChild_iff.mpr ⟨node,hnode,hparent⟩)
  case found_iff =>
    have hsees := sees_leave_iff hw hnew hnode hvisits hjudges hacyclic
    have hdeclares : a.Declares id ↔ node.declares = true := by simp [Declares, hnode]
    simp only [List.mem_singleton, exists_eq_left]
    rw [Tells, (hjudged hid hnew id .refl).2, hsees, hdeclares, Walk.seen_leave]
    cases above <;> simp [hnew, hentry]

/-- A walk up a part of the ancestry without cycles judges all that it comes to. -/
theorem Visits.judges (h : a.Visits ids w found w') (hw : w.Proper) (hacyclic : a.Acyclic ids)
    (hopen : a.Open ids w) : a.Judges ids w found w' := by
  induction h with
  | nil w =>
    exact ⟨fun x hx hnew => absurd hx hnew,fun x hx hnew => absurd hx hnew,by simp⟩
  | @seen id ids w w' later hseen hlater ih =>
    have hhere : a.Judges [id] w (w.roots.contains id) w := judges_seen hseen
    have hgrows : w.Grows w := .refl hw.nodup_seen
    have hlaters := ih hw (fun i hi => hacyclic i (List.mem_cons_of_mem _ hi))
      (hhere.opens hgrows hopen)
    exact hhere.append hlaters hgrows (hlater.grows hw) (by simpa using hseen)
  | @unknown id ids w w' later hnew hnode hlater ih =>
    have hhere := judges_unknown hw hnew hnode
    have hgrows := hw.grows_enter hnew
    have hlaters := ih (hw.enter hnew) (fun i hi => hacyclic i (List.mem_cons_of_mem _ hi))
      (hhere.opens hgrows hopen)
    exact hhere.append hlaters hgrows (hlater.grows (hw.enter hnew)) (by simp)
  | @node id ids w w₁ w' above later node hnew hnode hvisits hlater ih ih' =>
    have hw₀ := hw.enter hnew
    have hacyclic₀ := hacyclic id List.mem_cons_self
    have hopen₀ : ∀ x ∈ w.seen, a.Judged w x ∨ Relation.TransGen a.Up x id := fun x hx =>
      (hopen x hx).imp_right fun hback => hback id List.mem_cons_self
    have habove := ih hw₀
      (fun p hp x hx => hacyclic₀ x (.head ⟨node,hnode,hp⟩ hx)) fun x hx => by
        rcases List.mem_cons.mp hx with rfl | hx
        · exact .inr fun p hp => .single ⟨node,hnode,hp⟩
        · exact (hopen₀ x hx).imp (fun hjudged => hjudged.grows (hw.grows_enter hnew))
            fun hback p hp => hback.tail ⟨node,hnode,hp⟩
    have hhere := judges_node hw hnew hnode hvisits habove hacyclic₀ hopen₀
    have hid : id ∈ w₁.seen := hvisits.seen_subset List.mem_cons_self
    have hgrows := ((hw.grows_enter hnew).trans (hvisits.grows hw₀)).leave hnew above node.declares
    have hw₂ := (hvisits.proper hw₀).leave hid (hvisits.not_mem_roots hw hnew) above node.declares
    have hlaters := ih' hw₂ (fun i hi => hacyclic i (List.mem_cons_of_mem _ hi))
      (hhere.opens hgrows hopen)
    exact hhere.append hlaters hgrows (hlater.grows hw₂) (by simpa using hid)

/-! ### The topmost classes -/

/-- A class at or above another one that declares the method while nothing above it does. -/
structure IsTopmost (a : Ancestry) (identifier x : String) : Prop where
  reach : Relation.ReflTransGen a.Up identifier x
  declares : a.Declares x
  top : ∀ y, Relation.TransGen a.Up x y → ¬a.Declares y

theorem IsTopmost.mem_roots {identifier x : String} (h : a.IsTopmost identifier x) :
    x ∈ a.roots identifier := by
  obtain ⟨r,hr,hreach⟩ := exists_root h.reach h.declares
  rcases Relation.reflTransGen_iff_eq_or_transGen.mp hreach with rfl | habove
  · exact hr
  · exact absurd (reflTransGen_of_mem_roots hr).2 (h.top r habove)

theorem judges_walk {identifier : String} (hacyclic : a.Acyclic [identifier]) :
    ∃ found, a.Judges [identifier] ⟨[],[]⟩ found (a.walk identifier) := by
  obtain ⟨found,h⟩ := a.visits_walk identifier
  exact ⟨found,h.judges ⟨List.nodup_nil,List.nodup_nil,List.Subset.refl _⟩ hacyclic (by simp [Open])⟩

/-- Without cycles, the roots are the classes that declare the method and learn of no root. -/
theorem mem_roots_iff_not_sees {identifier : String} (hacyclic : a.Acyclic [identifier]) {x : String} :
    x ∈ a.roots identifier ↔ Relation.ReflTransGen a.Up identifier x ∧ a.Declares x ∧
      ¬a.Sees (a.walk identifier).seen (· ∈ a.roots identifier) x := by
  obtain ⟨_,hjudges⟩ := judges_walk hacyclic
  constructor
  · intro hx
    have hreach := (reflTransGen_of_mem_roots hx).1
    exact ⟨hreach,(hjudges.judged x (mem_seen_walk_iff.mpr hreach) (by simp) x .refl).2.mp hx⟩
  · rintro ⟨hreach,hjudged⟩
    exact (hjudges.judged x (mem_seen_walk_iff.mpr hreach) (by simp) x .refl).2.mpr hjudged

/-- The roots of an ancestry without cycles are its topmost classes exactly if each other class that
declares the method learns of one of them. -/
theorem mem_roots_iff_isTopmost {identifier : String} (hacyclic : a.Acyclic [identifier]) :
    (∀ x, x ∈ a.roots identifier ↔ a.IsTopmost identifier x) ↔
      ∀ x, Relation.ReflTransGen a.Up identifier x → a.Declares x → ¬a.IsTopmost identifier x →
        a.Sees (a.walk identifier).seen (a.IsTopmost identifier) x := by
  constructor
  · intro hall x hreach hdeclares htop
    have hroot : x ∉ a.roots identifier := fun hmem => htop ((hall x).mp hmem)
    rw [mem_roots_iff_not_sees hacyclic] at hroot
    have hsees := not_not.mp fun hnot => hroot ⟨hreach,hdeclares,hnot⟩
    exact hsees.congr (fun _ _ => rfl) fun y _ => (hall y).mp
  · intro hall x
    refine ⟨fun hx => ?_,IsTopmost.mem_roots⟩
    obtain ⟨hreach,hdeclares,hnot⟩ := (mem_roots_iff_not_sees hacyclic).mp hx
    by_contra htop
    exact hnot ((hall x hreach hdeclares htop).congr (fun _ _ => rfl) fun y _ => IsTopmost.mem_roots)

end SmaliNavigator.Ancestry
