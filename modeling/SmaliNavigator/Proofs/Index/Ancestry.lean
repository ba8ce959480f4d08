import SmaliNavigator.Proofs.Index.Levels

/-!
The walk up an ancestry that collects the topmost classes that declare a method.

The walk is told as a relation, without the fuel that bounds it. Of any ancestry, even one with
cycles, it is known that it answers declaring classes only and that every declaring class is answered
or below one that is.
-/

set_option autoImplicit false

namespace SmaliNavigator.Ancestry

/-- A class of the ancestry has another one as a parent. -/
def Up (a : Ancestry) (child parent : String) : Prop :=
  ∃ node, a.find? child = some node ∧ parent ∈ node.parents

/-- A class of the ancestry declares the method. -/
def Declares (a : Ancestry) (identifier : String) : Prop :=
  ∃ node, a.find? identifier = some node ∧ node.declares = true

/-- A walk that leaves a class: the class is a root if it declares the method and nothing above does. -/
def Walk.leave (w : Walk) (identifier : String) (above declares : Bool) : Walk :=
  if !above && declares then { w with roots := w.roots ++ [identifier] } else w

@[simp] theorem Walk.seen_leave (w : Walk) (identifier : String) (above declares : Bool) :
    (w.leave identifier above declares).seen = w.seen := by
  unfold leave
  split <;> rfl

theorem Walk.mem_roots_leave {w : Walk} {identifier : String} {above declares : Bool} {r : String} :
    r ∈ (w.leave identifier above declares).roots ↔
      r ∈ w.roots ∨ r = identifier ∧ above = false ∧ declares = true := by
  unfold leave
  cases above <;> cases declares <;> simp

/-- What is seen is so once, and so is each root, which was seen. -/
structure Walk.Proper (w : Walk) : Prop where
  nodup_seen : w.seen.Nodup
  nodup_roots : w.roots.Nodup
  subset : w.roots ⊆ w.seen

theorem Walk.Proper.enter {w : Walk} (h : w.Proper) {identifier : String} (hnew : identifier ∉ w.seen) :
    Walk.Proper { w with seen := identifier :: w.seen } where
  nodup_seen := List.nodup_cons.mpr ⟨hnew,h.nodup_seen⟩
  nodup_roots := h.nodup_roots
  subset _ hr := List.mem_cons_of_mem _ (h.subset hr)

theorem Walk.Proper.leave {w : Walk} (h : w.Proper) {identifier : String} (hseen : identifier ∈ w.seen)
    (hnew : identifier ∉ w.roots) (above declares : Bool) :
    (w.leave identifier above declares).Proper where
  nodup_seen := by simpa using h.nodup_seen
  nodup_roots := by
    unfold Walk.leave
    split
    · simpa using (List.nodup_concat w.roots identifier).mpr ⟨hnew,h.nodup_roots⟩
    · exact h.nodup_roots
  subset r hr := by
    rw [Walk.seen_leave]
    rcases Walk.mem_roots_leave.mp hr with hr | ⟨rfl,_⟩
    · exact h.subset hr
    · exact hseen

/-- A walk that visits some classes, one after the other, and whether it comes by a root for one of
them. -/
inductive Visits (a : Ancestry) : List String → Walk → Bool → Walk → Prop
  | nil (w : Walk) : Visits a [] w false w
  | seen {id : String} {ids : List String} {w w' : Walk} {later : Bool} (hseen : id ∈ w.seen)
      (hlater : Visits a ids w later w') : Visits a (id :: ids) w (w.roots.contains id || later) w'
  | unknown {id : String} {ids : List String} {w w' : Walk} {later : Bool} (hnew : id ∉ w.seen)
      (hnode : a.find? id = none) (hlater : Visits a ids { w with seen := id :: w.seen } later w') :
      Visits a (id :: ids) w later w'
  | node {id : String} {ids : List String} {w w₁ w' : Walk} {above later : Bool} {node : Ancestor}
      (hnew : id ∉ w.seen) (hnode : a.find? id = some node)
      (habove : Visits a node.parents { w with seen := id :: w.seen } above w₁)
      (hlater : Visits a ids (w₁.leave id above node.declares) later w') :
      Visits a (id :: ids) w (above || node.declares || later) w'

/-- The classes of the ancestry that a walk has not come to. -/
def unseen (a : Ancestry) (seen : List String) : List String :=
  (a.map (·.identifier)).filter (· ∉ seen)

variable {a : Ancestry} {ids : List String} {w w' : Walk} {found : Bool}

namespace Visits

theorem append {ids' : List String} {w'' : Walk} {found' : Bool} (h : a.Visits ids w found w')
    (h' : a.Visits ids' w' found' w'') : a.Visits (ids ++ ids') w (found || found') w'' := by
  induction h with
  | nil => exact h'
  | seen hseen _ ih =>
    rw [Bool.or_assoc]
    exact .seen hseen (ih h')
  | unknown hnew hnode _ ih => exact .unknown hnew hnode (ih h')
  | node hnew hnode habove _ _ ih =>
    rw [Bool.or_assoc]
    exact .node hnew hnode habove (ih h')

/-- The classes that were seen are kept in the order in which the walk came to them, last first. -/
theorem exists_seen_eq (h : a.Visits ids w found w') : ∃ new, w'.seen = new ++ w.seen := by
  induction h with
  | nil => exact ⟨[],rfl⟩
  | seen _ _ ih => exact ih
  | @unknown id _ _ _ _ _ _ _ ih =>
    obtain ⟨new,hnew⟩ := ih
    exact ⟨new ++ [id],by rw [hnew]; simp⟩
  | @node id _ _ _ _ _ _ _ _ _ _ _ ih ih' =>
    obtain ⟨new,hnew⟩ := ih
    obtain ⟨new',hnew'⟩ := ih'
    exact ⟨new' ++ new ++ [id],by rw [hnew', Walk.seen_leave, hnew]; simp⟩

theorem seen_subset (h : a.Visits ids w found w') : w.seen ⊆ w'.seen := by
  obtain ⟨new,hnew⟩ := h.exists_seen_eq
  rw [hnew]
  exact List.subset_append_right _ _

theorem mem_seen (h : a.Visits ids w found w') {id : String} (hid : id ∈ ids) : id ∈ w'.seen := by
  induction h with
  | nil => cases hid
  | seen hseen hlater ih =>
    rcases List.mem_cons.mp hid with rfl | hid
    · exact hlater.seen_subset hseen
    · exact ih hid
  | unknown _ _ hlater ih =>
    rcases List.mem_cons.mp hid with rfl | hid
    · exact hlater.seen_subset List.mem_cons_self
    · exact ih hid
  | node _ _ habove hlater _ ih =>
    rcases List.mem_cons.mp hid with rfl | hid
    · exact hlater.seen_subset (by simpa using habove.seen_subset List.mem_cons_self)
    · exact ih hid

theorem roots_subset (h : a.Visits ids w found w') : w.roots ⊆ w'.roots := by
  induction h with
  | nil => exact List.Subset.refl _
  | seen _ _ ih => exact ih
  | unknown _ _ _ ih => exact ih
  | node _ _ _ _ ih ih' => exact fun r hr => ih' (Walk.mem_roots_leave.mpr (.inl (ih hr)))

/-- A root that was not there before is a class that the walk came to, and it declares the method. -/
theorem mem_roots_cases (h : a.Visits ids w found w') {r : String} (hr : r ∈ w'.roots) :
    r ∈ w.roots ∨ r ∉ w.seen ∧ r ∈ w'.seen ∧ a.Declares r := by
  induction h with
  | nil => exact .inl hr
  | seen _ _ ih => exact ih hr
  | unknown _ _ _ ih => exact (ih hr).imp_right (And.imp_left fun hnew hseen =>
      hnew (List.mem_cons_of_mem _ hseen))
  | @node id _ w _ _ _ _ node hnew hnode habove hlater ih ih' =>
    have hseen := habove.seen_subset
    rcases ih' hr with hr | ⟨hold,hin,hdeclares⟩
    · rcases Walk.mem_roots_leave.mp hr with hr | ⟨rfl,_,hdeclares⟩
      · refine (ih hr).imp_right fun ⟨hold,hin,hdeclares⟩ => ⟨fun hmem => ?_,?_,hdeclares⟩
        · exact hold (List.mem_cons_of_mem _ hmem)
        · exact hlater.seen_subset (by simpa using hin)
      · exact .inr ⟨hnew,hlater.seen_subset (by simpa using hseen List.mem_cons_self),node,hnode,hdeclares⟩
    · refine .inr ⟨fun hmem => hold ?_,hin,hdeclares⟩
      simpa using hseen (List.mem_cons_of_mem _ hmem)

theorem not_mem_roots {id : String} (hw : w.Proper) (hnew : id ∉ w.seen)
    (h : a.Visits ids { w with seen := id :: w.seen } found w') : id ∉ w'.roots := by
  intro hmem
  rcases h.mem_roots_cases hmem with hroot | ⟨hseen,_⟩
  · exact hnew (hw.subset hroot)
  · exact hseen List.mem_cons_self

theorem proper (h : a.Visits ids w found w') (hw : w.Proper) : w'.Proper := by
  induction h with
  | nil => exact hw
  | seen _ _ ih => exact ih hw
  | unknown hnew _ _ ih => exact ih (hw.enter hnew)
  | node hnew _ habove _ ih ih' =>
    exact ih' ((ih (hw.enter hnew)).leave (habove.seen_subset List.mem_cons_self)
      (habove.not_mem_roots hw hnew) _ _)

theorem mem_seen_of_up (h : a.Visits ids w found w') {x y : String} (hx : x ∈ w'.seen)
    (hnew : x ∉ w.seen) (hup : a.Up x y) : y ∈ w'.seen := by
  induction h with
  | nil => exact absurd hx hnew
  | seen _ _ ih => exact ih hx hnew
  | @unknown id _ _ _ _ _ hnode _ ih =>
    refine ih hx fun hmem => ?_
    rcases List.mem_cons.mp hmem with rfl | hmem
    · obtain ⟨node,hnode',_⟩ := hup
      simp [hnode] at hnode'
    · exact hnew hmem
  | @node id _ _ w₁ _ _ _ _ _ hnode habove hlater ih ih' =>
    have hkept := hlater.seen_subset
    rw [Walk.seen_leave] at hkept
    by_cases hearlier : x ∈ w₁.seen
    · refine hkept ?_
      by_cases hid : x = id
      · subst hid
        obtain ⟨node,hnode',hparent⟩ := hup
        obtain rfl := Option.some.inj (hnode.symm.trans hnode')
        exact habove.mem_seen hparent
      · exact ih hearlier (by simp [hid, hnew])
    · exact ih' hx (by simpa using hearlier)

/-- The walk comes to nothing but what is at or above the classes that it visits. -/
theorem reflTransGen_of_mem_seen (h : a.Visits ids w found w') {x : String} (hx : x ∈ w'.seen)
    (hnew : x ∉ w.seen) : ∃ id ∈ ids, Relation.ReflTransGen a.Up id x := by
  induction h with
  | nil => exact absurd hx hnew
  | seen _ _ ih => exact (ih hx hnew).imp fun _ => And.imp_left (List.mem_cons_of_mem _)
  | @unknown id _ _ _ _ _ _ _ ih =>
    by_cases hid : x = id
    · exact ⟨id,List.mem_cons_self,hid ▸ .refl⟩
    · exact (ih hx (by simp [hid, hnew])).imp fun _ => And.imp_left (List.mem_cons_of_mem _)
  | @node id _ _ w₁ _ _ _ node _ hnode _ _ ih ih' =>
    by_cases hearlier : x ∈ w₁.seen
    · refine ⟨id,List.mem_cons_self,?_⟩
      by_cases hid : x = id
      · exact hid ▸ .refl
      · obtain ⟨parent,hparent,hreach⟩ := ih hearlier (by simp [hid, hnew])
        exact .head ⟨node,hnode,hparent⟩ hreach
    · exact (ih' hx (by simpa using hearlier)).imp fun _ => And.imp_left (List.mem_cons_of_mem _)

/-- The walk says that it came by a root only if there is one at or above what it visits. -/
theorem exists_root_of_found (h : a.Visits ids w found w') (hfound : found = true) :
    ∃ id ∈ ids, ∃ r ∈ w'.roots, Relation.ReflTransGen a.Up id r := by
  induction h with
  | nil => cases hfound
  | @seen id _ w _ later _ hlater ih =>
    rcases Bool.or_eq_true_iff.mp hfound with hroot | hfound
    · exact ⟨id,List.mem_cons_self,id,hlater.roots_subset (by simpa using hroot),.refl⟩
    · exact (ih hfound).imp fun _ => And.imp_left (List.mem_cons_of_mem _)
  | unknown _ _ _ ih => exact (ih hfound).imp fun _ => And.imp_left (List.mem_cons_of_mem _)
  | @node id _ _ _ _ above _ node _ hnode _ hlater ih ih' =>
    rcases Bool.or_eq_true_iff.mp hfound with hhere | hfound
    · refine ⟨id,List.mem_cons_self,?_⟩
      cases above with
      | true =>
        obtain ⟨parent,hparent,r,hr,hreach⟩ := ih rfl
        exact ⟨r,hlater.roots_subset (Walk.mem_roots_leave.mpr (.inl hr)),
          .head ⟨node,hnode,hparent⟩ hreach⟩
      | false =>
        exact ⟨id,hlater.roots_subset (Walk.mem_roots_leave.mpr (.inr ⟨rfl,rfl,hhere⟩)),.refl⟩
    · exact (ih' hfound).imp fun _ => And.imp_left (List.mem_cons_of_mem _)

/-- At or above each class that declares the method and that the walk came to there is a root. -/
theorem exists_root_of_declares (h : a.Visits ids w found w') {x : String} (hx : x ∈ w'.seen)
    (hnew : x ∉ w.seen) (hdeclares : a.Declares x) :
    ∃ r ∈ w'.roots, Relation.ReflTransGen a.Up x r := by
  induction h with
  | nil => exact absurd hx hnew
  | seen _ _ ih => exact ih hx hnew
  | @unknown id _ _ _ _ _ hnode _ ih =>
    refine ih hx fun hmem => ?_
    rcases List.mem_cons.mp hmem with rfl | hmem
    · obtain ⟨node,hnode',_⟩ := hdeclares
      simp [hnode] at hnode'
    · exact hnew hmem
  | @node id _ _ w₁ _ above _ node _ hnode habove hlater ih ih' =>
    by_cases hearlier : x ∈ w₁.seen
    · by_cases hid : x = id
      · subst hid
        obtain ⟨node',hnode',hdeclares⟩ := hdeclares
        obtain rfl := Option.some.inj (hnode.symm.trans hnode')
        cases above with
        | true =>
          obtain ⟨parent,hparent,r,hr,hreach⟩ := habove.exists_root_of_found rfl
          exact ⟨r,hlater.roots_subset (Walk.mem_roots_leave.mpr (.inl hr)),
            .head ⟨node,hnode,hparent⟩ hreach⟩
        | false =>
          exact ⟨x,hlater.roots_subset (Walk.mem_roots_leave.mpr (.inr ⟨rfl,rfl,hdeclares⟩)),.refl⟩
      · obtain ⟨r,hr,hreach⟩ := ih hearlier (by simp [hid, hnew])
        exact ⟨r,hlater.roots_subset (Walk.mem_roots_leave.mpr (.inl hr)),hreach⟩
    · exact ih' hx (by simpa using hearlier)

end Visits

/-! ### The fuel -/

theorem mem_of_find? {id : String} {node : Ancestor} (h : a.find? id = some node) :
    node ∈ a ∧ node.identifier = id :=
  ⟨List.mem_of_find?_eq_some h,by simpa using List.find?_some h⟩

theorem length_unseen_le {seen seen' : List String} (h : seen ⊆ seen') :
    (a.unseen seen').length ≤ (a.unseen seen).length := by
  unfold unseen
  rw [← List.countP_eq_length_filter, ← List.countP_eq_length_filter]
  refine List.countP_mono_left fun x _ hx => ?_
  have hkept : x ∈ seen → x ∈ seen' := @h x
  grind

theorem length_unseen_cons_lt {seen : List String} {id : String} {node : Ancestor}
    (hnode : a.find? id = some node) (hnew : id ∉ seen) :
    (a.unseen (id :: seen)).length < (a.unseen seen).length := by
  obtain ⟨hmem,rfl⟩ := mem_of_find? hnode
  exact length_filter_not_mem_lt (List.subset_cons_self _ _) (List.mem_map_of_mem hmem) hnew
    List.mem_cons_self

theorem visits_foldl {fuel : Nat}
    (hone : ∀ id w, (a.unseen w.seen).length < fuel →
      a.Visits [id] w (a.collect fuel id w).1 (a.collect fuel id w).2) (ids : List String) (w : Walk)
    (before : Bool) (hfuel : (a.unseen w.seen).length < fuel) :
    ∃ above w', ids.foldl (fun (x : Bool × Walk) parent =>
        (x.1 || (a.collect fuel parent x.2).1,(a.collect fuel parent x.2).2)) (before,w) =
          (before || above,w') ∧ a.Visits ids w above w' := by
  induction ids generalizing w before with
  | nil => exact ⟨false,w,by simp,.nil w⟩
  | cons id ids ih =>
    have hhere := hone id w hfuel
    obtain ⟨above,w',hfold,hlater⟩ := ih (a.collect fuel id w).2 (before || (a.collect fuel id w).1)
      (Nat.lt_of_le_of_lt (length_unseen_le hhere.seen_subset) hfuel)
    exact ⟨_,w',by rw [List.foldl_cons, hfold, Bool.or_assoc],hhere.append hlater⟩

/-- Each class that a walk goes up from was not seen before, so that the fuel does not run out. -/
theorem visits_collect (fuel : Nat) (id : String) (w : Walk)
    (hfuel : (a.unseen w.seen).length < fuel) :
    a.Visits [id] w (a.collect fuel id w).1 (a.collect fuel id w).2 := by
  induction fuel generalizing id w with
  | zero => omega
  | succ fuel ih =>
    rw [collect]
    by_cases hseen : id ∈ w.seen
    · rw [if_pos (by simpa using hseen)]
      simpa using Visits.seen hseen (.nil w)
    rw [if_neg (by simpa using hseen)]
    cases hnode : a.find? id with
    | none => exact .unknown hseen hnode (.nil _)
    | some node =>
      have hless := length_unseen_cons_lt hnode hseen
      obtain ⟨above,w₁,hfold,habove⟩ := visits_foldl ih node.parents { w with seen := id :: w.seen }
        false (by dsimp only; omega)
      have hvisits := Visits.node hseen hnode habove (.nil _)
      rw [Bool.false_or] at hfold
      dsimp only
      rw [hfold]
      cases above <;> cases hdeclares : node.declares <;>
        simpa [Walk.leave, hdeclares] using hvisits

/-! ### The roots -/

/-- The walk up from a class. -/
def walk (a : Ancestry) (identifier : String) : Walk :=
  (a.collect (a.length + 2) identifier ⟨[],[]⟩).2

theorem visits_walk (a : Ancestry) (identifier : String) :
    ∃ found, a.Visits [identifier] ⟨[],[]⟩ found (a.walk identifier) := by
  refine ⟨_,visits_collect _ identifier ⟨[],[]⟩ ?_⟩
  have hlength : (a.unseen []).length ≤ (a.map (·.identifier)).length := List.length_filter_le _ _
  rw [List.length_map] at hlength
  dsimp only
  omega

theorem proper_walk (a : Ancestry) (identifier : String) : (a.walk identifier).Proper := by
  obtain ⟨_,h⟩ := a.visits_walk identifier
  exact h.proper ⟨List.nodup_nil,List.nodup_nil,List.Subset.refl _⟩

theorem mem_seen_walk_iff {identifier x : String} :
    x ∈ (a.walk identifier).seen ↔ Relation.ReflTransGen a.Up identifier x := by
  obtain ⟨_,h⟩ := a.visits_walk identifier
  constructor
  · intro hx
    obtain ⟨id,hid,hreach⟩ := h.reflTransGen_of_mem_seen hx (by simp)
    exact List.mem_singleton.mp hid ▸ hreach
  · intro hreach
    induction hreach with
    | refl => exact h.mem_seen List.mem_cons_self
    | tail _ hup ih => exact h.mem_seen_of_up ih (by simp) hup

theorem nodup_roots (a : Ancestry) (identifier : String) : (a.roots identifier).Nodup :=
  (a.proper_walk identifier).nodup_roots

theorem reflTransGen_of_mem_roots {identifier r : String} (hr : r ∈ a.roots identifier) :
    Relation.ReflTransGen a.Up identifier r ∧ a.Declares r := by
  obtain ⟨_,h⟩ := a.visits_walk identifier
  rcases h.mem_roots_cases hr with hr | ⟨_,hseen,hdeclares⟩
  · cases hr
  · exact ⟨mem_seen_walk_iff.mp hseen,hdeclares⟩

theorem exists_root {identifier x : String} (hx : Relation.ReflTransGen a.Up identifier x)
    (hdeclares : a.Declares x) : ∃ r ∈ a.roots identifier, Relation.ReflTransGen a.Up x r := by
  obtain ⟨_,h⟩ := a.visits_walk identifier
  exact h.exists_root_of_declares (mem_seen_walk_iff.mpr hx) (by simp) hdeclares

end SmaliNavigator.Ancestry
