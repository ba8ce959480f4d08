import Mathlib.Data.List.Nodup
import Mathlib.Logic.Relation
import SmaliNavigator.Index.Hierarchy

/-!
Walks that go level by level and keep what is new. A walk comes to an end in time if between two of
its steps there is always one of finitely many things. What lies behind a level is known from two
sides, because a walk may take a step only where something else tells it to.
-/

set_option autoImplicit false

namespace SmaliNavigator

/-! ### New entries of a list -/

theorem addNew_cons_of_mem {known : List String} {x : String} (xs : List String) (h : x ∈ known) :
    addNew known (x :: xs) = addNew known xs := by
  simp [addNew, h]

theorem addNew_cons_of_not_mem {known : List String} {x : String} (xs : List String)
    (h : x ∉ known) : addNew known (x :: xs) =
      ((addNew (known ++ [x]) xs).1,x :: (addNew (known ++ [x]) xs).2) := by
  simp [addNew, h]

theorem mem_fst_addNew {known xs : List String} {x : String} :
    x ∈ (addNew known xs).1 ↔ x ∈ known ∨ x ∈ xs := by
  induction xs generalizing known with
  | nil => simp [addNew]
  | cons y ys ih =>
    by_cases hy : y ∈ known
    · rw [addNew_cons_of_mem ys hy, ih, List.mem_cons]
      grind
    · rw [addNew_cons_of_not_mem ys hy, ih]
      simp [or_assoc]

theorem mem_snd_addNew {known xs : List String} {x : String} :
    x ∈ (addNew known xs).2 ↔ x ∈ xs ∧ x ∉ known := by
  induction xs generalizing known with
  | nil => simp [addNew]
  | cons y ys ih =>
    by_cases hy : y ∈ known
    · rw [addNew_cons_of_mem ys hy, ih, List.mem_cons]
      grind
    · rw [addNew_cons_of_not_mem ys hy, List.mem_cons, ih, List.mem_append, List.mem_singleton,
        List.mem_cons]
      grind

theorem addNew_append (known xs ys : List String) :
    addNew known (xs ++ ys) = ((addNew (addNew known xs).1 ys).1,
      (addNew known xs).2 ++ (addNew (addNew known xs).1 ys).2) := by
  induction xs generalizing known with
  | nil => rfl
  | cons x xs ih =>
    rw [List.cons_append]
    by_cases hx : x ∈ known
    · rw [addNew_cons_of_mem _ hx, addNew_cons_of_mem _ hx, ih]
    · rw [addNew_cons_of_not_mem _ hx, addNew_cons_of_not_mem _ hx, ih]
      rfl

theorem fst_addNew_eq_append (known xs : List String) :
    (addNew known xs).1 = known ++ (addNew known xs).2 := by
  induction xs generalizing known with
  | nil => exact (List.append_nil known).symm
  | cons x xs ih =>
    by_cases hx : x ∈ known
    · rw [addNew_cons_of_mem _ hx]
      exact ih known
    · rw [addNew_cons_of_not_mem _ hx]
      exact (ih (known ++ [x])).trans (List.append_assoc known [x] _)

theorem prefix_fst_addNew (known xs : List String) : known <+: (addNew known xs).1 := by
  rw [fst_addNew_eq_append]
  exact List.prefix_append _ _

theorem fst_addNew_mono (known : List String) {xs ys : List String} (h : xs <+: ys) :
    (addNew known xs).1 <+: (addNew known ys).1 := by
  obtain ⟨zs,rfl⟩ := h
  rw [addNew_append]
  exact prefix_fst_addNew _ _

theorem length_filter_not_mem_lt {xs found found' : List String} (h : found ⊆ found') {x : String}
    (hx : x ∈ xs) (hold : x ∉ found) (hnew : x ∈ found') :
    (xs.filter (· ∉ found')).length < (xs.filter (· ∉ found)).length := by
  have hfewer : xs.filter (· ∉ found') = (xs.filter (· ∉ found)).filter (· ∉ found') := by
    rw [List.filter_filter]
    refine List.filter_congr fun y _ => ?_
    have hkept : y ∈ found → y ∈ found' := @h y
    grind
  rw [hfewer, List.length_filter_lt_length_iff_exists]
  exact ⟨x,List.mem_filter.mpr ⟨hx,by simpa using hold⟩,by simpa using hnew⟩

/-! ### Walks by levels -/

/-- What is found from a level on, if the level behind each level is `next` of it. -/
def widen (next : List String → List String) : (fuel : Nat) → (level found : List String) →
    List String
  | 0, _, found => found
  | _, [], found => found
  | fuel + 1, level, found =>
    widen next fuel (addNew found (next level)).2 (addNew found (next level)).1

namespace Widen

variable {next : List String → List String} {fuel : Nat} {level found : List String}

theorem widen_nil : widen next fuel [] found = found := by
  cases fuel <;> rfl

theorem widen_succ (hne : level ≠ []) : widen next (fuel + 1) level found =
    widen next fuel (addNew found (next level)).2 (addNew found (next level)).1 := by
  cases level with
  | nil => exact absurd rfl hne
  | cons x xs => rfl

theorem widen_of_next_eq_nil (h : next level = []) : widen next fuel level found = found := by
  cases fuel with
  | zero => rfl
  | succ fuel =>
    by_cases hne : level = []
    · rw [hne, widen_nil]
    · rw [widen_succ hne, h]
      exact widen_nil

theorem mem_widen_of_mem {x : String} (h : x ∈ found) : x ∈ widen next fuel level found := by
  induction fuel generalizing level found with
  | zero => exact h
  | succ fuel ih =>
    by_cases hne : level = []
    · rw [hne, widen_nil]
      exact h
    · rw [widen_succ hne]
      exact ih (mem_fst_addNew.mpr (.inl h))

/-- What holds of all that is found, where it holds of what is behind each level that comes up. -/
theorem forall_mem_widen {P : String → Prop} {Q : List String → Prop}
    (hstep : ∀ level, Q level → ∀ x ∈ next level, P x)
    (hfresh : ∀ level, (∀ x ∈ level, P x) → Q level)
    (hlevel : Q level) (hfound : ∀ x ∈ found, P x) : ∀ x ∈ widen next fuel level found, P x := by
  induction fuel generalizing level found with
  | zero => exact hfound
  | succ fuel ih =>
    by_cases hne : level = []
    · rw [hne, widen_nil]
      exact hfound
    · rw [widen_succ hne]
      refine ih (hfresh _ fun x hx => ?_) fun x hx => ?_
      · exact hstep level hlevel x (mem_snd_addNew.mp hx).1
      · exact (mem_fst_addNew.mp hx).elim (hfound x) (hstep level hlevel x)

/-- Behind a level there is nothing but what its steps lead to, and all that it tells of, in both
cases but for what is left out. -/
structure Leads (next : List String → List String) (steps tells : String → String → Prop)
    (out : String → Prop) : Prop where
  exists_step : ∀ level, ∀ x ∈ next level, ¬out x ∧ ∃ y ∈ level, steps y x
  mem : ∀ level, ∀ y ∈ level, ∀ x, tells y x → ¬out x → x ∈ next level

/-- From what is in a list or left out, nothing else is told of. What is told of from a level may. -/
def ClosedBut (tells : String → String → Prop) (out : String → Prop) (level found : List String) :
    Prop :=
  ∀ y x, out y ∨ y ∈ found → y ∉ level → tells y x → out x ∨ x ∈ found

section Leads

variable {steps tells : String → String → Prop} {out : String → Prop}
  (hleads : Leads next steps tells out)
include hleads

theorem sound_widen (origin : String) (hlevel : ∀ y ∈ level, Relation.ReflTransGen steps origin y)
    (hfound : ∀ x ∈ found, ¬out x ∧ Relation.ReflTransGen steps origin x) :
    ∀ x ∈ widen next fuel level found, ¬out x ∧ Relation.ReflTransGen steps origin x := by
  refine forall_mem_widen (Q := fun level => ∀ y ∈ level, Relation.ReflTransGen steps origin y)
    (fun level hlevel x hx => ?_) (fun level hall y hy => (hall y hy).2) hlevel hfound
  obtain ⟨hout,y,hy,hstep⟩ := hleads.exists_step level x hx
  exact ⟨hout,(hlevel y hy).tail hstep⟩

theorem ClosedBut.addNew (h : ClosedBut tells out level found) :
    ClosedBut tells out (SmaliNavigator.addNew found (next level)).2
      (SmaliNavigator.addNew found (next level)).1 := by
  intro y x hy hfresh htells
  rw [mem_fst_addNew]
  by_cases hlevel : y ∈ level
  · by_cases hx : out x
    · exact .inl hx
    · exact .inr (.inr (hleads.mem level y hlevel x htells hx))
  · have hold : out y ∨ y ∈ found := by
      rcases hy with hy | hy
      · exact .inl hy
      · refine (mem_fst_addNew.mp hy).elim .inr fun hmem => ?_
        by_cases hfound : y ∈ found
        · exact .inr hfound
        · exact absurd (mem_snd_addNew.mpr ⟨hmem,hfound⟩) hfresh
    exact (h y x hold hlevel htells).imp_right .inl

/-- Each level but the last one has something of a list that was not found before. -/
theorem closed_widen {between : List String}
    (hbetween : ∀ x y z, steps x y → steps y z → y ∈ between)
    (hfuel : (between.filter (· ∉ found)).length + 2 ≤ fuel)
    (h : ClosedBut tells out level found) :
    ClosedBut tells out [] (widen next fuel level found) := by
  induction fuel generalizing level found with
  | zero => omega
  | succ fuel ih =>
    by_cases hne : level = []
    · subst hne
      rw [widen_nil]
      exact h
    rw [widen_succ hne]
    have hstep := h.addNew hleads
    generalize hfound : (addNew found (next level)).1 = found' at hstep
    generalize hfresh : (addNew found (next level)).2 = fresh at hstep
    by_cases hnew : ∃ y ∈ fresh, y ∈ between
    · obtain ⟨y,hy,hmem⟩ := hnew
      obtain ⟨hynext,hyfound⟩ := mem_snd_addNew.mp (hfresh ▸ hy)
      refine ih ?_ hstep
      have hkept : found ⊆ found' := fun z hz => hfound ▸ mem_fst_addNew.mpr (.inl hz)
      have hlt := length_filter_not_mem_lt hkept hmem hyfound
        (hfound ▸ mem_fst_addNew.mpr (.inr hynext))
      omega
    · -- no step leads on from the new ones
      have hnone : next fresh = [] := by
        refine List.eq_nil_iff_forall_not_mem.mpr fun x hx => ?_
        obtain ⟨_,y,hy,hyx⟩ := hleads.exists_step fresh x hx
        obtain ⟨_,z,_,hzy⟩ := hleads.exists_step level y (mem_snd_addNew.mp (hfresh ▸ hy)).1
        exact hnew ⟨y,hy,hbetween z y x hzy hyx⟩
      rw [widen_of_next_eq_nil hnone]
      intro y x hy _ htells
      by_cases hyfresh : y ∈ fresh
      · by_cases hx : out x
        · exact .inl hx
        · have hmem := hleads.mem fresh y hyfresh x htells hx
          rw [hnone] at hmem
          cases hmem
      · exact hstep y x hy hyfresh htells

/-- A walk finds all that can be told of, one from the other, but for what is left out. -/
theorem mem_widen_of_reflTransGen {origin : String} {between : List String}
    (hbetween : ∀ x y z, steps x y → steps y z → y ∈ between)
    (hfuel : (between.filter (· ∉ found)).length + 2 ≤ fuel)
    (honly : ∀ y, out y ∨ y ∈ found → y = origin) (horigin : out origin ∨ origin ∈ found)
    {x : String} (hx : Relation.ReflTransGen tells origin x) (hout : ¬out x) :
    x ∈ widen next fuel [origin] found := by
  have hstart : ClosedBut tells out [origin] found := fun y x hy hlevel =>
    absurd (List.mem_singleton.mpr (honly y hy)) hlevel
  have hclosed := closed_widen hleads hbetween hfuel hstart
  have hall : out x ∨ x ∈ widen next fuel [origin] found := by
    clear hout
    induction hx with
    | refl => exact horigin.imp_right mem_widen_of_mem
    | tail _ htells ih => exact hclosed _ _ ih (by simp) htells
  exact hall.resolve_left hout

end Leads

/-- A walk that leaves its origin out finds what can be reached, but for the origin. -/
theorem mem_widen_iff {steps : String → String → Prop} {origin : String}
    (hnext : ∀ level x, x ∈ next level ↔ x ≠ origin ∧ ∃ y ∈ level, steps y x) {between : List String}
    (hbetween : ∀ x y z, steps x y → steps y z → y ∈ between)
    (hfuel : between.length + 2 ≤ fuel) (x : String) :
    x ∈ widen next fuel [origin] [] ↔ x ≠ origin ∧ Relation.TransGen steps origin x := by
  have hleads : Leads next steps steps (· = origin) :=
    ⟨fun level x hx => (hnext level x).mp hx,
      fun level y hy x hstep hx => (hnext level x).mpr ⟨hx,y,hy,hstep⟩⟩
  have hlength := List.length_filter_le (· ∉ ([] : List String)) between
  constructor
  · intro hx
    obtain ⟨hne,hreach⟩ := sound_widen hleads origin (by simp [Relation.ReflTransGen.refl])
      (by simp) x hx
    exact ⟨hne,(Relation.reflTransGen_iff_eq_or_transGen.mp hreach).resolve_left hne⟩
  · rintro ⟨hne,hreach⟩
    exact mem_widen_of_reflTransGen hleads hbetween (by omega) (by simp) (.inl rfl)
      hreach.to_reflTransGen hne

end Widen

end SmaliNavigator
