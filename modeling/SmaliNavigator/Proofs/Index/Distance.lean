import Mathlib.Order.Lattice.Nat
import SmaliNavigator.Proofs.Index.Hierarchy

/-!
How far above a class another one is: the least number of steps, each from a class to a parent that
one of its declarations names. A walk by levels has at each level what is that far from its origin,
and so it finds the nearest first.
-/

set_option autoImplicit false

namespace SmaliNavigator

namespace Widen

/-- What a number of steps leads to. -/
inductive ReachedIn (steps : String → String → Prop) (origin : String) : Nat → String → Prop
  | origin : ReachedIn steps origin 0 origin
  | step {n : Nat} {x y : String} : ReachedIn steps origin n x → steps x y →
      ReachedIn steps origin (n + 1) y

/-- The least number of steps that leads from one to the other, and 0 if none does. -/
noncomputable def distance (steps : String → String → Prop) (origin x : String) : Nat :=
  sInf {n | ReachedIn steps origin n x}

section Distance

variable {steps : String → String → Prop} {origin x y : String} {n : Nat}

theorem distance_le (h : ReachedIn steps origin n x) : distance steps origin x ≤ n :=
  Nat.sInf_le h

theorem reachedIn_distance (h : ReachedIn steps origin n x) :
    ReachedIn steps origin (distance steps origin x) x :=
  Nat.sInf_mem (s := {n | ReachedIn steps origin n x}) ⟨n,h⟩

theorem reachedIn_at_distance (h : ReachedIn steps origin (n + 1) y)
    (hfar : ∀ m ≤ n, ¬ReachedIn steps origin m y) :
    ∃ x, ReachedIn steps origin n x ∧ (∀ m < n, ¬ReachedIn steps origin m x) ∧ steps x y := by
  cases h with
  | step hx hstep =>
    exact ⟨_,hx,fun m hm hnear => hfar (m + 1) hm (hnear.step hstep),hstep⟩

end Distance

/-- After some levels of a walk that leaves its origin out: the level has all that is just as many
steps away, and what was found has all that is no further, the nearest first. -/
structure Layered (steps : String → String → Prop) (origin : String) (n : Nat)
    (level found : List String) : Prop where
  mem_level : ∀ x, x ∈ level ↔ ReachedIn steps origin n x ∧ ∀ m < n, ¬ReachedIn steps origin m x
  mem_found : ∀ x, x ∈ found ↔ x ≠ origin ∧ ∃ m ≤ n, ReachedIn steps origin m x
  sorted : found.Pairwise (distance steps origin · ≤ distance steps origin ·)

namespace Layered

variable {steps : String → String → Prop} {origin : String} {n : Nat} {level found : List String}

theorem start : Layered steps origin 0 [origin] [] where
  mem_level x := by
    rw [List.mem_singleton]
    constructor
    · rintro rfl
      exact ⟨.origin,by simp⟩
    · rintro ⟨h,-⟩
      cases h
      rfl
  mem_found x := by
    simp only [List.not_mem_nil, false_iff, not_and, not_exists, Nat.le_zero]
    rintro hne m rfl h
    cases h
    exact hne rfl
  sorted := .nil

section Step

variable (h : Layered steps origin n level found) {behind : List String}
  (hbehind : ∀ x, x ∈ behind ↔ x ≠ origin ∧ ∃ y ∈ level, steps y x)
include h hbehind

theorem mem_fresh (x : String) : x ∈ (addNew found behind).2 ↔
    ReachedIn steps origin (n + 1) x ∧ ∀ m < n + 1, ¬ReachedIn steps origin m x := by
  rw [mem_snd_addNew, hbehind, h.mem_found]
  constructor
  · rintro ⟨⟨hne,y,hy,hstep⟩,hnew⟩
    exact ⟨((h.mem_level y).mp hy).1.step hstep,
      fun m hm hnear => hnew ⟨hne,m,Nat.le_of_lt_succ hm,hnear⟩⟩
  · rintro ⟨hx,hfar⟩
    have hne : x ≠ origin := fun heq => hfar 0 (Nat.succ_pos n) (heq ▸ .origin)
    obtain ⟨y,hy,hyfar,hstep⟩ := reachedIn_at_distance hx fun m hm => hfar m (Nat.lt_succ_of_le hm)
    exact ⟨⟨hne,y,(h.mem_level y).mpr ⟨hy,hyfar⟩,hstep⟩,
      fun ⟨_,m,hm,hnear⟩ => hfar m (Nat.lt_succ_of_le hm) hnear⟩

theorem addNew : Layered steps origin (n + 1) (SmaliNavigator.addNew found behind).2
    (SmaliNavigator.addNew found behind).1 where
  mem_level := h.mem_fresh hbehind
  mem_found x := by
    rw [fst_addNew_eq_append, List.mem_append, h.mem_found, h.mem_fresh hbehind]
    constructor
    · rintro (⟨hne,m,hm,hx⟩ | ⟨hx,hfar⟩)
      · exact ⟨hne,m,Nat.le_succ_of_le hm,hx⟩
      · exact ⟨fun heq => hfar 0 (Nat.succ_pos n) (heq ▸ .origin),n + 1,Nat.le_refl _,hx⟩
    · rintro ⟨hne,m,hm,hx⟩
      by_cases hnear : ∃ m ≤ n, ReachedIn steps origin m x
      · exact .inl ⟨hne,hnear⟩
      · push Not at hnear
        obtain rfl : m = n + 1 := by
          by_contra hlt
          exact hnear m (by omega) hx
        exact .inr ⟨hx,fun m hm => hnear m (Nat.le_of_lt_succ hm)⟩
  sorted := by
    have hfar {x : String} (hx : x ∈ (SmaliNavigator.addNew found behind).2) :
        distance steps origin x = n + 1 := by
      obtain ⟨hx,hfar⟩ := (h.mem_fresh hbehind x).mp hx
      refine Nat.le_antisymm (distance_le hx) (Nat.le_of_not_lt fun hlt => ?_)
      exact hfar _ hlt (reachedIn_distance hx)
    rw [fst_addNew_eq_append, List.pairwise_append]
    refine ⟨h.sorted,List.pairwise_of_forall_mem_list fun x hx y hy => ?_,fun x hx y hy => ?_⟩
    · rw [hfar hx, hfar hy]
    · obtain ⟨_,m,hm,hxm⟩ := (h.mem_found x).mp hx
      have hle := distance_le hxm
      rw [hfar hy]
      omega

end Step

end Layered

/-- How many more levels a walk may need: none without a level, one where no step leads on, and else one
for each thing between two steps that was not found yet, and two. -/
def Enough (steps : String → String → Prop) (between : List String) (fuel : Nat)
    (level found : List String) : Prop :=
  level = [] ∨ (0 < fuel ∧ ∀ y ∈ level, ∀ z, ¬steps y z) ∨
    (between.filter (· ∉ found)).length + 2 ≤ fuel

theorem Enough.addNew {steps : String → String → Prop} {origin : String}
    {between level found behind : List String} {fuel : Nat}
    (hbetween : ∀ y z, steps y z → y ∈ between)
    (hbehind : ∀ x, x ∈ behind ↔ x ≠ origin ∧ ∃ y ∈ level, steps y x) (hne : level ≠ [])
    (h : Enough steps between (fuel + 1) level found) :
    Enough steps between fuel (SmaliNavigator.addNew found behind).2
      (SmaliNavigator.addNew found behind).1 := by
  rcases h with hnil | ⟨-,hnone⟩ | hfuel
  · exact absurd hnil hne
  · refine .inl (List.eq_nil_iff_forall_not_mem.mpr fun x hx => ?_)
    obtain ⟨-,y,hy,hstep⟩ := (hbehind x).mp (mem_snd_addNew.mp hx).1
    exact hnone y hy x hstep
  · by_cases hnew : ∃ y ∈ (SmaliNavigator.addNew found behind).2, y ∈ between
    · obtain ⟨y,hy,hmem⟩ := hnew
      obtain ⟨hybehind,hyfound⟩ := mem_snd_addNew.mp hy
      have hlt := length_filter_not_mem_lt
        (fun z hz => mem_fst_addNew.mpr (.inl hz) : found ⊆ (SmaliNavigator.addNew found behind).1)
        hmem hyfound (mem_fst_addNew.mpr (.inr hybehind))
      exact .inr (.inr (by omega))
    · exact .inr (.inl ⟨by omega,fun y hy z hstep => hnew ⟨y,hy,hbetween y z hstep⟩⟩)

end Widen

namespace Index

/-- How far above a class another one is. -/
noncomputable def distance (ix : Index) (identifier ancestor : String) : Nat :=
  Widen.distance ix.Extends identifier ancestor

end Index

end SmaliNavigator
