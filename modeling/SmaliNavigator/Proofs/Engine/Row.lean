import SmaliNavigator.Engine.Crew
import SmaliNavigator.Proofs.PathMap

/-!
The workers that a file had and has, in a row.

Each of them waits for the end of the one before it, or found that all before it had ended, so only
the first that has not ended can have begun, and the dispatcher gives jobs only to the last. What they
have not begun is, in the order of the row, what the file still waits for.
-/

set_option autoImplicit false

namespace SmaliNavigator

/-- The worker with a number is one of the file. -/
def IsOf (file : Path) (ws : List Worker) (n : Nat) (w : Worker) : Prop :=
  ws[n]? = some w ∧ w.file.same file = true

/-- All workers of the file before a number have ended. -/
def EarlierEnded (file : Path) (ws : List Worker) (n : Nat) : Prop :=
  ∀ i < n, ∀ v, IsOf file ws i v → v.hasEnded = true

/-- Who waits for this worker waits for all workers of the file before a number, and who waits for
none need not wait. -/
structure Awaits (file : Path) (ws : List Worker) (n : Nat) (awaited? : Option Nat) : Prop where
  isOf : ∀ p, awaited? = some p → p < n ∧ ∃ u, IsOf file ws p u
  covers : ∀ i < n, ∀ v, IsOf file ws i v → v.hasEnded = true ∨ ∃ p, awaited? = some p ∧ i ≤ p

/-- How the workers of a file stand to each other, with the one that it has and the one that retires. -/
structure Row (file : Path) (ws : List Worker) (active? retired? : Option Nat) : Prop where
  waits : ∀ n w, IsOf file ws n w → Awaits file ws n w.waitsFor?
  ended : ∀ n w, IsOf file ws n w → w.hasEnded = true →
    EarlierEnded file ws n ∧ w.queue = [] ∧ w.task? = none ∧ w.isOpen = false
  working : ∀ n w, IsOf file ws n w → w.task?.isSome = true → EarlierEnded file ws n
  isOpen : ∀ n w, IsOf file ws n w → w.isOpen = true → active? = some n
  active : ∀ n, active? = some n → (∃ w, IsOf file ws n w ∧ w.isOpen = true) ∧
    ∀ i v, IsOf file ws i v → i ≤ n
  retired : active? = none → Awaits file ws ws.length retired?

/-- The jobs that the workers of a file have not begun, those of earlier workers first. -/
def queued (file : Path) (ws : List Worker) : List Job :=
  ws.flatMap fun w => if w.file.same file then w.queue else []

/-- The jobs that the workers of a file have begun and not finished. -/
def inHand (file : Path) (ws : List Worker) : List Job :=
  ws.flatMap fun w => if w.file.same file then (w.task?.map Task.job).toList else []

section Lists

variable {file : Path} {ws : List Worker} {n : Nat} {w : Worker}

theorem IsOf.lt (h : IsOf file ws n w) : n < ws.length := (List.getElem?_eq_some_iff.mp h.1).1

theorem IsOf.mem (h : IsOf file ws n w) : w ∈ ws := List.mem_of_getElem? h.1

theorem IsOf.unique {v : Worker} (h : IsOf file ws n w) (h' : IsOf file ws n v) : w = v :=
  Option.some.inj (h.1.symm.trans h'.1)

theorem isOf_set {w' v : Worker} (hn : ws[n]? = some w) (hfile : w'.file = w.file) (i : Nat) :
    IsOf file (ws.set n w') i v ↔
      if i = n then v = w' ∧ w.file.same file = true else IsOf file ws i v := by
  have hlt := (List.getElem?_eq_some_iff.mp hn).1
  unfold IsOf
  rw [List.getElem?_set]
  by_cases hi : i = n
  · subst hi
    simp only [if_true, hlt, Option.some.injEq]
    constructor
    · rintro ⟨rfl,hsame⟩
      exact ⟨rfl,hfile ▸ hsame⟩
    · rintro ⟨rfl,hsame⟩
      exact ⟨rfl,hfile ▸ hsame⟩
  · rw [if_neg (fun h => hi h.symm), if_neg hi]

theorem IsOf.of_set {w' v : Worker} {i : Nat} (h : IsOf file (ws.set n w') i v) (hn : ws[n]? = some w)
    (hfile : w'.file = w.file) :
    i < ws.length ∧ (i ≠ n ∧ IsOf file ws i v ∨ i = n ∧ v = w' ∧ IsOf file ws n w) := by
  have hlt := h.lt
  rw [List.length_set] at hlt
  have hv := (isOf_set hn hfile i).mp h
  split at hv
  · next hi => exact ⟨hlt,.inr ⟨hi,hv.1,hn,hv.2⟩⟩
  · next hi => exact ⟨hlt,.inl ⟨hi,hv⟩⟩

theorem isOf_append {v : Worker} (i : Nat) : IsOf file (ws ++ [w]) i v ↔
    IsOf file ws i v ∨ i = ws.length ∧ v = w ∧ w.file.same file = true := by
  unfold IsOf
  by_cases hi : i < ws.length
  · rw [List.getElem?_append_left hi]
    constructor
    · exact Or.inl
    · rintro (h | ⟨rfl,_⟩)
      · exact h
      · omega
  · rw [List.getElem?_append_right (by omega)]
    have hnone : ws[i]? = none := List.getElem?_eq_none (by omega)
    rw [hnone]
    by_cases he : i = ws.length
    · subst he
      simp only [Nat.sub_self, List.getElem?_cons_zero, Option.some.injEq, true_and]
      constructor
      · rintro ⟨rfl,hsame⟩
        exact .inr ⟨rfl,hsame⟩
      · rintro (⟨h,_⟩ | ⟨rfl,hsame⟩)
        · cases h
        · exact ⟨rfl,hsame⟩
    · have hnone' : ([w] : List Worker)[i - ws.length]? = none :=
        List.getElem?_eq_none (by simp; omega)
      rw [hnone']
      simp [he]

theorem queued_append (vs : List Worker) : queued file (ws ++ vs) = queued file ws ++ queued file vs :=
  List.flatMap_append

theorem inHand_append (vs : List Worker) : inHand file (ws ++ vs) = inHand file ws ++ inHand file vs :=
  List.flatMap_append

theorem exists_split (h : ws[n]? = some w) : ∃ pre post, ws = pre ++ w :: post ∧
    (∀ v, ws.set n v = pre ++ v :: post) ∧
    (∀ v ∈ pre, ∃ i < n, ws[i]? = some v) ∧ ∀ v ∈ post, ∃ i > n, ws[i]? = some v := by
  obtain ⟨hlt,rfl⟩ := List.getElem?_eq_some_iff.mp h
  refine ⟨ws.take n,ws.drop (n + 1),?_,fun v => ?_,fun v hv => ?_,fun v hv => ?_⟩
  · rw [List.getElem_cons_drop, List.take_append_drop]
  · rw [List.set_eq_take_append_cons_drop, if_pos hlt]
  · obtain ⟨i,hi⟩ := List.mem_iff_getElem?.mp hv
    have hin : i < n := by
      have := (List.getElem?_eq_some_iff.mp hi).1
      rw [List.length_take] at this
      omega
    exact ⟨i,hin,by rwa [List.getElem?_take_of_lt hin] at hi⟩
  · obtain ⟨i,hi⟩ := List.mem_iff_getElem?.mp hv
    exact ⟨n + 1 + i,by omega,by rwa [List.getElem?_drop] at hi⟩

theorem queued_eq_nil {vs : List Worker} (h : ∀ v ∈ vs, v.file.same file = true → v.queue = []) :
    queued file vs = [] := by
  refine List.flatMap_eq_nil_iff.mpr fun v hv => ?_
  split
  · next hsame => exact h v hv hsame
  · rfl

theorem inHand_eq_nil {vs : List Worker} (h : ∀ v ∈ vs, v.file.same file = true → v.task? = none) :
    inHand file vs = [] := by
  refine List.flatMap_eq_nil_iff.mpr fun v hv => ?_
  split
  · next hsame => simp [h v hv hsame]
  · rfl

theorem queued_set {w' : Worker} (hn : ws[n]? = some w) (hfile : w'.file = w.file)
    (hqueue : w.file.same file = true → w'.queue = w.queue) :
    queued file (ws.set n w') = queued file ws := by
  obtain ⟨pre,post,hws,hset,-⟩ := exists_split hn
  rw [hset, hws, queued_append, queued_append]
  simp only [queued, List.flatMap_cons, hfile]
  cases hsame : w.file.same file with
  | false => rfl
  | true => rw [hqueue hsame]

theorem inHand_set {w' : Worker} (hn : ws[n]? = some w) (hfile : w'.file = w.file)
    (htask : w.file.same file = true → w'.task?.map Task.job = w.task?.map Task.job) :
    inHand file (ws.set n w') = inHand file ws := by
  obtain ⟨pre,post,hws,hset,-⟩ := exists_split hn
  rw [hset, hws, inHand_append, inHand_append]
  simp only [inHand, List.flatMap_cons, hfile]
  cases hsame : w.file.same file with
  | false => rfl
  | true => rw [htask hsame]

end Lists

/-- Of the workers up to a length, each is one of the file as before, and none works again. -/
structure Later (file : Path) (ws ws' : List Worker) : Prop where
  back : ∀ i < ws.length, ∀ v', IsOf file ws' i v' →
    ∃ v, IsOf file ws i v ∧ (v.hasEnded = true → v'.hasEnded = true)
  forth : ∀ i v, IsOf file ws i v → ∃ v', IsOf file ws' i v'

section Later

variable {file : Path} {ws ws' : List Worker} {n : Nat}

theorem EarlierEnded.later (h : EarlierEnded file ws n) (hl : Later file ws ws') (hn : n ≤ ws.length) :
    EarlierEnded file ws' n := by
  intro i hi v' hv'
  obtain ⟨v,hv,hended⟩ := hl.back i (Nat.lt_of_lt_of_le hi hn) v' hv'
  exact hended (h i hi v hv)

theorem Awaits.later {p? : Option Nat} (h : Awaits file ws n p?) (hl : Later file ws ws')
    (hn : n ≤ ws.length) : Awaits file ws' n p? where
  isOf p hp := by
    obtain ⟨hlt,u,hu⟩ := h.isOf p hp
    exact ⟨hlt,hl.forth p u hu⟩
  covers i hi v' hv' := by
    obtain ⟨v,hv,hended⟩ := hl.back i (Nat.lt_of_lt_of_le hi hn) v' hv'
    exact (h.covers i hi v hv).imp_left hended

theorem Later.set {w w' : Worker} (hn : ws[n]? = some w) (hfile : w'.file = w.file)
    (hended : w.file.same file = true → w.hasEnded = true → w'.hasEnded = true) :
    Later file ws (ws.set n w') where
  back i _ v' hv' := by
    have hv := (isOf_set hn hfile i).mp hv'
    by_cases hi : i = n
    · rw [if_pos hi] at hv
      obtain ⟨rfl,hsame⟩ := hv
      subst hi
      exact ⟨w,⟨hn,hsame⟩,hended hsame⟩
    · rw [if_neg hi] at hv
      exact ⟨v',hv,id⟩
  forth i v hv := by
    by_cases hi : i = n
    · subst hi
      obtain rfl : v = w := Option.some.inj (hv.1.symm.trans hn)
      exact ⟨w',(isOf_set hn hfile i).mpr (by rw [if_pos rfl]; exact ⟨rfl,hv.2⟩)⟩
    · exact ⟨v,(isOf_set hn hfile i).mpr (by rw [if_neg hi]; exact hv)⟩

theorem Later.append (w : Worker) : Later file ws (ws ++ [w]) where
  back i hi v' hv' := by
    rcases (isOf_append i).mp hv' with hv | ⟨rfl,_⟩
    · exact ⟨v',hv,id⟩
    · exact absurd hi (Nat.lt_irrefl _)
  forth i v hv := ⟨v,(isOf_append i).mpr (.inl hv)⟩

end Later

/-- What a worker of a file may become as long as the dispatcher has nothing to do with it. -/
structure Advances (file : Path) (ws : List Worker) (n : Nat) (w w' : Worker) : Prop where
  waitsFor : w'.waitsFor? = w.waitsFor?
  isOpen : w'.isOpen = w.isOpen
  hasEnded : w.hasEnded = true → w'.hasEnded = true
  ended : w'.hasEnded = true → EarlierEnded file ws n ∧ w'.queue = [] ∧ w'.task? = none ∧ w'.isOpen = false
  working : w'.task?.isSome = true → EarlierEnded file ws n

namespace Row

variable {file : Path} {ws : List Worker} {active? retired? : Option Nat} {n : Nat} {w w' : Worker}

theorem nil (file : Path) : Row file [] none none where
  waits n w h := absurd h.lt (Nat.not_lt_zero n)
  ended n w h := absurd h.lt (Nat.not_lt_zero n)
  working n w h := absurd h.lt (Nat.not_lt_zero n)
  isOpen n w h := absurd h.lt (Nat.not_lt_zero n)
  active _ h := by cases h
  retired _ := ⟨fun _ h => (by cases h),fun i hi => absurd hi (Nat.not_lt_zero i)⟩

/-- Who waits for a worker that has ended comes behind workers that all have ended. -/
theorem earlierEnded (h : Row file ws active? retired?) {p? : Option Nat} (hawaits : Awaits file ws n p?)
    (hfree : ∀ p u, p? = some p → IsOf file ws p u → u.hasEnded = true) : EarlierEnded file ws n := by
  intro i hi v hv
  rcases hawaits.covers i hi v hv with hended | ⟨p,hp,hle⟩
  · exact hended
  · obtain ⟨-,u,hu⟩ := hawaits.isOf p hp
    have hended := hfree p u hp hu
    rcases Nat.lt_or_eq_of_le hle with hlt | rfl
    · exact (h.ended p u hu hended).1 i hlt v hv
    · exact (hu.unique hv) ▸ hended

theorem hasEnded_of_busy (h : Row file ws active? retired?) (hw : IsOf file ws n w)
    (hbusy : w.queue ≠ [] ∨ w.task? ≠ none) : w.hasEnded = false := by
  by_contra hended
  obtain ⟨-,hqueue,htask,-⟩ := h.ended n w hw (by simpa using hended)
  exact hbusy.elim (· hqueue) (· htask)

theorem set (h : Row file ws active? retired?) (hn : ws[n]? = some w) (hfile : w'.file = w.file)
    (hw : w.file.same file = true → Advances file ws n w w') :
    Row file (ws.set n w') active? retired? := by
  have hlater : Later file ws (ws.set n w') := .set hn hfile fun hsame => (hw hsame).hasEnded
  have hpos (i : Nat) (v : Worker) (hv : IsOf file (ws.set n w') i v) :
      i ≤ ws.length ∧ (IsOf file ws i v ∨ i = n ∧ v = w' ∧ IsOf file ws n w) := by
    obtain ⟨hlt,⟨-,hold⟩ | hnew⟩ := hv.of_set hn hfile
    · exact ⟨Nat.le_of_lt hlt,.inl hold⟩
    · exact ⟨Nat.le_of_lt hlt,.inr hnew⟩
  constructor
  case waits =>
    intro i v hnew
    obtain ⟨hle,hv | ⟨rfl,rfl,hv⟩⟩ := hpos i v hnew
    · exact (h.waits i v hv).later hlater hle
    · rw [(hw hv.2).waitsFor]
      exact (h.waits i w hv).later hlater hle
  case ended =>
    intro i v hnew hended
    obtain ⟨hle,hv | ⟨rfl,rfl,hv⟩⟩ := hpos i v hnew
    · obtain ⟨hearlier,hidle⟩ := h.ended i v hv hended
      exact ⟨hearlier.later hlater hle,hidle⟩
    · obtain ⟨hearlier,hidle⟩ := (hw hv.2).ended hended
      exact ⟨hearlier.later hlater hle,hidle⟩
  case working =>
    intro i v hnew hworking
    obtain ⟨hle,hv | ⟨rfl,rfl,hv⟩⟩ := hpos i v hnew
    · exact (h.working i v hv hworking).later hlater hle
    · exact ((hw hv.2).working hworking).later hlater hle
  case isOpen =>
    intro i v hnew hopen
    obtain ⟨-,hv | ⟨rfl,rfl,hv⟩⟩ := hpos i v hnew
    · exact h.isOpen i v hv hopen
    · exact h.isOpen i w hv ((hw hv.2).isOpen ▸ hopen)
  case active =>
    intro a ha
    obtain ⟨⟨u,hu,hopen⟩,hlast⟩ := h.active a ha
    refine ⟨?_,fun i v hnew => ?_⟩
    · by_cases ha : a = n
      · subst ha
        obtain rfl : u = w := Option.some.inj (hu.1.symm.trans hn)
        exact ⟨w',(isOf_set hn hfile a).mpr (by rw [if_pos rfl]; exact ⟨rfl,hu.2⟩),
          by rw [(hw hu.2).isOpen, hopen]⟩
      · exact ⟨u,(isOf_set hn hfile a).mpr (by rw [if_neg ha]; exact hu),hopen⟩
    · obtain ⟨-,hv | ⟨rfl,-,hv⟩⟩ := hpos i v hnew
      · exact hlast i v hv
      · exact hlast i w hv
  case retired =>
    intro hnone
    rw [List.length_set]
    exact (h.retired hnone).later hlater (Nat.le_refl _)

theorem append (h : Row file ws none retired?) (g : Path) (hg : g.same file = true) :
    Row file (ws ++ [⟨g,[],none,true,false,retired?⟩]) (some ws.length) none := by
  have hlater (w : Worker) : Later file ws (ws ++ [w]) := .append w
  constructor
  case waits =>
    intro i v hv
    rcases (isOf_append i).mp hv with hv | ⟨rfl,rfl,-⟩
    · exact (h.waits i v hv).later (hlater _) (Nat.le_of_lt hv.lt)
    · exact (h.retired rfl).later (hlater _) (Nat.le_refl _)
  case ended =>
    intro i v hv hended
    rcases (isOf_append i).mp hv with hv | ⟨rfl,rfl,-⟩
    · obtain ⟨hearlier,hidle⟩ := h.ended i v hv hended
      exact ⟨hearlier.later (hlater _) (Nat.le_of_lt hv.lt),hidle⟩
    · cases hended
  case working =>
    intro i v hv hworking
    rcases (isOf_append i).mp hv with hv | ⟨rfl,rfl,-⟩
    · exact (h.working i v hv hworking).later (hlater _) (Nat.le_of_lt hv.lt)
    · cases hworking
  case isOpen =>
    intro i v hv hopen
    rcases (isOf_append i).mp hv with hv | ⟨rfl,-⟩
    · cases h.isOpen i v hv hopen
    · rfl
  case active =>
    intro a ha
    obtain rfl := Option.some.inj ha
    refine ⟨⟨_,(isOf_append _).mpr (.inr ⟨rfl,rfl,hg⟩),rfl⟩,fun i v hv => ?_⟩
    rcases (isOf_append i).mp hv with hv | ⟨rfl,-⟩
    · exact Nat.le_of_lt hv.lt
    · exact Nat.le_refl _
  case retired => exact fun h => by cases h

theorem append_other (h : Row file ws active? retired?) (hw : w.file.same file = false) :
    Row file (ws ++ [w]) active? retired? := by
  have hlater : Later file ws (ws ++ [w]) := .append w
  have hold {i : Nat} {v : Worker} (hv : IsOf file (ws ++ [w]) i v) : IsOf file ws i v := by
    rcases (isOf_append i).mp hv with hv | ⟨-,-,hsame⟩
    · exact hv
    · rw [hw] at hsame
      cases hsame
  constructor
  case waits => exact fun i v hv => (h.waits i v (hold hv)).later hlater (Nat.le_of_lt (hold hv).lt)
  case ended =>
    intro i v hv hended
    obtain ⟨hearlier,hidle⟩ := h.ended i v (hold hv) hended
    exact ⟨hearlier.later hlater (Nat.le_of_lt (hold hv).lt),hidle⟩
  case working =>
    exact fun i v hv hworking =>
      (h.working i v (hold hv) hworking).later hlater (Nat.le_of_lt (hold hv).lt)
  case isOpen => exact fun i v hv => h.isOpen i v (hold hv)
  case active =>
    intro a ha
    obtain ⟨⟨u,hu,hopen⟩,hlast⟩ := h.active a ha
    exact ⟨⟨u,(isOf_append a).mpr (.inl hu),hopen⟩,fun i v hv => hlast i v (hold hv)⟩
  case retired =>
    intro hnone
    have hawaits := h.retired hnone
    refine ⟨fun p hp => ?_,fun i _ v hv => ?_⟩
    · obtain ⟨hlt,u,hu⟩ := hawaits.isOf p hp
      exact ⟨by simp; omega,u,(isOf_append p).mpr (.inl hu)⟩
    · exact hawaits.covers i (hold hv).lt v (hold hv)

theorem give (h : Row file ws (some n) retired?) (hw : IsOf file ws n w) (hopen : w.isOpen = true)
    (js : List Job) : Row file (ws.set n { w with queue := js, isOpen := true }) (some n) retired? := by
  refine h.set hw.1 rfl fun _ => ⟨rfl,hopen.symm,id,fun hended => ?_,h.working n w hw⟩
  have hshut := (h.ended n w hw hended).2.2.2
  rw [hopen] at hshut
  cases hshut

theorem retire (h : Row file ws (some n) retired?) (hw : IsOf file ws n w) (js : List Job) :
    Row file (ws.set n { w with queue := js, isOpen := false }) none (some n) := by
  have hlater : Later file ws (ws.set n { w with queue := js, isOpen := false }) :=
    .set hw.1 rfl fun _ => id
  have hpos (i : Nat) (v : Worker)
      (hnew : IsOf file (ws.set n { w with queue := js, isOpen := false }) i v) :
      i ≤ ws.length ∧ ∃ u, IsOf file ws i u ∧ v.waitsFor? = u.waitsFor? ∧ v.hasEnded = u.hasEnded ∧
        v.task? = u.task? ∧ v.isOpen = false ∧ (v.queue = u.queue ∨ u.isOpen = true) := by
    obtain ⟨hlt,⟨hi,hv⟩ | ⟨rfl,rfl,-⟩⟩ := hnew.of_set hw.1 (by rfl)
    · have hclosed : v.isOpen = false := by
        by_contra hopen
        exact hi (Option.some.inj (h.isOpen i v hv (by simpa using hopen))).symm
      exact ⟨Nat.le_of_lt hlt,v,hv,rfl,rfl,rfl,hclosed,.inl rfl⟩
    · obtain ⟨u,hu,hopen⟩ := (h.active i rfl).1
      exact ⟨Nat.le_of_lt hlt,w,hw,rfl,rfl,rfl,rfl,.inr (hu.unique hw ▸ hopen)⟩
  constructor
  case waits =>
    intro i v hnew
    obtain ⟨hle,u,hu,hwaits,-⟩ := hpos i v hnew
    exact hwaits ▸ (h.waits i u hu).later hlater hle
  case ended =>
    intro i v hnew hended
    obtain ⟨hle,u,hu,-,hsame,htask,hclosed,hqueue⟩ := hpos i v hnew
    obtain ⟨hearlier,hnil,hnone,hshut⟩ := h.ended i u hu (hsame ▸ hended)
    refine ⟨hearlier.later hlater hle,?_,htask.trans hnone,hclosed⟩
    rcases hqueue with heq | hopen
    · exact heq.trans hnil
    · rw [hshut] at hopen
      cases hopen
  case working =>
    intro i v hnew hworking
    obtain ⟨hle,u,hu,-,-,htask,-⟩ := hpos i v hnew
    exact (h.working i u hu (htask ▸ hworking)).later hlater hle
  case isOpen =>
    intro i v hnew hopen
    obtain ⟨-,-,-,-,-,-,hclosed,-⟩ := hpos i v hnew
    rw [hclosed] at hopen
    cases hopen
  case active => exact fun _ h => by cases h
  case retired =>
    -- No worker of the file comes behind the one that retires.
    refine fun _ => ⟨fun p hp => ?_,fun i _ v hnew => ?_⟩
    · obtain rfl := Option.some.inj hp
      exact ⟨by rw [List.length_set]; exact hw.lt,hlater.forth n w hw⟩
    · obtain ⟨-,u,hu,-⟩ := hpos i v hnew
      exact .inr ⟨n,rfl,(h.active n rfl).2 i u hu⟩

theorem forget (h : Row file ws active? retired?) {hasEnded : Nat → Bool}
    (hended : ∀ i v, IsOf file ws i v → v.hasEnded = hasEnded i) :
    Row file ws active? (retired?.filter fun p => !hasEnded p) where
  waits := h.waits
  ended := h.ended
  working := h.working
  isOpen := h.isOpen
  active := h.active
  retired hnone := by
    have hawaits := h.retired hnone
    cases retired? with
    | none => exact hawaits
    | some p =>
      cases hp : hasEnded p with
      | false => simpa [Option.filter, hp] using hawaits
      | true =>
        have hall := h.earlierEnded hawaits fun q u hq hu => by
          obtain rfl := Option.some.inj hq
          rw [hended p u hu, hp]
        have hnone' : (some p).filter (fun p => !hasEnded p) = none := by simp [Option.filter, hp]
        rw [hnone']
        exact ⟨fun _ h => (by cases h),fun i hi v hv => .inl (hall i hi v hv)⟩

/-- Behind workers that have ended, nothing comes before the jobs of a worker, and nobody else works. -/
theorem queued_first (h : Row file ws active? retired?) (hw : IsOf file ws n w) (hlive : w.hasEnded = false)
    (hearlier : EarlierEnded file ws n) : ∃ later, ∀ v : Worker, v.file = w.file →
      queued file (ws.set n v) = v.queue ++ later ∧
      inHand file (ws.set n v) = (v.task?.map Task.job).toList := by
  obtain ⟨pre,post,hws,hset,hpre,hpost⟩ := exists_split hw.1
  have hidle : ∀ v ∈ pre, v.file.same file = true → v.queue = [] ∧ v.task? = none := by
    intro v hv hsame
    obtain ⟨i,hi,hat⟩ := hpre v hv
    obtain ⟨-,hqueue,htask,-⟩ := h.ended i v ⟨hat,hsame⟩ (hearlier i hi v ⟨hat,hsame⟩)
    exact ⟨hqueue,htask⟩
  have hwaiting : ∀ v ∈ post, v.file.same file = true → v.task? = none := by
    intro v hv hsame
    obtain ⟨i,hi,hat⟩ := hpost v hv
    cases htask : v.task? with
    | none => rfl
    | some t =>
      have hended := h.working i v ⟨hat,hsame⟩ (by rw [htask]; rfl) n hi w hw
      rw [hlive] at hended
      cases hended
  refine ⟨queued file post,fun v hv => ?_⟩
  have hqueue : queued file (v :: post) = v.queue ++ queued file post := by
    simp only [queued, List.flatMap_cons, hv, hw.2, if_true]
  have htask : inHand file (v :: post) = (v.task?.map Task.job).toList ++ inHand file post := by
    simp only [inHand, List.flatMap_cons, hv, hw.2, if_true]
  constructor
  · rw [hset, queued_append, hqueue, queued_eq_nil fun v hv hsame => (hidle v hv hsame).1, List.nil_append]
  · rw [hset, inHand_append, htask, inHand_eq_nil fun v hv hsame => (hidle v hv hsame).2,
      inHand_eq_nil hwaiting, List.nil_append, List.append_nil]

theorem queued_last (h : Row file ws (some n) retired?) (hw : IsOf file ws n w) {js : List Job}
    (hfile : w'.file = w.file) (hqueue : w'.queue = w.queue ++ js) :
    queued file (ws.set n w') = queued file ws ++ js := by
  obtain ⟨pre,post,hws,hset,-,hpost⟩ := exists_split hw.1
  have hnone : queued file post = [] := queued_eq_nil fun v hv hsame => by
    obtain ⟨i,hi,hat⟩ := hpost v hv
    exact absurd ((h.active n rfl).2 i v ⟨hat,hsame⟩) (Nat.not_le_of_gt hi)
  have hcons (v : Worker) (hv : v.file = w.file) : queued file (v :: post) = v.queue := by
    have hv : queued file (v :: post) = v.queue ++ queued file post := by
      simp only [queued, List.flatMap_cons, hv, hw.2, if_true]
    rw [hv, hnone, List.append_nil]
  rw [hset, queued_append, hcons w' hfile, hqueue, ← List.append_assoc, ← hcons w rfl, ← queued_append,
    ← hws]

end Row

end SmaliNavigator
