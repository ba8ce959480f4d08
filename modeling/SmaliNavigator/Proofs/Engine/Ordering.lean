import Mathlib.Algebra.GroupWithZero.Nat
import SmaliNavigator.Proofs.Engine.Crew

/-!
The jobs of one file are done in the order in which they came and one at a time, whichever way the
workers of all files come in between each other, and none of them waits for ever.
-/

set_option autoImplicit false

namespace SmaliNavigator

namespace Crew

variable {c c' : Crew} {n : Nat} {source : Source} {order : FileOrder} {w : Worker}

namespace InOrder

variable {submitted : List Job}

/-- Where nothing can happen, the workers of a file have nothing left to do. By induction on the
number: the worker that one waits for comes before it and takes no more jobs, so it has ended. -/
theorem resting (h : c.InOrder submitted) (hidle : c.IsIdle source) (file : Path) (n : Nat) (w : Worker)
    (hw : IsOf file c.workers n w) :
    w.task? = none ∧ w.queue = [] ∧ (w.isOpen = false → w.hasEnded = true) := by
  induction n using Nat.strongRecOn generalizing w with
  | _ n ih =>
  have hrow := h.row file
  have hminds := h.minds w hw.mem
  have hfree : c.isFree w = true := by
    unfold isFree
    cases hp : w.waitsFor? with
    | none => rfl
    | some p =>
      obtain ⟨hlt,u,hu⟩ := (hrow.waits n w hw).isOf p hp
      have hclosed : u.isOpen = false := by
        cases hopen : u.isOpen with
        | false => rfl
        | true =>
          have hlast := (hrow.active p (hrow.isOpen p u hu hopen)).2 n w hw
          omega
      change c.hasEnded p = true
      rw [Crew.hasEnded, hu.1]
      exact (ih p hlt u hu).2.2 hclosed
  have htask : w.task? = none := by
    cases ht : w.task? with
    | none => rfl
    | some t =>
      cases hread : t.hasRead with
      | false =>
        obtain ⟨f,hf⟩ := Option.isSome_iff_exists.mp (hminds.reads t ht hread)
        have hstuck : c.read? source n = none := hidle (.read n) (by simp)
        rw [read?_eq hw.1, ht, Option.bind_some, hread, if_neg (by simp), hf] at hstuck
        cases hstuck
      | true =>
        have hstuck : c.finish? n = none := hidle (.finish n) (by simp)
        rw [finish?_eq hw.1, ht, Option.bind_some, hread, if_pos rfl] at hstuck
        cases hstuck
  have hqueue : w.queue = [] := by
    have hstuck : c.start? n = none := hidle (.start n) (by simp)
    rw [start?_eq hw.1, hfree, htask] at hstuck
    simpa using hstuck
  refine ⟨htask,hqueue,fun hclosed => ?_⟩
  have hstuck : c.leave? n = none := hidle (.leave n) (by simp)
  rw [leave?_eq hw.1, hfree, hclosed, hqueue, htask] at hstuck
  simpa using hstuck

theorem finished_of_idle (h : c.InOrder submitted) (hidle : c.IsIdle source) (file : Path) :
    jobsOf file c.finished = jobsOf file submitted := by
  have hinbox : c.inbox = [] := by
    cases hin : c.inbox with
    | nil => rfl
    | cons j js =>
      have hstuck : c.dispatch? = none := hidle .dispatch (by simp)
      rw [dispatch?_eq hin] at hstuck
      cases hstuck
  have hrest (w : Worker) (hw : w ∈ c.workers) (hsame : w.file.same file = true) :
      w.task? = none ∧ w.queue = [] := by
    obtain ⟨n,hn⟩ := List.mem_iff_getElem?.mp hw
    obtain ⟨htask,hqueue,-⟩ := h.resting hidle file n w ⟨hn,hsame⟩
    exact ⟨htask,hqueue⟩
  rw [h.begun file, h.finished file, hinbox, queued_eq_nil fun w hw hsame => (hrest w hw hsame).2,
    inHand_eq_nil fun w hw hsame => (hrest w hw hsame).1]
  simp [jobsOf]

end InOrder

theorem isIdle_iff : c.IsIdle source ↔ c.dispatch? = none ∧ ∀ n < c.workers.length,
    c.start? n = none ∧ c.read? source n = none ∧ c.finish? n = none ∧ c.leave? n = none := by
  constructor
  · intro h
    exact ⟨h .dispatch (by simp),fun n _ => ⟨h (.start n) (by simp),h (.read n) (by simp),
      h (.finish n) (by simp),h (.leave n) (by simp)⟩⟩
  · rintro ⟨hdispatch,hworkers⟩ m hm
    have hworker (n : Nat) : c.start? n = none ∧ c.read? source n = none ∧ c.finish? n = none ∧
        c.leave? n = none := by
      by_cases hn : n < c.workers.length
      · exact hworkers n hn
      · have hnone : c.workers[n]? = none := List.getElem?_eq_none (Nat.le_of_not_lt hn)
        rw [start?, read?, finish?, leave?, hnone]
        exact ⟨rfl,rfl,rfl,rfl⟩
    cases m with
    | submit event => exact absurd rfl (hm event)
    | dispatch => exact hdispatch
    | start n => exact (hworker n).1
    | read n => exact (hworker n).2.1
    | finish n => exact (hworker n).2.2.1
    | leave n => exact (hworker n).2.2.2

instance : Decidable (c.IsIdle source) := decidable_of_iff _ isIdle_iff.symm

/-- The crew gets from one state to another by these moves, whatever the files are at each of them, and
in whatever order those that are touched are come upon. -/
inductive Course : Crew → List Move → Crew → Prop where
  | nil (c : Crew) : Course c [] c
  | cons {c c' c'' : Crew} {source : Source} {order : FileOrder} {m : Move} {ms : List Move} :
    c.move? source m = some c' → Course c' ms c'' → Course c (m :: ms) c''

theorem course_of_run? {moves : List Move} (h : c.run? source moves = some c') :
    Course c moves c' := by
  induction moves generalizing c with
  | nil =>
    obtain rfl := Option.some.inj h
    exact .nil c
  | cons m ms ih =>
    rw [run?, List.foldlM_cons] at h
    obtain ⟨d,hm,hms⟩ := Option.bind_eq_some_iff.mp h
    exact .cons hm (ih hms)

theorem InOrder.course {submitted : List Job} {ms : List Move} (h : c.InOrder submitted)
    (hc : Course c ms c') : c'.InOrder (submitted ++ (ms.filterMap Move.event?).map FileEvent.job) := by
  induction hc generalizing submitted with
  | nil => simpa using h
  | @cons _ _ _ _ _ m _ hm _ ih =>
    have hrest := ih (h.move hm)
    cases hevent : m.event? <;> simpa [List.filterMap_cons, hevent] using hrest

end Crew

/-- What a worker still has to do, counted in moves. -/
def Worker.labour (w : Worker) : Nat :=
  3 * w.queue.length + (w.task?.map fun t => if t.hasRead then 1 else 2).getD 0 +
    if w.hasEnded then 0 else 1

namespace Crew

variable {c c' : Crew} {n : Nat} {source : Source} {w : Worker}

/-- No fewer moves than the crew can make without an event. -/
def labour (c : Crew) : Nat := 5 * c.inbox.length + (c.workers.map Worker.labour).sum

theorem sum_labour_set (hw : c.workers[n]? = some w) (w' : Worker) :
    ((c.workers.set n w').map Worker.labour).sum + w.labour =
      (c.workers.map Worker.labour).sum + w'.labour := by
  obtain ⟨pre,post,hws,hset,-⟩ := exists_split hw
  rw [hset, hws]
  simp only [List.map_append, List.map_cons, List.sum_append, List.sum_cons]
  omega

theorem labour_set {w' : Worker} (hw : c.workers[n]? = some w) (hless : w'.labour < w.labour)
    (hworkers : c'.workers = c.workers.set n w') (hinbox : c'.inbox = c.inbox) : c'.labour < c.labour := by
  have hsum := sum_labour_set hw w'
  rw [labour, labour, hinbox, hworkers]
  omega

theorem labour_workerFor (c : Crew) (file : Path) : (c.workerFor file).2.labour ≤ c.labour + 1 := by
  unfold workerFor
  cases c.active.get? file with
  | some n => exact Nat.le_succ _
  | none => simp [labour, Worker.labour]; omega

theorem labour_give (c : Crew) (n : Nat) (j : Job) : (c.give n j).labour ≤ c.labour + 3 := by
  cases hw : c.workers[n]? with
  | none =>
    rw [give, hw]
    exact Nat.le_add_right _ _
  | some w =>
    have hsum := sum_labour_set hw { w with queue := w.queue ++ [j], isOpen := !j.retires }
    have hmore : Worker.labour { w with queue := w.queue ++ [j], isOpen := !j.retires } =
        w.labour + 3 := by simp [Worker.labour]; omega
    rw [give_eq hw]
    unfold labour
    dsimp only
    omega

theorem labour_dispatch (h : c.dispatch? = some c') : c'.labour < c.labour := by
  obtain ⟨j,js,hinbox,rfl⟩ := of_dispatch? h
  have hhire := labour_workerFor { c with retired := c.stillRetiring } j.file
  have hkept : ({ c with retired := c.stillRetiring }.workerFor j.file).2.inbox = j :: js := by
    rw [← hinbox, workerFor]
    cases c.active.get? j.file <;> rfl
  generalize { c with retired := c.stillRetiring }.workerFor j.file = hired at hhire hkept
  have hgive := labour_give { hired.2 with inbox := js } hired.1 j
  have hall : c.labour = { c with retired := c.stillRetiring }.labour := rfl
  have htaken : hired.2.labour = { hired.2 with inbox := js }.labour + 5 := by
    simp only [labour, hkept, List.length_cons]
    omega
  omega

theorem labour_move {order : FileOrder} {m : Move} (h : c.move? source m = some c') (hm : m.event? = none) :
    c'.labour < c.labour := by
  cases m with
  | submit event => cases hm
  | dispatch => exact labour_dispatch h
  | start n =>
    obtain ⟨w,j,js,hw,-,hnone,hqueue,rfl⟩ := of_start? h
    refine labour_set hw ?_ rfl rfl
    simp only [Worker.labour, hqueue, hnone, List.length_cons, Option.map_some, Option.getD_some]
    split <;> simp <;> omega
  | read n =>
    obtain ⟨w,t,f,hw,ht,hread,rfl⟩ := of_read? h
    refine labour_set hw ?_ rfl rfl
    simp [Worker.labour, ht, hread]
  | finish n =>
    obtain ⟨w,t,hw,ht,hread,rfl⟩ := of_finish? h
    refine labour_set hw ?_ rfl rfl
    simp [Worker.labour, ht, hread]
  | leave n =>
    obtain ⟨w,hw,-,-,-,-,hlive,rfl⟩ := of_leave? h
    refine labour_set hw ?_ rfl rfl
    simp [Worker.labour, hlive]

theorem Course.length_le {ms : List Move} (h : Course c ms c') (hms : ∀ m ∈ ms, m.event? = none) :
    ms.length ≤ c.labour := by
  induction h with
  | nil => exact Nat.zero_le _
  | cons hm _ ih =>
    have hless := labour_move hm (hms _ (by simp))
    have hrest := ih fun m hm => hms m (by simp [hm])
    rw [List.length_cons]
    omega

/-- The jobs of a file are begun in the order in which they were submitted, each of them once and
not before the one before it is finished. Without further events only so much can happen, and when
nothing can happen any more all of them are finished. -/
theorem jobsOf_in_order {ix : Index} {moves : List Move} (h : Course (new ix) moves c) (file : Path) :
    let submitted := jobsOf file ((moves.filterMap Move.event?).map FileEvent.job)
    jobsOf file c.begun <+: submitted ∧
    (∃ working? : Option Job, jobsOf file c.begun = jobsOf file c.finished ++ working?.toList) ∧
    ∃ bound, ∀ {more c'}, Course c more c' → (∀ m ∈ more, m.event? = none) →
      more.length ≤ bound ∧
        ∀ [FileOrder] source, c'.IsIdle source → jobsOf file c'.finished = submitted := by
  intro submitted
  have hcrew : c.InOrder ((moves.filterMap Move.event?).map FileEvent.job) := (InOrder.new ix).course h
  refine ⟨⟨queued file c.workers ++ jobsOf file c.inbox,?_⟩,?_,c.labour,fun {more c'} hmore hquiet =>
    ⟨hmore.length_le hquiet,fun source hidle => ?_⟩⟩
  · rw [← List.append_assoc]
    exact (hcrew.begun file).symm
  · rw [hcrew.finished file]
    have hone := hcrew.oneAtATime file
    cases hjobs : inHand file c.workers with
    | nil => exact ⟨none,rfl⟩
    | cons j js =>
      rw [hjobs, List.length_cons] at hone
      obtain rfl : js = [] := List.length_eq_zero_iff.mp (by omega)
      exact ⟨some j,rfl⟩
  · have hnone : more.filterMap Move.event? = [] := List.filterMap_eq_nil_iff.mpr hquiet
    have hlater := (hcrew.course hmore).finished_of_idle hidle file
    rwa [hnone, List.map_nil, List.append_nil] at hlater

/-- A file is renamed and made again while its worker has not even begun: a second worker gets the
later jobs and has to wait for the first one. -/
theorem jobsOf_in_order_retired :
    let a := Path.ofString "A.smali"
    let source := (MemoryProject.empty.put a ⟨".class La;\n.super Lb;\n",none⟩).source
    let events : List FileEvent := [.changed a none,.renamed a (.ofString "B.smali"),.created a,.deleted a]
    let moves := events.map Move.submit ++ [.dispatch,.dispatch,.dispatch,.dispatch,.start 0]
    let later := [Move.read 0,.finish 0,.start 0,.read 0,.finish 0,.leave 0,.start 1,.read 1,.finish 1,
      .start 1,.finish 1,.leave 1]
    let submitted := events.map FileEvent.job
    ∃ c d, (new (.new .default)).run? source moves = some c ∧ c.run? source later = some d ∧
      c.workers.map (·.queue.length) = [1,2] ∧ c.move? source (.start 1) = none ∧
      jobsOf a c.begun <+: submitted ∧
      (∃ working? : Option Job, jobsOf a c.begun = jobsOf a c.finished ++ working?.toList) ∧
      d.IsIdle source ∧ jobsOf a d.finished = submitted := by
  intro a source events moves later submitted
  have hruns : ((new (.new .default)).run? source moves).any (fun c =>
      c.workers.map (·.queue.length) = [1,2] ∧ c.move? source (.start 1) = none ∧
      (c.run? source later).any (fun d => d.IsIdle source) = true) = true := by decide +kernel
  obtain ⟨c,hc,hruns⟩ := (Option.any_eq_true _ _).mp hruns
  obtain ⟨hqueues,hwaits,hlater⟩ := of_decide_eq_true hruns
  obtain ⟨d,hd,hidle⟩ := (Option.any_eq_true _ _).mp hlater
  obtain ⟨hbegun,hone,bound,hends⟩ := jobsOf_in_order (course_of_run? hc) a
  have hquiet : ∀ m ∈ later, m.event? = none := by decide
  have hall : jobsOf a ((moves.filterMap Move.event?).map FileEvent.job) = submitted := by decide +kernel
  rw [hall] at hbegun
  refine ⟨c,d,hc,hd,hqueues,hwaits,hbegun,hone,of_decide_eq_true hidle,?_⟩
  rw [← hall]
  exact (hends (course_of_run? hd) hquiet).2 source (of_decide_eq_true hidle)

end Crew

end SmaliNavigator
