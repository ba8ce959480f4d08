import SmaliNavigator.Proofs.Engine.Row

/-!
What each move of a crew keeps: the workers of every file stand in a row, and the jobs of the file are,
in the order in which they came, those that were begun, those that its workers wait to begin and those
that the dispatcher has not seen.
-/

set_option autoImplicit false

namespace SmaliNavigator

theorem guard_bind {α : Type} (b : Bool) (f : Unit → Option α) :
    ((guard (b = true) : Option Unit).bind f) = if b then f () else none := by
  cases b <;> rfl

theorem jobsOf_append (file : Path) (js ks : List Job) :
    jobsOf file (js ++ ks) = jobsOf file js ++ jobsOf file ks := List.filter_append ..

theorem jobsOf_singleton_of_same {file : Path} {j : Job} (h : j.file.same file = true) :
    jobsOf file [j] = [j] := List.filter_cons_of_pos (by simpa using h)

theorem jobsOf_singleton_of_not_same {file : Path} {j : Job} (h : j.file.same file = false) :
    jobsOf file [j] = [] := List.filter_cons_of_neg (by simp [h])

/-- A worker has only jobs of its own file, and where it has yet to read there is something to read. -/
structure Worker.Minds (w : Worker) : Prop where
  queue : ∀ j ∈ w.queue, j.file.same w.file = true
  task : ∀ t, w.task? = some t → t.job.file.same w.file = true
  reads : ∀ t, w.task? = some t → t.hasRead = false → t.job.reads?.isSome = true

namespace Crew

variable {c c' : Crew} {n : Nat} {source : Source} {order : FileOrder} {w : Worker}

theorem start?_eq (hw : c.workers[n]? = some w) : c.start? n =
    if c.isFree w && w.task?.isNone then
      w.queue.head?.map fun j =>
        { c with
          index := (j.begin c.index).1
          updates := c.updates ++ (j.begin c.index).2
          begun := c.begun ++ [j]
          workers := c.workers.set n
            { w with queue := w.queue.tail, task? := some ⟨j,j.reads?.isNone,none⟩ } }
    else none := by
  rw [start?, hw]
  refine (guard_bind _ _).trans ?_
  cases w.queue <;> rfl

theorem read?_eq (hw : c.workers[n]? = some w) : c.read? source n =
    w.task?.bind fun t => if t.hasRead then none else t.job.reads?.map fun file =>
      c.setWorker n { w with task? := some ⟨t.job,true,(source.open? file).toOption⟩ } := by
  rw [read?, hw]
  refine congrArg w.task?.bind (funext fun t => (guard_bind _ _).trans ?_)
  cases t.hasRead <;> cases t.job.reads? <;> rfl

theorem finish?_eq (hw : c.workers[n]? = some w) : c.finish? n =
    w.task?.bind fun t => if t.hasRead then some
      { c with
        index := (t.job.finish t.live? c.index).1
        updates := c.updates ++ (t.job.finish t.live? c.index).2
        finished := c.finished ++ [t.job]
        workers := c.workers.set n { w with task? := none } } else none := by
  rw [finish?, hw]
  exact congrArg w.task?.bind (funext fun t => guard_bind _ _)

theorem leave?_eq (hw : c.workers[n]? = some w) : c.leave? n =
    if c.isFree w && !w.isOpen && w.queue.isEmpty && w.task?.isNone && !w.hasEnded then
      some (c.setWorker n { w with hasEnded := true }) else none := by
  rw [leave?, hw]
  exact guard_bind _ _

/-- It does not matter whether the job is taken out of the inbox before a worker is found for it. -/
theorem dispatch?_eq {j : Job} {js : List Job} (hinbox : c.inbox = j :: js) : c.dispatch? = some
    ({ ({ c with retired := c.stillRetiring }.workerFor j.file).2 with inbox := js }.give
      ({ c with retired := c.stillRetiring }.workerFor j.file).1 j) := by
  simp only [dispatch?, workerFor, hinbox]
  cases c.active.get? j.file <;> rfl

/-! ### What each move can do -/

theorem of_dispatch? (h : c.dispatch? = some c') : ∃ j js, c.inbox = j :: js ∧
    let hired := { c with retired := c.stillRetiring }.workerFor j.file
    c' = { hired.2 with inbox := js }.give hired.1 j := by
  obtain ⟨j,js,hinbox⟩ : ∃ j js, c.inbox = j :: js := List.exists_cons_of_ne_nil fun hnil => by
    rw [dispatch?, hnil] at h
    cases h
  rw [dispatch?_eq hinbox] at h
  exact ⟨j,js,hinbox,(Option.some.inj h).symm⟩

theorem exists_worker {α : Type} {f : Worker → Option α} {a : α} (h : (c.workers[n]?).bind f = some a) :
    ∃ w, c.workers[n]? = some w := by
  obtain ⟨w,hw,-⟩ := Option.bind_eq_some_iff.mp h
  exact ⟨w,hw⟩

theorem of_start? (h : c.start? n = some c') : ∃ w j js, c.workers[n]? = some w ∧ c.isFree w = true ∧
    w.task? = none ∧ w.queue = j :: js ∧ c' =
      { c with
        index := (j.begin c.index).1
        updates := c.updates ++ (j.begin c.index).2
        begun := c.begun ++ [j]
        workers := c.workers.set n { w with queue := js, task? := some ⟨j,j.reads?.isNone,none⟩ } } := by
  obtain ⟨w,hw⟩ := exists_worker h
  rw [start?_eq hw] at h
  split at h
  case isFalse => cases h
  case isTrue hfree =>
  simp only [Bool.and_eq_true, Option.isNone_iff_eq_none] at hfree
  obtain ⟨j,hj,rfl⟩ := Option.map_eq_some_iff.mp h
  obtain ⟨js,hqueue⟩ := List.head?_eq_some_iff.mp hj
  exact ⟨w,j,js,hw,hfree.1,hfree.2,hqueue,by rw [hqueue, List.tail_cons]⟩

theorem of_read? (h : c.read? source n = some c') : ∃ w t f, c.workers[n]? = some w ∧
    w.task? = some t ∧ t.hasRead = false ∧
    c' = c.setWorker n { w with task? := some ⟨t.job,true,(source.open? f).toOption⟩ } := by
  obtain ⟨w,hw⟩ := exists_worker h
  rw [read?_eq hw] at h
  obtain ⟨t,ht,h⟩ := Option.bind_eq_some_iff.mp h
  split at h
  case isTrue => cases h
  case isFalse hread =>
  obtain ⟨f,-,rfl⟩ := Option.map_eq_some_iff.mp h
  exact ⟨w,t,f,hw,ht,by simpa using hread,rfl⟩

theorem of_finish? (h : c.finish? n = some c') : ∃ w t, c.workers[n]? = some w ∧ w.task? = some t ∧
    t.hasRead = true ∧ c' =
      { c with
        index := (t.job.finish t.live? c.index).1
        updates := c.updates ++ (t.job.finish t.live? c.index).2
        finished := c.finished ++ [t.job]
        workers := c.workers.set n { w with task? := none } } := by
  obtain ⟨w,hw⟩ := exists_worker h
  rw [finish?_eq hw] at h
  obtain ⟨t,ht,h⟩ := Option.bind_eq_some_iff.mp h
  split at h
  case isFalse => cases h
  case isTrue hread => exact ⟨w,t,hw,ht,hread,(Option.some.inj h).symm⟩

theorem of_leave? (h : c.leave? n = some c') : ∃ w, c.workers[n]? = some w ∧ c.isFree w = true ∧
    w.isOpen = false ∧ w.queue = [] ∧ w.task? = none ∧ w.hasEnded = false ∧
    c' = c.setWorker n { w with hasEnded := true } := by
  obtain ⟨w,hw⟩ := exists_worker h
  rw [leave?_eq hw] at h
  split at h
  case isFalse => cases h
  case isTrue hfree =>
  simp only [Bool.and_eq_true, Option.isNone_iff_eq_none, List.isEmpty_iff, Bool.not_eq_true'] at hfree
  obtain ⟨⟨⟨⟨hfree,hclosed⟩,hqueue⟩,hnone⟩,hlive⟩ := hfree
  exact ⟨w,hw,hfree,hclosed,hqueue,hnone,hlive,(Option.some.inj h).symm⟩

/-! ### What the moves keep -/

theorem get?_stillRetiring (c : Crew) (file : Path) :
    c.stillRetiring.get? file = (c.retired.get? file).filter fun n => !c.hasEnded n := by
  have hfound (e : Path × Nat) (he : e ∈ c.retired.toList) (hsame : e.1.same file = true) :
      c.retired.get? file = some e.2 := (c.retired.get?_eq_some_iff file e.2).mpr ⟨e.1,hsame,he⟩
  have hfold : c.stillRetiring = (c.retired.toList.filter fun e => !c.hasEnded e.2).foldl
      (fun m e => m.insert e.1 e.2) ∅ := rfl
  cases hr : c.retired.get? file with
  | none =>
    have hnone : ((c.retired.toList.filter fun e => !c.hasEnded e.2).any (·.1.same file)) = false := by
      refine List.any_eq_false.mpr fun e he hsame => ?_
      have hsome := hfound e (List.mem_filter.mp he).1 hsame
      rw [hr] at hsome
      cases hsome
    rw [hfold, PathMap.get?_foldl_insert_of_agree (a := 0), hnone]
    · rfl
    · intro e he hsame
      have hsome := hfound e (List.mem_filter.mp he).1 hsame
      rw [hr] at hsome
      cases hsome
  | some n =>
    have hany : ((c.retired.toList.filter fun e => !c.hasEnded e.2).any (·.1.same file)) =
        !c.hasEnded n := by
      rw [Bool.eq_iff_iff, List.any_eq_true]
      constructor
      · rintro ⟨e,he,hsame⟩
        obtain ⟨hmem,hlive⟩ := List.mem_filter.mp he
        obtain rfl : n = e.2 := Option.some.inj (hr.symm.trans (hfound e hmem hsame))
        exact hlive
      · intro hlive
        obtain ⟨f,hsame,hmem⟩ := (c.retired.get?_eq_some_iff file n).mp hr
        exact ⟨(f,n),List.mem_filter.mpr ⟨hmem,hlive⟩,hsame⟩
    rw [hfold, PathMap.get?_foldl_insert_of_agree (a := n), hany]
    · cases hlive : c.hasEnded n <;> simp [Option.filter, hlive]
    · intro e he hsame
      exact Option.some.inj ((hfound e (List.mem_filter.mp he).1 hsame).symm.trans hr)

theorem give_eq (hw : c.workers[n]? = some w) (j : Job) : c.give n j =
    { c with
      workers := c.workers.set n { w with queue := w.queue ++ [j], isOpen := !j.retires }
      active := if j.retires then c.active.erase j.file else c.active
      retired := if j.retires then c.retired.insert j.file n else c.retired } := by
  unfold give
  rw [hw]
  cases j.retires <;> simp [setWorker]

/-- All that was submitted was begun, or it waits for a worker or for the dispatcher, in this order. -/
structure InOrder (c : Crew) (submitted : List Job) : Prop where
  row : ∀ file, Row file c.workers (c.active.get? file) (c.retired.get? file)
  minds : ∀ w ∈ c.workers, w.Minds
  begun : ∀ file, jobsOf file submitted =
    jobsOf file c.begun ++ queued file c.workers ++ jobsOf file c.inbox
  finished : ∀ file, jobsOf file c.begun = jobsOf file c.finished ++ inHand file c.workers
  oneAtATime : ∀ file, (inHand file c.workers).length ≤ 1

namespace InOrder

variable {submitted : List Job}

theorem new (ix : Index) : (Crew.new ix).InOrder [] where
  row := Row.nil
  minds _ h := by cases h
  begun _ := rfl
  finished _ := rfl
  oneAtATime _ := Nat.zero_le 1

theorem submit (h : c.InOrder submitted) (j : Job) :
    { c with inbox := c.inbox ++ [j] }.InOrder (submitted ++ [j]) where
  row := h.row
  minds := h.minds
  begun file := by
    rw [jobsOf_append, h.begun file, jobsOf_append, List.append_assoc]
  finished := h.finished
  oneAtATime := h.oneAtATime

theorem earlierEnded (h : c.InOrder submitted) {file : Path} (hw : IsOf file c.workers n w)
    (hfree : c.isFree w = true) : EarlierEnded file c.workers n := by
  refine (h.row file).earlierEnded ((h.row file).waits n w hw) fun p u hp hu => ?_
  have hended : c.hasEnded p = true := by
    rw [isFree, hp] at hfree
    exact hfree
  rwa [Crew.hasEnded, hu.1] at hended

theorem minds_set (h : c.InOrder submitted) {w' : Worker} (hw' : w'.Minds) :
    ∀ v ∈ c.workers.set n w', v.Minds := by
  intro v hv
  rcases List.mem_or_eq_of_mem_set hv with hv | rfl
  · exact h.minds v hv
  · exact hw'

/-- What the file of a worker waits for and has in hand, and what it will when the worker goes on. -/
theorem first (h : c.InOrder submitted) {file : Path} (hw : IsOf file c.workers n w)
    (hlive : w.hasEnded = false) (hearlier : EarlierEnded file c.workers n) :
    ∃ later, queued file c.workers = w.queue ++ later ∧
      inHand file c.workers = (w.task?.map Task.job).toList ∧ ∀ v : Worker, v.file = w.file →
        queued file (c.workers.set n v) = v.queue ++ later ∧
        inHand file (c.workers.set n v) = (v.task?.map Task.job).toList := by
  obtain ⟨later,hset⟩ := (h.row file).queued_first hw hlive hearlier
  have hself : c.workers.set n w = c.workers := by
    obtain ⟨pre,post,hws,hset,-⟩ := exists_split hw.1
    exact (hset w).trans hws.symm
  exact ⟨later,hself ▸ (hset w rfl).1,hself ▸ (hset w rfl).2,hset⟩

theorem taken (h : c.InOrder submitted) (hw : c.workers[n]? = some w) (hfree : c.isFree w = true)
    (hnone : w.task? = none) {j : Job} {js : List Job} (hqueue : w.queue = j :: js) {t : Task}
    (ht : t.job = j) (file : Path) :
    let ws := c.workers.set n { w with queue := js, task? := some t }
    queued file c.workers = jobsOf file [j] ++ queued file ws ∧
      inHand file ws = inHand file c.workers ++ jobsOf file [j] ∧ (inHand file ws).length ≤ 1 := by
  intro ws
  have hown : j.file.same w.file = true := (h.minds w (List.mem_of_getElem? hw)).queue j (by simp [hqueue])
  cases hsame : w.file.same file with
  | false =>
    have hqueued : queued file ws = queued file c.workers := queued_set hw rfl (by simp [hsame])
    have hinHand : inHand file ws = inHand file c.workers := inHand_set hw rfl (by simp [hsame])
    have hnot : j.file.same file = false := by rw [Path.same_left hown, hsame]
    rw [hqueued, hinHand, jobsOf_singleton_of_not_same hnot, List.append_nil]
    exact ⟨rfl,rfl,h.oneAtATime file⟩
  | true =>
    have hlive := (h.row file).hasEnded_of_busy ⟨hw,hsame⟩ (.inl (by simp [hqueue]))
    obtain ⟨later,hqueued,hinHand,hset⟩ := h.first ⟨hw,hsame⟩ hlive (h.earlierEnded ⟨hw,hsame⟩ hfree)
    obtain ⟨hqueued',hinHand'⟩ := hset { w with queue := js, task? := some t } rfl
    have hfile : j.file.same file = true := by rw [Path.same_left hown, hsame]
    rw [hqueued, hinHand, hqueued', hinHand', jobsOf_singleton_of_same hfile, hqueue, hnone, ← ht]
    exact ⟨rfl,rfl,Nat.le_refl 1⟩

theorem start (h : c.InOrder submitted) (hstart : c.start? n = some c') : c'.InOrder submitted := by
  obtain ⟨w,j,js,hw,hfree,hnone,hqueue,rfl⟩ := of_start? hstart
  have hminds := h.minds w (List.mem_of_getElem? hw)
  have htaken := h.taken (t := ⟨j,j.reads?.isNone,none⟩) hw hfree hnone hqueue rfl
  constructor
  case row =>
    refine fun file => (h.row file).set hw rfl fun hsame => ⟨rfl,rfl,id,fun he => ?_,fun _ => ?_⟩
    · have hlive := (h.row file).hasEnded_of_busy ⟨hw,hsame⟩ (.inl (by simp [hqueue]))
      rw [hlive] at he
      cases he
    · exact h.earlierEnded ⟨hw,hsame⟩ hfree
  case minds =>
    refine h.minds_set ⟨fun k hk => hminds.queue k (by simp [hqueue, hk]),fun t ht => ?_,
      fun t ht hread => ?_⟩
    · obtain rfl := Option.some.inj ht
      exact hminds.queue j (by simp [hqueue])
    · obtain rfl := Option.some.inj ht
      simpa [Option.isSome_iff_ne_none] using hread
  case begun =>
    intro file
    rw [h.begun file, (htaken file).1, jobsOf_append]
    simp only [List.append_assoc]
  case finished =>
    intro file
    rw [jobsOf_append, h.finished file, (htaken file).2.1, List.append_assoc]
  case oneAtATime => exact fun file => (htaken file).2.2

theorem congr (h : c.InOrder submitted) (hbegun : c'.begun = c.begun) (hfinished : c'.finished = c.finished)
    (hinbox : c'.inbox = c.inbox) (hqueued : ∀ file, queued file c'.workers = queued file c.workers)
    (hinHand : ∀ file, inHand file c'.workers = inHand file c.workers)
    (hrow : ∀ file, Row file c'.workers (c'.active.get? file) (c'.retired.get? file))
    (hminds : ∀ w ∈ c'.workers, w.Minds) : c'.InOrder submitted where
  row := hrow
  minds := hminds
  begun file := by rw [hbegun, hqueued, hinbox, h.begun]
  finished file := by rw [hbegun, hfinished, hinHand, h.finished]
  oneAtATime file := by rw [hinHand]; exact h.oneAtATime file

theorem setWorker (h : c.InOrder submitted) {w' : Worker} (hw : c.workers[n]? = some w)
    (hfile : w'.file = w.file) (hqueue : w'.queue = w.queue)
    (htask : w'.task?.map Task.job = w.task?.map Task.job) (hminds : w'.Minds)
    (hadvances : ∀ file, w.file.same file = true → Advances file c.workers n w w') :
    (c.setWorker n w').InOrder submitted :=
  h.congr rfl rfl rfl (fun _ => queued_set hw hfile fun _ => hqueue)
    (fun _ => inHand_set hw hfile fun _ => htask) (fun file => (h.row file).set hw hfile (hadvances file))
    (h.minds_set hminds)

theorem read (h : c.InOrder submitted) (hread : c.read? source n = some c') : c'.InOrder submitted := by
  obtain ⟨w,t,f,hw,ht,-,rfl⟩ := of_read? hread
  have hminds := h.minds w (List.mem_of_getElem? hw)
  have hminds' : { w with task? := some ⟨t.job,true,(source.open? f).toOption⟩ }.Minds := by
    refine ⟨hminds.queue,fun t' ht' => ?_,fun t' ht' hread => ?_⟩
    · obtain rfl := Option.some.inj ht'
      exact hminds.task t ht
    · obtain rfl := Option.some.inj ht'
      cases hread
  refine h.setWorker hw rfl rfl (by rw [ht]; rfl) hminds' fun file hsame =>
    ⟨rfl,rfl,id,fun he => ?_,fun _ => ?_⟩
  · have hidle := ((h.row file).ended n w ⟨hw,hsame⟩ he).2.2.1
    rw [ht] at hidle
    cases hidle
  · exact (h.row file).working n w ⟨hw,hsame⟩ (by rw [ht]; rfl)

theorem done (h : c.InOrder submitted) (hw : c.workers[n]? = some w) {t : Task} (ht : w.task? = some t)
    (file : Path) :
    let ws := c.workers.set n { w with task? := none }
    queued file ws = queued file c.workers ∧
      inHand file c.workers = jobsOf file [t.job] ++ inHand file ws := by
  intro ws
  have hown : t.job.file.same w.file = true := (h.minds w (List.mem_of_getElem? hw)).task t ht
  cases hsame : w.file.same file with
  | false =>
    have hqueued : queued file ws = queued file c.workers := queued_set hw rfl (by simp [hsame])
    have hinHand : inHand file ws = inHand file c.workers := inHand_set hw rfl (by simp [hsame])
    have hnot : t.job.file.same file = false := by rw [Path.same_left hown, hsame]
    rw [hqueued, hinHand, jobsOf_singleton_of_not_same hnot, List.nil_append]
    exact ⟨rfl,rfl⟩
  | true =>
    have hlive := (h.row file).hasEnded_of_busy ⟨hw,hsame⟩ (.inr (by simp [ht]))
    obtain ⟨later,hqueued,hinHand,hset⟩ := h.first ⟨hw,hsame⟩ hlive
      ((h.row file).working n w ⟨hw,hsame⟩ (by rw [ht]; rfl))
    obtain ⟨hqueued',hinHand'⟩ := hset { w with task? := none } rfl
    have hfile : t.job.file.same file = true := by rw [Path.same_left hown, hsame]
    rw [hqueued, hinHand, hqueued', hinHand', jobsOf_singleton_of_same hfile, ht]
    exact ⟨rfl,rfl⟩

theorem finish (h : c.InOrder submitted) (hfinish : c.finish? n = some c') : c'.InOrder submitted := by
  obtain ⟨w,t,hw,ht,-,rfl⟩ := of_finish? hfinish
  have hminds := h.minds w (List.mem_of_getElem? hw)
  have hdone := h.done hw ht
  constructor
  case row =>
    refine fun file => (h.row file).set hw rfl fun hsame => ⟨rfl,rfl,id,fun he => ?_,fun hbusy => ?_⟩
    · have hlive := (h.row file).hasEnded_of_busy ⟨hw,hsame⟩ (.inr (by simp [ht]))
      rw [hlive] at he
      cases he
    · cases hbusy
  case minds => exact h.minds_set ⟨hminds.queue,fun _ ht' => (by cases ht'),fun _ ht' => (by cases ht')⟩
  case begun => exact fun file => by rw [h.begun file]; exact congrArg (_ ++ · ++ _) (hdone file).1.symm
  case finished =>
    intro file
    change jobsOf file c.begun = _
    rw [h.finished file, (hdone file).2, jobsOf_append, List.append_assoc]
  case oneAtATime =>
    intro file
    have hone := h.oneAtATime file
    rw [(hdone file).2, List.length_append] at hone
    exact Nat.le_trans (Nat.le_add_left _ _) hone

theorem leave (h : c.InOrder submitted) (hleave : c.leave? n = some c') : c'.InOrder submitted := by
  obtain ⟨w,hw,hfree,hclosed,hempty,hnone,-,rfl⟩ := of_leave? hleave
  have hminds := h.minds w (List.mem_of_getElem? hw)
  refine h.setWorker hw rfl rfl rfl ⟨hminds.queue,hminds.task,hminds.reads⟩ fun file hsame =>
    ⟨rfl,rfl,fun _ => rfl,fun _ => ?_,fun _ => ?_⟩
  · exact ⟨h.earlierEnded ⟨hw,hsame⟩ hfree,hempty,hnone,hclosed⟩
  · exact h.earlierEnded ⟨hw,hsame⟩ hfree

theorem forget (h : c.InOrder submitted) : { c with retired := c.stillRetiring }.InOrder submitted where
  row file := by
    change Row file c.workers (c.active.get? file) (c.stillRetiring.get? file)
    rw [get?_stillRetiring]
    refine (h.row file).forget fun i v hv => ?_
    rw [Crew.hasEnded, hv.1]
  minds := h.minds
  begun := h.begun
  finished := h.finished
  oneAtATime := h.oneAtATime

theorem workerFor (h : c.InOrder submitted) (file : Path) :
    (c.workerFor file).2.InOrder submitted ∧
    (c.workerFor file).2.active.get? file = some (c.workerFor file).1 ∧
    (c.workerFor file).2.inbox = c.inbox := by
  unfold Crew.workerFor
  cases hactive : c.active.get? file with
  | some n => exact ⟨h,hactive,rfl⟩
  | none =>
    let w : Worker := ⟨file,[],none,true,false,c.retired.get? file⟩
    have hqueued (f : Path) : queued f (c.workers ++ [w]) = queued f c.workers := by
      have hnil : queued f [w] = [] := queued_eq_nil fun v hv _ => by rw [List.mem_singleton.mp hv]
      rw [queued_append, hnil, List.append_nil]
    have hinHand (f : Path) : inHand f (c.workers ++ [w]) = inHand f c.workers := by
      have hnil : inHand f [w] = [] := inHand_eq_nil fun v hv _ => by rw [List.mem_singleton.mp hv]
      rw [inHand_append, hnil, List.append_nil]
    refine ⟨h.congr rfl rfl rfl hqueued hinHand (fun f => ?_) fun v hv => ?_,
      PathMap.get?_insert_self ..,rfl⟩
    · change Row f (c.workers ++ [w]) ((c.active.insert file c.workers.length).get? f)
        ((c.retired.erase file).get? f)
      rw [PathMap.get?_insert, PathMap.get?_erase]
      cases hsame : f.same file with
      | false => exact (h.row f).append_other (by rw [Path.same_comm]; exact hsame)
      | true =>
        have hrow := h.row f
        rw [c.active.get?_same hsame, hactive, c.retired.get?_same hsame] at hrow
        exact hrow.append file (by rw [Path.same_comm]; exact hsame)
    · rcases List.mem_append.mp hv with hv | hv
      · exact h.minds v hv
      · obtain rfl := List.mem_singleton.mp hv
        exact ⟨fun _ hj => (by cases hj),fun _ ht => (by cases ht),fun _ ht => (by cases ht)⟩

section Give

variable {j : Job} (h : c.InOrder submitted) (hactive : c.active.get? j.file = some n)
  (hw : IsOf j.file c.workers n w)
include h hactive hw

/-- The worker that a file has is its last one: what it is given comes behind all that waits. -/
theorem queued_give (isOpen : Bool) (file : Path) :
    queued file (c.workers.set n { w with queue := w.queue ++ [j], isOpen }) =
      queued file c.workers ++ jobsOf file [j] := by
  have hown : w.file.same file = j.file.same file := Path.same_left hw.2 file
  cases hsame : j.file.same file with
  | false =>
    rw [jobsOf_singleton_of_not_same hsame, List.append_nil]
    exact queued_set hw.1 rfl (by simp [hown, hsame])
  | true =>
    have hrow := h.row file
    rw [← c.active.get?_same hsame, hactive] at hrow
    rw [jobsOf_singleton_of_same hsame]
    exact hrow.queued_last ⟨hw.1,hown.trans hsame⟩ rfl rfl

theorem row_give (hopen : w.isOpen = true) (file : Path) :
    Row file (c.workers.set n { w with queue := w.queue ++ [j], isOpen := !j.retires })
      ((if j.retires then c.active.erase j.file else c.active).get? file)
      ((if j.retires then c.retired.insert j.file n else c.retired).get? file) := by
  have hrow := h.row file
  have hown : w.file.same file = j.file.same file := Path.same_left hw.2 file
  cases hsame : j.file.same file with
  | false =>
    have hother : file.same j.file = false := by rw [Path.same_comm, hsame]
    have hset : Row file (c.workers.set n { w with queue := w.queue ++ [j], isOpen := !j.retires })
        (c.active.get? file) (c.retired.get? file) := hrow.set hw.1 rfl (by simp [hown, hsame])
    cases hretires : j.retires <;>
      simpa [hretires, PathMap.get?_erase, PathMap.get?_insert, hother] using hset
  | true =>
    have hself : file.same j.file = true := by rw [Path.same_comm, hsame]
    have hlast : IsOf file c.workers n w := ⟨hw.1,hown.trans hsame⟩
    rw [← c.active.get?_same hsame, hactive] at hrow
    cases hretires : j.retires with
    | true =>
      simpa [PathMap.get?_erase, PathMap.get?_insert, hself] using hrow.retire hlast (w.queue ++ [j])
    | false =>
      simpa [← c.active.get?_same hsame, hactive] using hrow.give hlast hopen (w.queue ++ [j])

end Give

theorem give (h : c.InOrder submitted) {j : Job} {js : List Job} (hinbox : c.inbox = j :: js)
    (hactive : c.active.get? j.file = some n) :
    ({ c with inbox := js }.give n j).InOrder submitted := by
  obtain ⟨⟨w,hw,hopen⟩,-⟩ := (h.row j.file).active n hactive
  rw [give_eq (c := { c with inbox := js }) hw.1]
  have hminds := h.minds w hw.mem
  have hinHand (file : Path) : inHand file (c.workers.set n
      { w with queue := w.queue ++ [j], isOpen := !j.retires }) = inHand file c.workers :=
    inHand_set hw.1 rfl fun _ => rfl
  constructor
  case row => exact h.row_give hactive hw hopen
  case minds =>
    refine h.minds_set ⟨fun k hk => ?_,hminds.task,hminds.reads⟩
    rcases List.mem_append.mp hk with hk | hk
    · exact hminds.queue k hk
    · obtain rfl := List.mem_singleton.mp hk
      rw [Path.same_comm]
      exact hw.2
  case begun =>
    intro file
    change _ = jobsOf file c.begun ++ queued file (c.workers.set n _) ++ jobsOf file js
    rw [h.queued_give hactive hw, h.begun, hinbox, ← List.singleton_append, jobsOf_append]
    simp only [List.append_assoc]
  case finished =>
    intro file
    rw [hinHand]
    exact h.finished file
  case oneAtATime =>
    intro file
    rw [hinHand]
    exact h.oneAtATime file

theorem dispatch (h : c.InOrder submitted) (hdispatch : c.dispatch? = some c') :
    c'.InOrder submitted := by
  obtain ⟨j,js,hinbox,rfl⟩ := of_dispatch? hdispatch
  obtain ⟨hworker,hactive,hleft⟩ := h.forget.workerFor j.file
  exact hworker.give (hleft.trans hinbox) hactive

theorem move (h : c.InOrder submitted) {m : Move} (hmove : c.move? source m = some c') :
    c'.InOrder (submitted ++ m.event?.toList.map FileEvent.job) := by
  cases m with
  | submit event =>
    obtain rfl := Option.some.inj hmove
    exact h.submit event.job
  | dispatch => simpa [Move.event?] using h.dispatch hmove
  | start n => simpa [Move.event?] using h.start hmove
  | read n => simpa [Move.event?] using h.read hmove
  | finish n => simpa [Move.event?] using h.finish hmove
  | leave n => simpa [Move.event?] using h.leave hmove

end InOrder

end Crew

end SmaliNavigator
