import SmaliNavigator.Proofs.Engine.Ordering
import SmaliNavigator.Proofs.Index.Independence

/-!
Jobs of two files that meet in one entry. A rename is a job of the old path, and it gives the new path
the text that it read. The worker of the new path does not wait for it, so that an edit of the new
path may be done between the reading and the end of the rename, although it came later.
-/

set_option autoImplicit false

namespace SmaliNavigator

theorem FilePart.entry_refresh (p : FilePart) (file : Path) (s : Stamp) :
    (p.refresh file s).entry = p.entry.takeNew s := by
  unfold refresh FileEntry.takeNew
  split <;> rfl

namespace FileEntry

/-- The entry once the file is given a text, if there is one. -/
def given (e : FileEntry) : Option LiveText → FileEntry
  | none => e
  | some live => e.takeNew ⟨live.version?,live.text⟩

theorem take_of_no_version (e : FileEntry) (text : String) :
    e.take ⟨none,text⟩ = ⟨e.state.after text,some ⟨none,text⟩⟩ := by
  unfold FileEntry.take
  cases e.stamp? <;> rfl

/-- A text without a version takes the place of the last one, unless that is the same text with a
version. -/
theorem takeNew_eq_take_of_no_version {e : FileEntry} (h : e.Settled) (text : String) :
    e.takeNew ⟨none,text⟩ = e.take ⟨none,text⟩ ↔
      ∀ r, e.stamp? = some r → r.text = text → r.version? = none := by
  rw [takeNew_eq_take_iff h]
  exact forall₂_congr fun r _ => ⟨fun hsame htext => (hsame rfl htext.symm).symm,
    fun hsame _ htext => (hsame htext.symm).symm⟩

theorem exists_stamp_takeNew (e : FileEntry) (text : String) :
    ∃ r, (e.takeNew ⟨none,text⟩).stamp? = some r ∧ r.text = text := by
  unfold takeNew
  cases hr : e.stamp? with
  | none => exact ⟨⟨none,text⟩,rfl,rfl⟩
  | some r =>
    by_cases htext : r.text = text
    · exact ⟨r,by simp [hr, htext],htext⟩
    · have hold : Stamp.isOlderThan ⟨none,text⟩ r = false := rfl
      exact ⟨⟨none,text⟩,by simp [hold, htext],rfl⟩

/-- What is given behind a text without a version leaves it exactly if it is nothing or the same text. -/
theorem given_takeNew_eq_take_iff {e : FileEntry} (text : String) (live? : Option LiveText) :
    (e.takeNew ⟨none,text⟩).given live? = e.take ⟨none,text⟩ ↔
      e.takeNew ⟨none,text⟩ = e.take ⟨none,text⟩ ∧ ∀ live, live? = some live → live.text = text := by
  obtain ⟨r,hr,htext⟩ := e.exists_stamp_takeNew text
  cases live? with
  | none => simp [given]
  | some live =>
    simp only [given, Option.some.injEq, forall_eq']
    by_cases hsame : live.text = text
    · have hkept : (e.takeNew ⟨none,text⟩).takeNew ⟨live.version?,live.text⟩ =
          e.takeNew ⟨none,text⟩ := by
        rw [takeNew, hr, if_pos (by simp [htext, hsame])]
      rw [hkept]
      simp [hsame]
    · simp only [hsame, and_false, iff_false]
      intro heq
      rw [takeNew, hr] at heq
      split at heq
      · next hdropped =>
        -- the text could only be dropped as an older one, and then the last one has a version
        have hold : Stamp.isOlderThan ⟨live.version?,live.text⟩ r = true := by
          simpa [htext, Ne.symm hsame] using hdropped
        rw [heq, take_of_no_version] at hr
        obtain rfl := Option.some.inj hr
        simp [Stamp.isOlderThan] at hold
      · rw [take_of_no_version] at heq
        simp only [FileEntry.mk.injEq, Option.some.injEq, Stamp.mk.injEq] at heq
        exact hsame heq.2.2

theorem stamp?_given_take (e : FileEntry) {text : String} {live : LiveText}
    (h : live.text ≠ text) :
    ((e.take ⟨none,text⟩).given (some live)).stamp? = some ⟨live.version?,live.text⟩ := by
  have hold : Stamp.isOlderThan ⟨live.version?,live.text⟩ ⟨none,text⟩ = false := by
    cases live.version? <;> rfl
  simp [take_of_no_version, given, takeNew, hold, Ne.symm h]

end FileEntry

namespace Index

variable {ix : Index}

theorem Reachable.load (h : Reachable ix) (file : Path) (live? : Option LiveText) :
    Reachable (ix.load file live?) := by
  cases live? with
  | none => exact h.call (.register file)
  | some live => exact h.call (.refresh file live.text live.version?)

theorem Reachable.takeTouched [FileOrder] (h : Reachable ix) : Reachable ix.takeTouched.2 :=
  h.step ⟨MemoryProject.empty.source,.never⟩ .takeTouched

theorem Reachable.entryOf_load (h : Reachable ix) (file : Path) (live? : Option LiveText)
    (g : Path) :
    (ix.load file live?).entryOf g =
      if file.same g then (ix.entryOf g).given live? else ix.entryOf g := by
  cases live? with
  | none =>
    have hpart := congrArg FilePart.entry (ix.partOf_register file g)
    split at hpart
    · next hs =>
      rw [if_pos hs]
      refine hpart.trans ?_
      rw [← entry_partOf]
      cases hentry : (ix.partOf g).known? <;> simp [FilePart.call, FilePart.entry, hentry, FileEntry.given]
    · next hs =>
      rw [if_neg hs]
      exact hpart
  | some live =>
    have hpart := congrArg FilePart.entry (h.partOf_refresh file ⟨live.version?,live.text⟩ g)
    split at hpart
    · next hs =>
      rw [if_pos hs]
      exact hpart.trans (FilePart.entry_refresh _ file _)
    · next hs =>
      rw [if_neg hs]
      exact hpart

theorem entryOf_remove (ix : Index) (file g : Path) :
    (ix.remove file).entryOf g = if file.same g then .unread else ix.entryOf g := by
  unfold entryOf
  rw [remove_eq, Path.same_comm]
  simp only [files_removeEntry, PathMap.get?_erase]
  split <;> rfl

end Index

namespace Job

/-- Whether the job takes a file out of the index before it reads. -/
def clears (j : Job) (file : Path) : Bool := j.retires && j.file.same file

/-- Whether the job gives a file a text behind the reading. -/
def fills (j : Job) (file : Path) : Bool :=
  match j.action with
  | .load _ => j.file.same file
  | .remove => false
  | .rename target => target.same file

/-- The text that the job gives, with what it read. -/
def text? (j : Job) (live? : Option LiveText) : Option LiveText :=
  match j.action with
  | .load given? => given?.or live?
  | .remove => none
  | .rename _ => live?

variable {ix : Index}

theorem reachable_begin (h : ix.Reachable) (j : Job) : (j.begin ix).1.Reachable := by
  obtain ⟨file,action⟩ := j
  cases action with
  | load given? => exact h
  | remove => exact h.call (.remove file)
  | rename target => exact h.call (.remove file)

theorem reachable_finish [FileOrder] (h : ix.Reachable) (j : Job) (live? : Option LiveText) :
    (j.finish live? ix).1.Reachable := by
  obtain ⟨file,action⟩ := j
  cases action with
  | load given? => exact (h.load file (given?.or live?)).takeTouched
  | remove => exact h.takeTouched
  | rename target => exact (h.load target live?).takeTouched

theorem entryOf_begin (j : Job) (ix : Index) (g : Path) :
    (j.begin ix).1.entryOf g = if j.clears g then .unread else ix.entryOf g := by
  obtain ⟨file,action⟩ := j
  cases action with
  | load given? => rfl
  | remove => exact ix.entryOf_remove file g
  | rename target => exact ix.entryOf_remove file g

theorem entryOf_finish [FileOrder] (h : ix.Reachable) (j : Job) (live? : Option LiveText)
    (g : Path) :
    (j.finish live? ix).1.entryOf g =
      if j.fills g then (ix.entryOf g).given (j.text? live?) else ix.entryOf g := by
  obtain ⟨file,action⟩ := j
  cases action with
  | load given? => exact h.entryOf_load file (given?.or live?) g
  | remove => rfl
  | rename target => exact h.entryOf_load target live? g

/-- The job gives a file the text of an editor, without a version. -/
def IsEdit (j : Job) (file : Path) (text : String) : Prop :=
  j.file.same file = true ∧ j.action = .load (some ⟨text,none⟩)

/-- The job gives a file the text that it reads, in the place of another file. -/
def IsRenameTo (j : Job) (file : Path) : Prop :=
  ∃ target : Path, target.same file = true ∧ j.action = .rename target

theorem IsEdit.fills {j : Job} {file : Path} {text : String} (h : j.IsEdit file text)
    (live? : Option LiveText) : j.fills file = true ∧ j.text? live? = some ⟨text,none⟩ := by
  obtain ⟨hfile,haction⟩ := h
  simp [Job.fills, text?, haction, hfile]

theorem IsRenameTo.fills {j : Job} {file : Path} (h : j.IsRenameTo file) (live? : Option LiveText) :
    j.fills file = true ∧ j.text? live? = live? := by
  obtain ⟨target,htarget,haction⟩ := h
  simp [Job.fills, text?, haction, htarget]

end Job

namespace Crew

variable {c c' : Crew} {source : Source} {order : FileOrder}

theorem dispatch?_frame (h : c.dispatch? = some c') :
    c'.index = c.index ∧ c'.begun = c.begun ∧ c'.finished = c.finished := by
  obtain ⟨j,js,-,rfl⟩ := of_dispatch? h
  have hhired : ({ c with retired := c.stillRetiring }.workerFor j.file).2.index = c.index ∧
      ({ c with retired := c.stillRetiring }.workerFor j.file).2.begun = c.begun ∧
      ({ c with retired := c.stillRetiring }.workerFor j.file).2.finished = c.finished := by
    unfold workerFor
    split <;> exact ⟨rfl,rfl,rfl⟩
  generalize { c with retired := c.stillRetiring }.workerFor j.file = hired at hhired
  dsimp only
  cases hw : { hired.2 with inbox := js }.workers[hired.1]? with
  | none =>
    rw [give, hw]
    exact hhired
  | some w =>
    rw [give_eq hw]
    exact hhired

/-- A move does something to the index where a job is begun or finished, and nothing else. -/
theorem move_cases {m : Move} (h : c.move? source m = some c') :
    (c'.index = c.index ∧ c'.begun = c.begun ∧ c'.finished = c.finished) ∨
    (∃ j, c'.index = (j.begin c.index).1 ∧ c'.begun = c.begun ++ [j] ∧ c'.finished = c.finished) ∨
    ∃ t : Task, c'.index = (t.job.finish t.live? c.index).1 ∧ c'.begun = c.begun ∧
      c'.finished = c.finished ++ [t.job] := by
  cases m with
  | submit event =>
    obtain rfl := Option.some.inj h
    exact .inl ⟨rfl,rfl,rfl⟩
  | dispatch => exact .inl (dispatch?_frame h)
  | start n =>
    obtain ⟨w,j,js,-,-,-,-,rfl⟩ := of_start? h
    exact .inr (.inl ⟨j,rfl,rfl,rfl⟩)
  | read n =>
    obtain ⟨w,t,f,-,-,-,rfl⟩ := of_read? h
    exact .inl ⟨rfl,rfl,rfl⟩
  | finish n =>
    obtain ⟨w,t,-,-,-,rfl⟩ := of_finish? h
    exact .inr (.inr ⟨t,rfl,rfl,rfl⟩)
  | leave n =>
    obtain ⟨w,-,-,-,-,-,-,rfl⟩ := of_leave? h
    exact .inl ⟨rfl,rfl,rfl⟩

theorem Course.reachable {moves : List Move} (h : Course c moves c') (hc : c.index.Reachable) :
    c'.index.Reachable := by
  induction h with
  | nil => exact hc
  | cons hm _ ih =>
    refine ih ?_
    rcases move_cases hm with ⟨hindex,-⟩ | ⟨j,hindex,-⟩ | ⟨t,hindex,-⟩
    · exact hindex ▸ hc
    · exact hindex ▸ j.reachable_begin hc
    · exact hindex ▸ t.job.reachable_finish hc t.live?

/-- The jobs that are begun and finished on a course, and that the entry of a file stays as it is if
none of them is about the file. -/
theorem Course.grows {moves : List Move} (h : Course c moves c') (hc : c.index.Reachable)
    (file : Path) :
    ∃ begun finished, c'.begun = c.begun ++ begun ∧ c'.finished = c.finished ++ finished ∧
      ((∀ j ∈ begun, j.clears file = false) → (∀ j ∈ finished, j.fills file = false) →
        c'.index.entryOf file = c.index.entryOf file) := by
  induction h with
  | nil => exact ⟨[],[],by simp,by simp,fun _ _ => rfl⟩
  | @cons c c₁ c' _ _ _ _ hm _ ih =>
    rcases move_cases hm with ⟨hindex,hbegun,hfinished⟩ | ⟨j,hindex,hbegun,hfinished⟩ |
      ⟨t,hindex,hbegun,hfinished⟩
    · obtain ⟨bs,fs,hbs,hfs,hsame⟩ := ih (hindex ▸ hc)
      refine ⟨bs,fs,by rw [hbs, hbegun],by rw [hfs, hfinished],fun hb hf => ?_⟩
      rw [hsame hb hf, hindex]
    · obtain ⟨bs,fs,hbs,hfs,hsame⟩ := ih (hindex ▸ j.reachable_begin hc)
      refine ⟨j :: bs,fs,by rw [hbs, hbegun]; simp,by rw [hfs, hfinished],fun hb hf => ?_⟩
      rw [hsame (fun k hk => hb k (by simp [hk])) hf, hindex, Job.entryOf_begin,
        hb j (by simp)]
      rfl
    · obtain ⟨bs,fs,hbs,hfs,hsame⟩ := ih (hindex ▸ t.job.reachable_finish hc t.live?)
      refine ⟨bs,t.job :: fs,by rw [hbs, hbegun],by rw [hfs, hfinished]; simp,fun hb hf => ?_⟩
      rw [hsame hb (fun k hk => hf k (by simp [hk])), hindex, Job.entryOf_finish hc,
        hf t.job (by simp)]
      rfl

/-- The crew goes on, and what it begins and finishes is not about the file. -/
def GoesOnWithout (file : Path) (c c' : Crew) : Prop :=
  ∃ moves begun finished, Course c moves c' ∧ c'.begun = c.begun ++ begun ∧
    c'.finished = c.finished ++ finished ∧ (∀ j ∈ begun, j.clears file = false) ∧
    ∀ j ∈ finished, j.fills file = false

theorem GoesOnWithout.entryOf {file : Path} (h : GoesOnWithout file c c') (hc : c.index.Reachable) :
    c'.index.entryOf file = c.index.entryOf file := by
  obtain ⟨moves,begun,finished,hcourse,hbegun,hfinished,hb,hf⟩ := h
  obtain ⟨bs,fs,hbs,hfs,hsame⟩ := hcourse.grows hc file
  obtain rfl := List.append_cancel_left (hbegun.symm.trans hbs)
  obtain rfl := List.append_cancel_left (hfinished.symm.trans hfs)
  exact hsame hb hf

theorem GoesOnWithout.reachable {file : Path} (h : GoesOnWithout file c c')
    (hc : c.index.Reachable) : c'.index.Reachable := by
  obtain ⟨_,_,_,hcourse,-⟩ := h
  exact hcourse.reachable hc

/-- A worker finishes what it has in hand. -/
def Finishes (t : Task) (c c' : Crew) : Prop :=
  ∃ (_ : FileOrder) (n : Nat) (w : Worker),
    c.workers[n]? = some w ∧ w.task? = some t ∧ c.finish? n = some c'

theorem Finishes.index {t : Task} (h : Finishes t c c') :
    ∃ _ : FileOrder, c'.index = (t.job.finish t.live? c.index).1 := by
  obtain ⟨order,n,w,hw,ht,hfinish⟩ := h
  obtain ⟨w',t',hw',ht',-,rfl⟩ := of_finish? hfinish
  obtain rfl := Option.some.inj (hw.symm.trans hw')
  obtain rfl := Option.some.inj (ht.symm.trans ht')
  exact ⟨order,rfl⟩

theorem Finishes.reachable {t : Task} (h : Finishes t c c') (hc : c.index.Reachable) :
    c'.index.Reachable := by
  obtain ⟨order,hindex⟩ := h.index
  exact hindex ▸ t.job.reachable_finish hc t.live?

theorem Finishes.entryOf {t : Task} (h : Finishes t c c') (hc : c.index.Reachable) {file : Path}
    (hfills : t.job.fills file = true) :
    c'.index.entryOf file = (c.index.entryOf file).given (t.job.text? t.live?) := by
  obtain ⟨order,hindex⟩ := h.index
  rw [hindex, Job.entryOf_finish hc, if_pos hfills]

end Crew

namespace Crew

variable {a b c d e : Crew} {t u : Task} {target : Path} {text : String}

/-- A file is edited and another one renamed to it, and nothing else is done to it from the first of
the two to the end. Behind both the entry is the one that the edit makes of what it found exactly if
the edit is not the text that the file already has with a version, and the rename is finished first
or has read nothing or the same text. The rename that is finished last puts any other text that it
read in the place of the edit, whichever of them was submitted first. -/
theorem entryOf_renamed_and_edited {ix : Index} (hix : ix.Reachable) {moves : List Move}
    (hstart : Course (new ix) moves a) (hfirst : Finishes t a b) (hbetween : GoesOnWithout target b c)
    (hsecond : Finishes u c d) (hend : GoesOnWithout target d e) :
    (t.job.IsRenameTo target → u.job.IsEdit target text →
      (e.index.entryOf target = (c.index.entryOf target).take ⟨none,text⟩ ↔
        ∀ r, (c.index.entryOf target).stamp? = some r → r.text = text → r.version? = none)) ∧
    (t.job.IsEdit target text → u.job.IsRenameTo target →
      (e.index.entryOf target = (a.index.entryOf target).take ⟨none,text⟩ ↔
        (∀ r, (a.index.entryOf target).stamp? = some r → r.text = text → r.version? = none) ∧
          ∀ live, u.live? = some live → live.text = text) ∧
      ∀ live, b.index.entryOf target = (a.index.entryOf target).take ⟨none,text⟩ →
        u.live? = some live → live.text ≠ text →
          (e.index.entryOf target).stamp? = some ⟨live.version?,live.text⟩) := by
  have ha := hstart.reachable hix
  have hb := hfirst.reachable ha
  have hc := hbetween.reachable hb
  have hd := hsecond.reachable hc
  have hlast : e.index.entryOf target = d.index.entryOf target := hend.entryOf hd
  have hkept : c.index.entryOf target = b.index.entryOf target := hbetween.entryOf hb
  refine ⟨fun _ hedit => ?_,fun hedit hrename => ?_⟩
  · obtain ⟨hfills,htext⟩ := hedit.fills u.live?
    have hsettled := (Index.invariant_stamped.of_reachable hc target).settled
    rw [hlast, hsecond.entryOf hc hfills, htext]
    exact FileEntry.takeNew_eq_take_of_no_version hsettled text
  · obtain ⟨hfills,htext⟩ := hedit.fills t.live?
    obtain ⟨hfills',hread⟩ := hrename.fills u.live?
    have hedited : b.index.entryOf target = (a.index.entryOf target).takeNew ⟨none,text⟩ := by
      rw [hfirst.entryOf ha hfills, htext]
      rfl
    rw [hlast, hsecond.entryOf hc hfills', hread, hkept]
    refine ⟨?_,fun live htaken hlive hother => ?_⟩
    · rw [hedited, FileEntry.given_takeNew_eq_take_iff, FileEntry.takeNew_eq_take_of_no_version
        (Index.invariant_stamped.of_reachable ha target).settled]
    · rw [htaken, hlive]
      exact FileEntry.stamp?_given_take _ hother

/-- `A` is renamed to `B`, and `B` is edited while `B` has been read for the rename. -/
def renameUnderWay : List Move :=
  let a := Path.ofString "A.smali"
  let b := Path.ofString "B.smali"
  [.submit (.renamed a b),.submit (.changed b (some ⟨".class Lc;\n.super Lb;\n",none⟩)),.dispatch,
    .dispatch,.start 0,.read 0,.start 1]

/-- The rename is finished first, so that the edit counts. -/
theorem entryOf_renamed_and_edited_in_order :
    let b := Path.ofString "B.smali"
    let source := (MemoryProject.empty.put b ⟨".class La;\n.super Lb;\n",none⟩).source
    ∃ c d e, (new (.new .default)).run? source renameUnderWay = some c ∧ c.finish? 0 = some d ∧
      d.finish? 1 = some e ∧ d.index.identifierOf? b = some "La;" ∧
      e.index.entryOf b = (d.index.entryOf b).take ⟨none,".class Lc;\n.super Lb;\n"⟩ := by
  intro b source
  have hruns : ((new (.new .default)).run? source renameUnderWay).any (fun c =>
      (c.finish? 0).any fun d => (d.finish? 1).isSome &&
        (c.workers[0]?.bind (·.task?)) ==
          some ⟨⟨.ofString "A.smali",.rename b⟩,true,some ⟨".class La;\n.super Lb;\n",none⟩⟩ &&
        (d.workers[1]?.bind (·.task?)) ==
          some ⟨⟨b,.load (some ⟨".class Lc;\n.super Lb;\n",none⟩)⟩,true,none⟩ &&
        d.index.identifierOf? b == some "La;" &&
        (d.index.entryOf b).stamp?.all (·.text != ".class Lc;\n.super Lb;\n")) = true := by
    decide +kernel
  obtain ⟨c,hc,hruns⟩ := (Option.any_eq_true _ _).mp hruns
  obtain ⟨d,hd,hruns⟩ := (Option.any_eq_true _ _).mp hruns
  simp only [Bool.and_eq_true, beq_iff_eq] at hruns
  obtain ⟨⟨⟨⟨he,ht⟩,hu⟩,hid⟩,htext⟩ := hruns
  obtain ⟨e,he⟩ := Option.isSome_iff_exists.mp he
  obtain ⟨v,hv,ht⟩ := Option.bind_eq_some_iff.mp ht
  obtain ⟨w,hw,hu⟩ := Option.bind_eq_some_iff.mp hu
  have hquiet (x : Crew) : GoesOnWithout b x x :=
    ⟨[],[],[],.nil x,(List.append_nil _).symm,(List.append_nil _).symm,by simp,by simp⟩
  have hentry := (entryOf_renamed_and_edited (.new .default) (course_of_run? hc)
    ⟨.byPath,0,v,hv,ht,hd⟩ (hquiet d) ⟨.byPath,1,w,hw,hu,he⟩ (hquiet e)).1
    ⟨b,b.same_refl,rfl⟩ ⟨b.same_refl,rfl⟩
  refine ⟨c,d,e,hc,hd,he,hid,hentry.mpr fun r hr hsame => ?_⟩
  rw [hr] at htext
  simp [hsame] at htext

/-- The edit is finished first, and the file ends with the text that was read before it. Nor does the
edit count behind a rename that has read the same text with a version: what is typed next is dropped. -/
theorem entryOf_renamed_over_edit :
    let a := Path.ofString "A.smali"
    let b := Path.ofString "B.smali"
    let source (version? : Option Int) :=
      (MemoryProject.empty.put b ⟨".class La;\n.super Lb;\n",version?⟩).source
    let edit (text : String) (version? : Option Int) := Move.submit (.changed b (some ⟨text,version?⟩))
    (∃ c, (new (.new .default)).run? (source none)
        (renameUnderWay ++ [.finish 1,.finish 0,.leave 0]) = some c ∧ c.IsIdle (source none) ∧
      c.finished = [⟨b,.load (some ⟨".class Lc;\n.super Lb;\n",none⟩)⟩,⟨a,.rename b⟩] ∧
      c.index.entryOf b = ⟨.parsed "La;" ".class La;\n.super Lb;\n",
        some ⟨none,".class La;\n.super Lb;\n"⟩⟩) ∧
    ∃ c d, (new (.new .default)).run? (source (some 5)) [.submit (.renamed a b),.dispatch,.start 0,
        .read 0,.finish 0,.leave 0,edit ".class La;\n.super Lb;\n" none,.dispatch,.start 1,
        .finish 1] = some c ∧ c.IsIdle (source (some 5)) ∧
      (c.index.entryOf b).stamp? = some ⟨some 5,".class La;\n.super Lb;\n"⟩ ∧
      c.run? (source (some 5)) [edit ".class Lc;\n.super Lb;\n" (some 1),.dispatch,.start 1,
        .finish 1] = some d ∧ d.index.identifierOf? b = some "La;" := by
  intro a b source edit
  constructor
  · have hruns : ((new (.new .default)).run? (source none)
        (renameUnderWay ++ [.finish 1,.finish 0,.leave 0])).any (fun c => c.IsIdle (source none) ∧
        c.finished = [⟨b,.load (some ⟨".class Lc;\n.super Lb;\n",none⟩)⟩,⟨a,.rename b⟩] ∧
        c.index.entryOf b = ⟨.parsed "La;" ".class La;\n.super Lb;\n",
          some ⟨none,".class La;\n.super Lb;\n"⟩⟩) = true := by decide +kernel
    obtain ⟨c,hc,hruns⟩ := (Option.any_eq_true _ _).mp hruns
    exact ⟨c,hc,of_decide_eq_true hruns⟩
  · have hruns : ((new (.new .default)).run? (source (some 5)) [.submit (.renamed a b),.dispatch,
        .start 0,.read 0,.finish 0,.leave 0,edit ".class La;\n.super Lb;\n" none,.dispatch,.start 1,
        .finish 1]).any (fun c => c.IsIdle (source (some 5)) ∧
        (c.index.entryOf b).stamp? = some ⟨some 5,".class La;\n.super Lb;\n"⟩ ∧
        (c.run? (source (some 5)) [edit ".class Lc;\n.super Lb;\n" (some 1),.dispatch,.start 1,
          .finish 1]).any (fun d => d.index.identifierOf? b = some "La;") = true) = true := by
      decide +kernel
    obtain ⟨c,hc,hruns⟩ := (Option.any_eq_true _ _).mp hruns
    obtain ⟨hidle,hstamp,hruns⟩ := of_decide_eq_true hruns
    obtain ⟨d,hd,hid⟩ := (Option.any_eq_true _ _).mp hruns
    exact ⟨c,d,hc,hidle,hstamp,hd,of_decide_eq_true hid⟩

end Crew

end SmaliNavigator
