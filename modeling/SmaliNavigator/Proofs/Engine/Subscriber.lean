import SmaliNavigator.Engine
import SmaliNavigator.Proofs.Index.Warnings

/-!
What someone knows who takes the updates of an engine: of each file the diagnostics that came last.
As long as no update is lost, that is what the index has, behind every event and for every file.

An event changes the diagnostics of its own file and of files that are marked as touched, and it
publishes all of them with what they are at its end.
-/

set_option autoImplicit false

namespace SmaliNavigator

/-- The last diagnostics of each file that some updates tell of. -/
abbrev View : Type := PathMap (List Diagnostic)

namespace View

/-- The view behind some more updates. -/
def tell (v : View) (us : List Update) : View :=
  us.foldl (fun v u => v.insert u.file u.diagnostics) v

/-- A file that no update tells of has no diagnostics. -/
def diagnosticsOf (v : View) (file : Path) : List Diagnostic := (v.get? file).getD []

theorem tell_append (v : View) (us vs : List Update) : v.tell (us ++ vs) = (v.tell us).tell vs :=
  List.foldl_append

/-- Where all updates of a file tell the same, it does not matter which of them is the last. -/
theorem get?_tell {us : List Update} {file : Path} {ds : List Diagnostic}
    (h : ∀ u ∈ us, u.file.same file = true → u.diagnostics = ds) (v : View) :
    (v.tell us).get? file = if us.any (·.file.same file) then some ds else v.get? file := by
  have hfold : v.tell us = (us.map fun u => (u.file,u.diagnostics)).foldl
      (fun v e => v.insert e.1 e.2) v := by rw [List.foldl_map]; rfl
  rw [hfold, PathMap.get?_foldl_insert_of_agree, List.any_map]
  · rfl
  · intro e he
    obtain ⟨u,hu,rfl⟩ := List.mem_map.mp he
    exact h u hu

theorem diagnosticsOf_tell_update (v : View) (ix : Index) (files : List Path) (file : Path) :
    (v.tell (files.map ix.update)).diagnosticsOf file =
      if files.any (·.same file) then ix.diagnosticsOf file else v.diagnosticsOf file := by
  have htold : ∀ u ∈ files.map ix.update, u.file.same file = true →
      u.diagnostics = ix.diagnosticsOf file := by
    intro u hu hs
    obtain ⟨f,_,rfl⟩ := List.mem_map.mp hu
    exact ix.diagnosticsOf_same hs
  unfold diagnosticsOf
  rw [get?_tell htold, List.any_map]
  change Option.getD (if files.any (·.same file) then _ else _) [] = _
  split <;> rfl

theorem diagnosticsOf_tell_all (ix : Index) (file : Path) :
    (tell ∅ (ix.filesWithDiagnostics.map fun (f,ds) => ⟨f,ds⟩)).diagnosticsOf file =
      ix.diagnosticsOf file := by
  have htold : ∀ u ∈ ix.filesWithDiagnostics.map fun (f,ds) => (⟨f,ds⟩ : Update),
      u.file.same file = true → u.diagnostics = ix.diagnosticsOf file := by
    intro u hu hs
    obtain ⟨⟨f,ds⟩,hmem,rfl⟩ := List.mem_map.mp hu
    have hget := (ix.diagnostics.get?_eq_some_iff file ds).mpr ⟨f,hs,hmem⟩
    simp [Index.diagnosticsOf, hget]
  unfold diagnosticsOf
  rw [get?_tell htold]
  split
  · rfl
  · next hno =>
    cases hget : ix.diagnostics.get? file with
    | none => simp [Index.diagnosticsOf, hget]
    | some ds =>
      obtain ⟨f,hs,hmem⟩ := (ix.diagnostics.get?_eq_some_iff file ds).mp hget
      refine absurd (List.any_eq_true.mpr ⟨⟨f,ds⟩,?_,hs⟩) hno
      exact List.mem_map.mpr ⟨(f,ds),hmem,rfl⟩

/-- The view is that of the index but for files that are touched. -/
def Follows (v : View) (ix : Index) : Prop :=
  ∀ file, ix.touched.contains file = false → v.diagnosticsOf file = ix.diagnosticsOf file

/-- The view is that of the index. -/
def Shows (v : View) (ix : Index) : Prop :=
  ∀ file, v.diagnosticsOf file = ix.diagnosticsOf file

theorem Follows.step {v : View} {ix jx : Index} {file : Path} (h : v.Follows ix)
    (hchanges : ix.ChangesMarked (·.same file) jx) : (v.tell [jx.update file]).Follows jx := by
  intro f hf
  have htell := v.diagnosticsOf_tell_update jx [file] f
  rw [List.map_singleton] at htell
  rw [htell]
  by_cases hs : file.same f = true
  · simp [hs]
  · have hbefore : ix.touched.contains f = false := by
      cases hi : ix.touched.contains f with
      | false => rfl
      | true => simp [hchanges.touched f hi] at hf
    rw [hchanges.diagnostics f (by rw [Path.same_comm]; simpa using hs) hf, ← h f hbefore]
    simp [hs]

theorem Follows.shows [FileOrder] {v : View} {ix : Index} (h : v.Follows ix) :
    (v.tell (ix.takeTouched.1.map ix.takeTouched.2.update)).Shows ix.takeTouched.2 := by
  intro f
  rw [diagnosticsOf_tell_update]
  split
  · rfl
  · next hno => exact h f (by rw [PathMap.contains_eq_any]; simpa [Index.takeTouched] using hno)

end View

/-! ### One job -/

theorem Index.changesMarked_load (ix : Index) (file : Path) (live? : Option LiveText) :
    ix.ChangesMarked (·.same file) (ix.load file live?) := by
  cases live? with
  | some live => exact ix.changesMarked_refresh file live.text live.version?
  | none => exact changesMarked_register _ ix file

theorem Job.shows_perform [FileOrder] {v : View} {ix : Index} (h : v.Shows ix) (j : Job)
    (source : Source) :
    (v.tell (j.perform source ix).2).Shows (j.perform source ix).1 := by
  have hfollows : v.Follows ix := fun file _ => h file
  obtain ⟨file,action⟩ := j
  cases action with
  | load given? =>
    have hload := ix.changesMarked_load file
      (given?.or ((Job.reads? ⟨file,.load given?⟩).bind fun f => (source.open? f).toOption))
    have hafter := (hfollows.step hload).shows
    rw [← View.tell_append] at hafter
    exact hafter
  | remove =>
    have hafter := (hfollows.step (ix.changesMarked_remove file)).shows
    rw [← View.tell_append] at hafter
    exact hafter
  | rename target =>
    have hload := (ix.remove file).changesMarked_load target (source.open? target).toOption
    have hafter := ((hfollows.step (ix.changesMarked_remove file)).step hload).shows
    rw [← View.tell_append, ← View.tell_append, ← List.append_assoc] at hafter
    exact hafter

/-! ### An engine and its subscriber -/

/-- An engine and the updates that a subscriber has taken from it. -/
structure Subscription where
  engine : Engine
  received : List Update

namespace Subscription

/-- An event is applied, with the files as they are then and in some order of those that are touched,
or the subscriber takes what waits. -/
inductive Turn where
  | apply [order : FileOrder] (source : Source) (event : FileEvent)
  | take

/-- The engine of a new index once it was started. -/
def start (config : Config) (source : Source) : Subscription :=
  ⟨(Engine.new (.new config)).start source,[]⟩

def turn (s : Subscription) : Turn → Subscription
  | @Turn.apply _ source event => { s with engine := s.engine.apply source event }
  | .take => ⟨s.engine.takeUpdates.2,s.received ++ s.engine.takeUpdates.1⟩

def run (s : Subscription) (turns : List Turn) : Subscription := turns.foldl turn s

/-- What the subscriber knows once it has taken what waits. -/
def view (s : Subscription) : View := View.tell ∅ (s.received ++ s.engine.updates)

/-- There is room for all updates that a turn publishes. -/
def HasRoom (s : Subscription) : Turn → Prop
  | @Turn.apply _ source event =>
    s.engine.updates.length + (event.job.perform source s.engine.index).2.length ≤
      Engine.updateCapacity
  | .take => True

/-- No update of these turns is lost. -/
def KeepsUp : Subscription → List Turn → Prop
  | _, [] => True
  | s, t :: ts => s.HasRoom t ∧ (s.turn t).KeepsUp ts

/-- The engine has nothing to do, and the subscriber knows what is wrong with all files. -/
structure Informed (s : Subscription) : Prop where
  running : s.engine.stopped = false
  settled : s.engine.queue = []
  shows : s.view.Shows s.engine.index

end Subscription

theorem Engine.updates_publish {e : Engine} {us : List Update}
    (h : e.updates.length + us.length ≤ updateCapacity) : (e.publish us).updates = e.updates ++ us := by
  have hnone : (e.updates ++ us).length - updateCapacity = 0 := by
    rw [List.length_append]
    omega
  unfold publish
  dsimp only
  rw [hnone, List.drop_zero]

theorem Engine.updates_start {e : Engine} (source : Source)
    (h : e.updates.length + (e.start source).index.filesWithDiagnostics.length ≤ updateCapacity) :
    (e.start source).updates = e.updates ++
      (e.start source).index.filesWithDiagnostics.map fun (f,ds) => ⟨f,ds⟩ :=
  Engine.updates_publish (e := { e with index := (e.start source).index })
    (by rw [List.length_map]; exact h)

theorem Engine.apply_of_settled [FileOrder] {e : Engine} (hrunning : e.stopped = false)
    (hsettled : e.queue = []) (source : Source) (event : FileEvent) :
    e.apply source event = e.run source event.job := by
  obtain ⟨ix,queue,workers,updates,stopped⟩ := e
  obtain rfl : queue = [] := hsettled
  obtain rfl : stopped = false := hrunning
  rfl

namespace Subscription

theorem informed_start (config : Config) (source : Source)
    (hroom : ((Engine.new (.new config)).start source).index.filesWithDiagnostics.length ≤
      Engine.updateCapacity) : (start config source).Informed where
  running := rfl
  settled := rfl
  shows file := by
    have hupdates := Engine.updates_start (e := .new (.new config)) source
      (by simpa [Engine.new] using hroom)
    have htold := View.diagnosticsOf_tell_all ((Engine.new (.new config)).start source).index file
    change (View.tell ∅ ([] ++ ((Engine.new (.new config)).start source).updates)).diagnosticsOf file = _
    rw [hupdates]
    exact htold

theorem Informed.turn {s : Subscription} (h : s.Informed) (t : Turn) (hroom : s.HasRoom t) :
    (s.turn t).Informed := by
  cases t with
  | take =>
    refine ⟨h.running,h.settled,?_⟩
    have hview : (s.turn .take).view = s.view := by simp [view, Subscription.turn, Engine.takeUpdates]
    rw [hview]
    exact h.shows
  | apply source event =>
    have happly := Engine.apply_of_settled h.running h.settled source event
    have hupdates : (s.engine.apply source event).updates =
        s.engine.updates ++ (event.job.perform source s.engine.index).2 := by
      rw [happly]
      exact Engine.updates_publish hroom
    have hindex : (s.engine.apply source event).index =
        (event.job.perform source s.engine.index).1 := by rw [happly]; rfl
    refine ⟨?_,?_,?_⟩
    · change (s.engine.apply source event).stopped = false
      rw [happly]
      exact h.running
    · change (s.engine.apply source event).queue = []
      rw [happly]
      exact h.settled
    · change (View.tell ∅ (s.received ++ (s.engine.apply source event).updates)).Shows
        (s.engine.apply source event).index
      rw [hupdates, hindex, ← List.append_assoc, View.tell_append]
      exact event.job.shows_perform h.shows source

theorem Informed.run {s : Subscription} (h : s.Informed) {turns : List Turn}
    (hkeeps : s.KeepsUp turns) : (s.run turns).Informed := by
  induction turns generalizing s with
  | nil => exact h
  | cons t ts ih => exact ih (h.turn t hkeeps.1) hkeeps.2

/-- The last updates of all files are what is wrong with them, and a file without one has nothing
wrong, at the start and behind any events that are waited for. -/
theorem view_eq_diagnosticsOf (config : Config) (source : Source) (turns : List Turn)
    (hroom : ((Engine.new (.new config)).start source).index.filesWithDiagnostics.length ≤
      Engine.updateCapacity)
    (hkeeps : (start config source).KeepsUp turns) (file : Path) :
    ((start config source).run turns).view.diagnosticsOf file =
      ((start config source).run turns).engine.index.diagnosticsOf file :=
  ((informed_start config source hroom).run hkeeps).shows file

/-- Of three files with the same class the first one is renamed. The warnings of the other two change
with it, and the subscriber is told of both. -/
theorem view_eq_diagnosticsOf_renamed :
    let a := Path.ofString "A.smali"
    let b := Path.ofString "B.smali"
    let c := Path.ofString "C.smali"
    let text : LiveText := ⟨".class La;\n.super Lb;\n",none⟩
    let others := (MemoryProject.empty.put b text).put c text
    let renamed := others.put (.ofString "D.smali") ⟨".class Ld;\n.super La;\n",none⟩
    let turns := [.take,Turn.apply renamed.source (.renamed a (.ofString "D.smali"))]
    let first := start .default (others.put a text).source
    ((Engine.new (.new .default)).start (others.put a text).source).index.filesWithDiagnostics.length ≤
      Engine.updateCapacity ∧
    first.KeepsUp turns ∧
    (∀ file, (first.run turns).view.diagnosticsOf file =
      (first.run turns).engine.index.diagnosticsOf file) ∧
    first.view.diagnosticsOf c = [⟨.within 0 7 10,.declaredTwice "a" ["A.smali","B.smali"]⟩] ∧
    (first.run turns).view.diagnosticsOf c = [⟨.within 0 7 10,.declaredTwice "a" ["B.smali"]⟩] := by
  intro a b c text others renamed turns first
  have hroom : ((Engine.new (.new .default)).start
      (others.put a text).source).index.filesWithDiagnostics.length ≤ Engine.updateCapacity := by
    decide +kernel
  have hevent : (first.turn .take).HasRoom (.apply renamed.source (.renamed a (.ofString "D.smali"))) := by
    unfold HasRoom
    decide +kernel
  have hkeeps : first.KeepsUp turns := ⟨trivial,hevent,trivial⟩
  exact ⟨hroom,hkeeps,view_eq_diagnosticsOf .default _ turns hroom hkeeps,
    by decide +kernel,by decide +kernel⟩

end Subscription

end SmaliNavigator
