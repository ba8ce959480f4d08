import SmaliNavigator.Proofs.Index.Currency
import SmaliNavigator.Proofs.Query.Answers

/-!
Loading a project. Where every file is read at the start and the loading is not called off, the index
is complete behind it: each file either was read from the text that it has, or cannot be read.
-/

set_option autoImplicit false

namespace SmaliNavigator

theorem FileState.after_ne_unparsed (state : FileState) (text : String) :
    state.after text ≠ .unparsed := by
  unfold after
  split <;> simp

namespace Index

/-- What loading keeps up: no file has anything but its own text, and one without a text that is known
cannot be read. -/
structure TakenIn (ix : Index) (source : Source) : Prop where
  upToDate : ix.UpToDate source
  unread : ∀ file, ix.files.contains file = true → ix.stateOf file = .unparsed →
    ∃ e, source.open? file = .error e

theorem takenIn_new (config : Config) {source : Source} (h : source.IgnoresSpelling) :
    (Index.new config).TakenIn source where
  upToDate := ⟨h,fun _ => rfl⟩
  unread file hfile := by simp [new] at hfile

theorem TakenIn.congr {ix jx : Index} {source : Source} (h : ix.TakenIn source)
    (hf : jx.files = ix.files) : jx.TakenIn source where
  upToDate := h.upToDate.congr hf
  unread file := by simpa [stateOf, hf] using h.unread file

theorem TakenIn.register {ix : Index} {source : Source} (h : ix.TakenIn source) {file : Path}
    {e : Failure} (hopen : source.open? file = .error e) : (ix.register file).TakenIn source where
  upToDate := h.upToDate.register file
  unread f := by
    unfold Index.register
    split
    · exact h.unread f
    · intro hknown hstate
      by_cases hs : f.same file = true
      · cases hf : source.open? f with
        | error e' => exact ⟨e',rfl⟩
        | ok live => simp [h.upToDate.spelling f file live hs hf] at hopen
      · refine h.unread f ?_ ?_
        · simpa [PathMap.contains_insert, hs] using hknown
        · simpa [stateOf, PathMap.get?_insert, hs] using hstate

theorem TakenIn.refresh {ix : Index} {source : Source} (h : ix.TakenIn source) {file : Path}
    {live : LiveText} (hopen : source.open? file = .ok live) :
    (ix.refresh file live.text live.version?).2.TakenIn source where
  upToDate := h.upToDate.refresh hopen
  unread f := by
    rcases ix.files_refresh_cases file live.text live.version? with hf | hf
    · simpa [stateOf, hf] using h.unread f
    · intro hknown hstate
      by_cases hs : f.same file = true
      · have hafter : (ix.stateOf file).after live.text = .unparsed := by
          simpa [stateOf, hf, PathMap.get?_insert, hs] using hstate
        exact absurd hafter (FileState.after_ne_unparsed _ _)
      · refine h.unread f ?_ ?_
        · simpa [hf, PathMap.contains_insert, hs] using hknown
        · simpa [stateOf, hf, PathMap.get?_insert, hs] using hstate

theorem config_register (ix : Index) (file : Path) : (ix.register file).config = ix.config := by
  unfold register
  split <;> rfl

theorem config_refresh (ix : Index) (file : Path) (text : String) (version? : Option Int) :
    (ix.refresh file text version?).2.config = ix.config := by
  rcases ix.snd_refresh_cases file text version? with heq | heq | heq
  · rw [heq]
  · rw [heq, config_materialize]
  · rw [heq]
    unfold parse
    split
    · exact config_accept ix file _ _
    · rfl

theorem ready_refresh (ix : Index) (file : Path) (text : String) (version? : Option Int) :
    (ix.refresh file text version?).2.ready = ix.ready := by
  rcases ix.snd_refresh_cases file text version? with heq | heq | heq
  · rw [heq]
  · rw [heq, ready_materialize]
  · rw [heq]
    unfold parse
    split
    · exact ready_accept ix file _ _
    · rfl

theorem lasting_ready : Lasting fun ix => ix.ready = true where
  markReady _ := rfl
  register {ix} file h := by
    unfold register
    split <;> exact h
  refresh file text version? h := (ready_refresh _ file text version?).trans h
  consult _ h := h
  materialize file h := (ready_materialize _ file _).trans h

theorem TakenIn.complete {ix : Index} {source : Source} (h : ix.TakenIn source) (hix : ix.Reachable)
    (hready : ix.ready = true) : ix.Complete source where
  reachable := hix
  ready := hready
  unread file hfile := h.unread file (PathMap.contains_of_mem_files hfile)
  live file _ _ ht := (h.upToDate.fresh file).of_goodText? (ix.stateOf_eq file ▸ ht)

/-- What loading does with a file. -/
def takeIn (source : Source) (ix : Index) (file : Path) : Index :=
  match ix.config.preload, source.open? file with
  | true, .ok live => (ix.refresh file live.text live.version?).2
  | _, _ => ix.register file

theorem config_takeIn (source : Source) (ix : Index) (file : Path) :
    (ix.takeIn source file).config = ix.config := by
  unfold takeIn
  split
  · exact config_refresh ix file _ _
  · exact config_register ix file

theorem TakenIn.takeIn {ix : Index} {source : Source} (h : ix.TakenIn source)
    (hpreload : ix.config.preload = true) (file : Path) : (ix.takeIn source file).TakenIn source := by
  unfold Index.takeIn
  rw [hpreload]
  cases hopen : source.open? file with
  | error e => exact h.register hopen
  | ok live => exact h.refresh hopen

end Index

namespace Query

theorem run_loadFiles {s : Surroundings} (hnever : s.cancellation = .never) (files : List Path)
    (a : Activity) :
    ∃ b, (loadFiles files).run s a = (some (),b) ∧
      b.index = files.foldl (Index.takeIn s.source) a.index := by
  induction files generalizing a with
  | nil => exact ⟨a,rfl,rfl⟩
  | cons f fs ih =>
    unfold loadFiles
    rw [run_bind, run_isCalledOff_never hnever]
    dsimp only
    rw [if_neg (by simp), run_bind, run_getIndex]
    dsimp only
    rw [List.foldl_cons]
    unfold Index.takeIn
    cases hpreload : a.index.config.preload with
    | false => exact ih { a with index := a.index.register f, looks := a.looks + 1 }
    | true =>
      rw [if_pos rfl, run_bind, run_openFile]
      dsimp only
      cases hopen : s.source.open? f with
      | error e => exact ih ⟨a.index.register f,a.looks + 1,a.reads + 1⟩
      | ok live => exact ih ⟨(a.index.refresh f live.text live.version?).2,a.looks + 1,a.reads + 1⟩

theorem snd_ask_load {s : Surroundings} (hnever : s.cancellation = .never) (ix : Index) :
    (Operation.load.query.ask s ix).2 =
      ((s.source.list.toOption.getD []).foldl (Index.takeIn s.source) ix).markReady := by
  have hread (f : Surroundings → Query (Except Failure Unit)) (a : Activity) :
    (MonadReader.read >>= f).run s a = (f s).run s a := rfl
  have hproject : (loadProject.run s ⟨ix,0,0⟩).2.index =
      ((s.source.list.toOption.getD []).foldl (Index.takeIn s.source) ix).markReady := by
    unfold loadProject
    rw [hread]
    cases hlist : s.source.list with
    | error e => rfl
    | ok files =>
      obtain ⟨b,hrun,hb⟩ := run_loadFiles hnever files ⟨ix,0,0⟩
      dsimp only
      rw [run_bind, hrun]
      exact congrArg Index.markReady hb
  rw [← hproject]
  change (Query.run (loadProject >>= fun x => pure (Operation.Answer.loaded x)) s _).2.index = _
  rw [run_bind]
  rcases loadProject.run s ⟨ix,0,0⟩ with ⟨_ | x,b⟩ <;> rfl

end Query

/-- A new index is complete behind a loading that reads the files and is not called off. -/
theorem Index.complete_load {config : Config} (hpreload : config.preload = true) {s : Surroundings}
    (hnever : s.cancellation = .never) (hspelling : s.source.IgnoresSpelling) {files : List Path}
    (hlist : s.source.list = .ok files) :
    (Operation.load.query.ask s (.new config)).2.Complete s.source := by
  have hreachable : Reachable (Operation.load.query.ask s (.new config)).2 :=
    .step s .load (.new config)
  rw [Query.snd_ask_load hnever] at hreachable ⊢
  have htaken : TakenIn (files.foldl (takeIn s.source) (.new config)) s.source ∧
      (files.foldl (takeIn s.source) (.new config)).config.preload = true :=
    files.foldlRecOn (motive := fun jx => jx.TakenIn s.source ∧ jx.config.preload = true)
      (takeIn s.source) ⟨takenIn_new config hspelling,hpreload⟩ fun jx h file _ =>
        ⟨h.1.takeIn h.2 file,(congrArg (·.preload) (config_takeIn ..)).trans h.2⟩
  rw [hlist] at hreachable ⊢
  exact TakenIn.complete (htaken.1.congr rfl) hreachable rfl

end SmaliNavigator
