import SmaliNavigator.Proofs.Index.Budget
import SmaliNavigator.Proofs.Index.Occurrence
import SmaliNavigator.Proofs.Index.Recency

/-!
Indexes that were last given the texts that the files have.

A search takes the text of a cached class before that of the file. The two differ where a file could
be read once and now cannot: it is behind. Where no file is behind, all texts come out the same
whatever the cache has.
-/

set_option autoImplicit false

namespace SmaliNavigator

/-- A file has one text, however its path is written. -/
def Source.IgnoresSpelling (s : Source) : Prop :=
  ∀ f g live, f.same g = true → s.open? f = .ok live → s.open? g = .ok live

theorem MemoryProject.ignoresSpelling (m : MemoryProject) : m.source.IgnoresSpelling := by
  intro f g live h hread
  change m.read f = .ok live at hread
  change m.read g = .ok live
  unfold read at hread ⊢
  rw [PathMap.contains_eq_isSome, PathMap.get?_same _ h, PathMap.get?_same _ h] at hread
  rw [PathMap.contains_eq_isSome]
  split at hread
  · cases hread
  · next hreadable =>
    rw [if_neg hreadable]
    cases hf : m.files.get? g with
    | none => simp [hf] at hread
    | some t => simpa [hf] using hread

namespace FileEntry

/-- The state is the one behind the last text that was taken, and without a text there is none. -/
structure Stamped (e : FileEntry) : Prop where
  settled : e.Settled
  unread : e.stamp? = none → e.state = .unparsed

theorem stamped_unread : unread.Stamped := ⟨settled_unread,fun _ => rfl⟩

theorem stamped_after (state : FileState) (r : Stamp) : Stamped ⟨state.after r.text,some r⟩ where
  settled q hq := by
    obtain rfl : r = q := by simpa using hq
    simp
  unread h := by simp at h

/-- The state is the one of a file that was given nothing yet but the text that it has. -/
def Fresh (e : FileEntry) (live? : Except Failure LiveText) : Prop :=
  match e.stamp? with
  | none => e.state = .unparsed
  | some r => e.state = FileState.unparsed.after r.text ∧ ∃ version?, live? = .ok ⟨r.text,version?⟩

theorem Fresh.after {e : FileEntry} {live : LiveText} (h : e.Fresh (.ok live)) :
    e.state.after live.text = FileState.unparsed.after live.text := by
  unfold Fresh at h
  split at h
  · rw [h]
  · obtain ⟨hstate,_,hlive⟩ := h
    cases hlive
    rw [hstate, FileState.after_after]

theorem Fresh.of_goodText? {e : FileEntry} {live? : Except Failure LiveText} (h : e.Fresh live?)
    {t : String} (ht : e.state.goodText? = some t) : ∃ version?, live? = .ok ⟨t,version?⟩ := by
  unfold Fresh at h
  split at h
  · simp [h, FileState.goodText?] at ht
  · next r _ =>
    obtain ⟨hstate,version?,hlive⟩ := h
    rw [hstate] at ht
    cases hc : Class.ofString r.text with
    | error d => simp [FileState.after_error hc, FileState.goodText?] at ht
    | ok c =>
      obtain rfl : r.text = t := by simpa [FileState.after_ok hc, FileState.goodText?] using ht
      exact ⟨version?,hlive⟩

end FileEntry

namespace Index

theorem entryOf_congr {ix jx : Index} (h : jx.files = ix.files) (file : Path) :
    jx.entryOf file = ix.entryOf file := by
  simp [entryOf, h]

theorem entryOf_insert {ix jx : Index} {file : Path} {e : FileEntry}
    (h : jx.files = ix.files.insert file e) (f : Path) :
    jx.entryOf f = if f.same file then e else ix.entryOf f := by
  unfold entryOf
  rw [h, PathMap.get?_insert]
  split <;> rfl

theorem files_parse (ix : Index) (file : Path) (stamp : Stamp) :
    (ix.parse file stamp).2.files =
      ix.files.insert file ⟨(ix.stateOf file).after stamp.text,some stamp⟩ := by
  unfold parse
  cases h : Class.ofString stamp.text with
  | ok c => simp [FileState.after_ok h]
  | error d => simp [FileState.after_error h]

/-- A text that is taken makes the state anew, and one that is not changes no entry. -/
theorem files_refresh_cases (ix : Index) (file : Path) (text : String) (version? : Option Int) :
    (ix.refresh file text version?).2.files = ix.files ∨
      (ix.refresh file text version?).2.files =
        ix.files.insert file ⟨(ix.stateOf file).after text,some ⟨version?,text⟩⟩ := by
  rcases ix.snd_refresh_cases file text version? with heq | heq | heq
  · exact .inl (by rw [heq])
  · exact .inl (by rw [heq, files_materialize])
  · exact .inr (by rw [heq, files_parse])

/-! ### Entries and the texts that they are from -/

def Stamped (ix : Index) : Prop := ∀ file, (ix.entryOf file).Stamped

theorem Stamped.congr {ix jx : Index} (h : ix.Stamped) (hf : jx.files = ix.files) : jx.Stamped :=
  fun file => entryOf_congr hf file ▸ h file

theorem Stamped.insert {ix jx : Index} (h : ix.Stamped) {file : Path} {e : FileEntry}
    (hf : jx.files = ix.files.insert file e) (he : e.Stamped) : jx.Stamped := by
  intro f
  rw [entryOf_insert hf]
  split
  · exact he
  · exact h f

theorem invariant_stamped : Invariant Stamped where
  new _ _ := FileEntry.stamped_unread
  markReady h := h.congr rfl
  takeTouched h := h.congr rfl
  register {ix} file h := by
    unfold Index.register
    split
    · exact h
    · exact h.insert rfl FileEntry.stamped_unread
  refresh {ix} file text version? h := by
    rcases ix.files_refresh_cases file text version? with hf | hf
    · exact h.congr hf
    · exact h.insert hf (FileEntry.stamped_after _ ⟨version?,text⟩)
  remove {ix} file h := by
    intro f
    have hf := h f
    unfold entryOf at hf ⊢
    rw [remove_eq]
    simp only [files_removeEntry, PathMap.get?_erase]
    split
    · exact FileEntry.stamped_unread
    · exact hf
  consult _ h := h.congr rfl
  materialize file h := h.congr (files_materialize _ file _)

/-- The last text of the file that was taken cannot be read, and an earlier one could. -/
def IsBehind (ix : Index) (file : Path) : Prop :=
  ∃ identifier? text, ix.stateOf file = .failed identifier? (some text)

/-- Every text that was taken last is the one that the file has. -/
structure Current (ix : Index) (source : Source) : Prop where
  spelling : source.IgnoresSpelling
  given : ∀ file r, (ix.entryOf file).stamp? = some r →
    ∃ version?, source.open? file = .ok ⟨r.text,version?⟩

structure UpToDate (ix : Index) (source : Source) : Prop where
  spelling : source.IgnoresSpelling
  fresh : ∀ file, (ix.entryOf file).Fresh (source.open? file)

theorem Current.upToDate {ix : Index} {source : Source} (h : ix.Current source) (hsound : ix.Sound)
    (hstamped : ix.Stamped) (hbehind : ∀ file, ¬ix.IsBehind file) : ix.UpToDate source := by
  refine ⟨h.spelling,fun file => ?_⟩
  unfold FileEntry.Fresh
  split
  · next hr => exact (hstamped file).unread hr
  · next r hr =>
    refine ⟨?_,h.given file r hr⟩
    have hsettled := (hstamped file).settled r hr
    cases hc : Class.ofString r.text with
    | ok c => rw [← hsettled, FileState.after_ok hc, FileState.after_ok hc]
    | error d =>
      rw [FileState.after_error hc] at hsettled ⊢
      have hnone : (ix.entryOf file).state.goodText? = none := by
        rw [Option.eq_none_iff_forall_ne_some]
        intro t ht
        exact hbehind file ⟨(ix.entryOf file).state.identifier?,t,by rw [stateOf_eq, ← ht, hsettled]⟩
      have hgrounded := hsound.grounded file
      rw [stateOf_eq, FileState.Grounded, hnone] at hgrounded
      rw [← hsettled, hnone, hgrounded]
      rfl

theorem UpToDate.congr {ix jx : Index} {source : Source} (h : ix.UpToDate source)
    (hf : jx.files = ix.files) : jx.UpToDate source :=
  ⟨h.spelling,fun file => entryOf_congr hf file ▸ h.fresh file⟩

theorem UpToDate.register {ix : Index} {source : Source} (h : ix.UpToDate source) (file : Path) :
    (ix.register file).UpToDate source := by
  refine ⟨h.spelling,fun f => ?_⟩
  unfold Index.register
  split
  · exact h.fresh f
  · rw [entryOf_insert rfl]
    split
    · rfl
    · exact h.fresh f

theorem UpToDate.refresh {ix : Index} {source : Source} (h : ix.UpToDate source) {file : Path}
    {live : LiveText} (hopen : source.open? file = .ok live) :
    (ix.refresh file live.text live.version?).2.UpToDate source := by
  rcases ix.files_refresh_cases file live.text live.version? with hf | hf
  · exact h.congr hf
  · refine ⟨h.spelling,fun f => ?_⟩
    rw [entryOf_insert hf]
    split
    · next hs =>
      have hfresh := h.fresh file
      rw [hopen] at hfresh
      rw [stateOf_eq, hfresh.after]
      exact ⟨rfl,live.version?,h.spelling file f live (Path.same_comm f file ▸ hs) hopen⟩
    · exact h.fresh f

/-! ### Searches of indexes that are up to date -/

theorem UpToDate.sought? {ix : Index} {s : Surroundings} (h : ix.UpToDate s.source)
    (hsound : ix.Sound) (file : Path) :
    Query.sought? ix s file = (s.source.open? file).toOption.map fun live => .ofString live.text :=
  Query.sought?_of_live hsound fun _ ht => (h.fresh file).of_goodText? (ix.stateOf_eq file ▸ ht)

/-- Indexes that differ in their caches alone, and have nothing from texts that files have no more. -/
structure AlikeUpToDate (source : Source) (ix jx : Index) : Prop where
  alike : Alike ix jx
  upToDate : ix.UpToDate source

theorem AlikeUpToDate.agree {α : Type} {s : Surroundings} {q : Query α}
    (h : Query.Agree Alike s q q)
    (hkeeps : ∀ a, a.index.UpToDate s.source → (q.run s a).2.index.UpToDate s.source) :
    Query.Agree (AlikeUpToDate s.source) s q q := by
  intro a b hab
  obtain ⟨hanswer,hrel⟩ := h a b ⟨hab.index.alike,hab.counts⟩
  exact ⟨hanswer,⟨hrel.index,hkeeps a hab.index.upToDate⟩,hrel.counts⟩

theorem kept_alikeUpToDate (s : Surroundings) : Query.Kept (AlikeUpToDate s.source) s where
  files h := h.alike.files
  declaring h := h.alike.declaring
  ready h := (kept_alike s).ready h.alike
  preload h := (kept_alike s).preload h.alike
  markReady h := ⟨(kept_alike s).markReady h.alike,h.upToDate.congr rfl⟩
  register file h := ⟨(kept_alike s).register file h.alike,h.upToDate.register file⟩
  refresh file live hopen h :=
    ⟨(kept_alike s).refresh file live hopen h.alike,h.upToDate.refresh hopen⟩
  classOf? file := by
    refine AlikeUpToDate.agree (agree_classOf? s file) fun a h => ?_
    by_cases hread : a.index.stateOf file = .unparsed ∧ (a.index.cache.get file).1 = none
    · rw [Query.run_classOf?_unread hread.1 hread.2]
      unfold readLive
      cases hopen : s.source.open? file with
      | error _ => exact h
      | ok live => exact h.refresh hopen
    · rw [Query.run_classOf?_known fun hs hc => hread ⟨hs,hc⟩]
      exact h.congr (files_materialize _ file _)

/-- Which texts are read depends on the cache, so that it must not matter how many were. -/
theorem agree_sourceOf? {s : Surroundings} (hnever : s.cancellation = .never) (file : Path) :
    Query.Agree (AlikeUpToDate s.source) s (Query.sourceOf? file) (Query.sourceOf? file) := by
  rintro a b ⟨⟨h,hup⟩,_⟩
  have hup' : b.index.UpToDate s.source := hup.congr h.files.symm
  obtain ⟨_,hrun⟩ := Query.run_sourceOf? file s a
  obtain ⟨_,hrun'⟩ := Query.run_sourceOf? file s b
  rw [hrun, hrun', hup.sought? h.sound, hup'.sought? h.sound']
  exact ⟨rfl,⟨⟨h.core,h.sound.consult file,h.sound'.consult file⟩,hup.congr rfl⟩,
    fun hs => absurd hnever hs⟩

theorem run_indexedText? {s : Surroundings} {a : Activity} (h : a.index.Sound) (file : Path) :
    (Query.indexedText? file).run s a =
      (some ((a.index.stateOf file).goodText?.map .ofString),
        { a with index := { a.index with cache := (a.index.cache.get file).2 } }) := by
  unfold Query.indexedText?
  rw [Query.run_bind, Query.run_cached?]
  cases hc : (a.index.cache.get file).1 with
  | some c =>
    obtain ⟨t,ht,hread⟩ := goodClass?_eq_some (h.cached file c hc)
    simp [ht, Class.document_of_ofDocument hread]
  | none =>
    dsimp only
    rw [Query.run_bind, Query.run_getIndex]
    cases he : a.index.files.get? file <;> simp [stateOf, he, FileState.goodText?]

theorem agree_document? (s : Surroundings) (file : Path) :
    Query.Agree (AlikeUpToDate s.source) s (Query.document? file) (Query.document? file) := by
  refine Query.agree_openFile ?_
  cases s.source.open? file with
  | ok live => exact .pure _
  | error _ =>
    rintro a b ⟨⟨h,hup⟩,hcounts⟩
    rw [run_indexedText? h.sound, run_indexedText? h.sound', h.stateOf file]
    exact ⟨rfl,⟨⟨h.core,h.sound.consult file,h.sound'.consult file⟩,hup.congr rfl⟩,hcounts⟩

end Index

end SmaliNavigator
