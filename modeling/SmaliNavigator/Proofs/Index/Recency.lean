import Mathlib.Data.List.Basic
import Mathlib.Data.List.Induction
import SmaliNavigator.Proofs.Index.Frame
import SmaliNavigator.Proofs.Class.Faults

/-!
Which of the texts that a file is given one after the other counts.

The rule one would expect is `FileEntry.take`: a text is dropped when it and the last text that was
not dropped both have versions and its one is lower. The index follows `FileEntry.takeNew`, by which
a text that the file already has leaves the version as it was: `RepeatsKeepVersions` says for which
runs that makes no difference.
-/

set_option autoImplicit false

namespace SmaliNavigator

/-- The state of a file behind a text that counts. -/
def FileState.after (state : FileState) (text : String) : FileState :=
  match Class.ofString text with
  | .ok c => .parsed c.identifier text
  | .error _ => .failed state.identifier? state.goodText?

theorem FileState.after_ok {text : String} {c : Class} (h : Class.ofString text = .ok c)
    (state : FileState) : state.after text = .parsed c.identifier text := by
  simp [after, h]

theorem FileState.after_error {text : String} {d : Diagnostic} (h : Class.ofString text = .error d)
    (state : FileState) : state.after text = .failed state.identifier? state.goodText? := by
  simp [after, h]

@[simp] theorem FileState.after_after (state : FileState) (text : String) :
    (state.after text).after text = state.after text := by
  cases h : Class.ofString text with
  | ok c => simp [after_ok h]
  | error d => simp [after_error h, identifier?, goodText?]

theorem FileState.exists_after_ne (state : FileState) : ∃ text, state.after text ≠ state := by
  have hempty : (Class.ofString "").toOption.isNone = true := by decide +kernel
  have hclass : (Class.ofString ".class La;\n.super Lb;\n").toOption.isSome = true := by
    decide +kernel
  cases state with
  | parsed i t =>
    refine ⟨"",?_⟩
    cases h : Class.ofString "" with
    | ok c => simp [h, Except.toOption] at hempty
    | error d => simp [after_error h]
  | unparsed | failed i t =>
    refine ⟨".class La;\n.super Lb;\n",?_⟩
    cases h : Class.ofString ".class La;\n.super Lb;\n" with
    | ok c => simp [after_ok h]
    | error d => simp [h, Except.toOption] at hclass

theorem Stamp.exists_isOlderThan_ne {s r : Stamp} (h : s.version? ≠ r.version?) :
    ∃ version, ∀ text,
      Stamp.isOlderThan ⟨version,text⟩ s ≠ Stamp.isOlderThan ⟨version,text⟩ r := by
  unfold isOlderThan
  cases hs : s.version? with
  | none =>
    cases hr : r.version? with
    | none => simp [hs, hr] at h
    | some b =>
      have hlt : b - 1 < b := by omega
      exact ⟨some (b - 1),fun _ => by simp [hlt]⟩
  | some a =>
    cases hr : r.version? with
    | none =>
      have hlt : a - 1 < a := by omega
      exact ⟨some (a - 1),fun _ => by simp [hlt]⟩
    | some b =>
      have hne : a ≠ b := by simpa [hs, hr] using h
      rcases Int.lt_or_gt_of_ne hne with hlt | hgt
      · exact ⟨some a,fun _ => by simp [hlt]⟩
      · exact ⟨some b,fun _ => by simp [hgt]⟩

namespace FileEntry

/-- A file that was given no text yet. -/
def unread : FileEntry := ⟨.unparsed,none⟩

/-- Takes a text unless it is older than the last one that was taken. -/
def take (e : FileEntry) (s : Stamp) : FileEntry :=
  if e.stamp?.any s.isOlderThan then e else ⟨e.state.after s.text,some s⟩

/-- Takes a text unless it is older than the last one that was taken, or the same text again. -/
def takeNew (e : FileEntry) (s : Stamp) : FileEntry :=
  if e.stamp?.any (fun r => s.isOlderThan r || r.text == s.text) then e
  else ⟨e.state.after s.text,some s⟩

/-- The state is the one behind the last text that was taken. -/
def Settled (e : FileEntry) : Prop :=
  ∀ r, e.stamp? = some r → e.state.after r.text = e.state

theorem settled_unread : unread.Settled := by simp [Settled, unread]

theorem Settled.take {e : FileEntry} (h : e.Settled) (s : Stamp) : (e.take s).Settled := by
  unfold FileEntry.take
  split
  · exact h
  · intro r hr
    simp only [Option.some.injEq] at hr
    subst hr
    simp

theorem settled_foldl (calls : List Stamp) : (calls.foldl FileEntry.take unread).Settled := by
  induction calls using List.reverseRecOn with
  | nil => exact settled_unread
  | append_singleton calls s ih => simpa using ih.take s

theorem state_takeNew {e : FileEntry} (h : e.Settled) (s : Stamp) :
    (e.takeNew s).state = (e.take s).state := by
  unfold takeNew FileEntry.take
  cases hr : e.stamp? with
  | none => simp
  | some r =>
    by_cases hold : s.isOlderThan r = true
    · simp [hold]
    · by_cases htext : r.text = s.text
      · simpa [hold, htext] using (h r hr).symm
      · simp [hold, htext]

theorem takeNew_eq_take_iff {e : FileEntry} (h : e.Settled) (s : Stamp) :
    e.takeNew s = e.take s ↔ ∀ r, e.stamp? = some r → s.isOlderThan r = false →
      s.text = r.text → s.version? = r.version? := by
  unfold takeNew FileEntry.take
  cases hr : e.stamp? with
  | none => simp
  | some r =>
    by_cases hold : s.isOlderThan r = true
    · simp [hold]
    · by_cases htext : r.text = s.text
      · obtain ⟨state,stamp?⟩ := e
        obtain ⟨version?,text⟩ := s
        obtain ⟨version'?,text'⟩ := r
        have hs := h _ hr
        simp only at hr htext hs hold
        subst hr htext
        simpa [hold, hs] using eq_comm
      · simp [hold, htext, Ne.symm htext]

theorem exists_state_ne {e : FileEntry} (h : e.Settled) {s : Stamp}
    (hne : e.takeNew s ≠ e.take s) :
    ∃ t, ((e.takeNew s).takeNew t).state ≠ ((e.take s).take t).state := by
  rw [ne_eq, takeNew_eq_take_iff h] at hne
  simp only [not_forall] at hne
  obtain ⟨r,hr,hold,htext,hversion⟩ := hne
  have hstate := h r hr
  have hkept : e.takeNew s = e := by simp [takeNew, hr, htext]
  have htaken : e.take s = ⟨e.state,some s⟩ := by simp [FileEntry.take, hr, hold, htext, hstate]
  obtain ⟨text,hleft⟩ := e.state.exists_after_ne
  obtain ⟨version,hage⟩ := Stamp.exists_isOlderThan_ne hversion
  have hage := hage text
  have hother : r.text ≠ text := by
    rintro rfl
    exact hleft hstate
  refine ⟨⟨version,text⟩,?_⟩
  rw [hkept, htaken]
  cases hs : Stamp.isOlderThan ⟨version,text⟩ s with
  | true =>
    rw [hs] at hage
    have hnew : Stamp.isOlderThan ⟨version,text⟩ r = false := by simpa using hage.symm
    simpa [takeNew, FileEntry.take, hr, hs, hnew, hother] using hleft
  | false =>
    rw [hs] at hage
    have hnew : Stamp.isOlderThan ⟨version,text⟩ r = true := by simpa using hage.symm
    simpa [takeNew, FileEntry.take, hr, hs, hnew] using hleft.symm

end FileEntry

/-- No text that counts repeats the one before it with another version. -/
def RepeatsKeepVersions (calls : List Stamp) : Prop :=
  ∀ before s, before ++ [s] <+: calls →
    ∀ r, (before.foldl FileEntry.take .unread).stamp? = some r → s.isOlderThan r = false →
      s.text = r.text → s.version? = r.version?

theorem prefix_of_concat {before calls : List Stamp} {s : Stamp}
    (h : before ++ [s] <+: calls) : before <+: calls := (List.prefix_append before [s]).trans h

theorem repeatsKeepVersions_iff_foldl (calls : List Stamp) :
    RepeatsKeepVersions calls ↔ ∀ before, before <+: calls →
      before.foldl FileEntry.takeNew .unread = before.foldl FileEntry.take .unread := by
  constructor
  · intro h before hb
    induction before using List.reverseRecOn with
    | nil => rfl
    | append_singleton before s ih =>
      rw [List.foldl_concat, List.foldl_concat, ih (prefix_of_concat hb)]
      exact (FileEntry.takeNew_eq_take_iff (FileEntry.settled_foldl before) s).mpr (h before s hb)
  · intro h before s hb
    have hlast := h (before ++ [s]) hb
    rw [List.foldl_concat, List.foldl_concat, h before (prefix_of_concat hb)] at hlast
    exact (FileEntry.takeNew_eq_take_iff (FileEntry.settled_foldl before) s).mp hlast

/-- Whether the versions are kept shows in the states behind the texts that may come next. -/
theorem repeatsKeepVersions_iff (calls : List Stamp) :
    RepeatsKeepVersions calls ↔ ∀ before next, before <+: calls →
      ((before ++ [next]).foldl FileEntry.takeNew .unread).state =
        ((before ++ [next]).foldl FileEntry.take .unread).state := by
  rw [repeatsKeepVersions_iff_foldl]
  constructor
  · intro h before next hb
    rw [List.foldl_concat, List.foldl_concat, h before hb]
    exact FileEntry.state_takeNew (FileEntry.settled_foldl before) next
  · intro h before hb
    induction before using List.reverseRecOn with
    | nil => rfl
    | append_singleton before s ih =>
      have hbefore := ih (prefix_of_concat hb)
      rw [List.foldl_concat, List.foldl_concat, hbefore]
      by_contra hne
      -- the version that only one rule has stored tells the rules apart at the next text
      obtain ⟨t,ht⟩ := FileEntry.exists_state_ne (FileEntry.settled_foldl before) hne
      have hnext := h (before ++ [s]) t hb
      simp only [List.foldl_concat, hbefore] at hnext
      exact ht hnext

namespace Index

/-- What is known about a file, and that it was given no text yet where nothing is known. -/
def entryOf (ix : Index) (file : Path) : FileEntry :=
  (ix.files.get? file).getD .unread

theorem stateOf_eq (ix : Index) (file : Path) : ix.stateOf file = (ix.entryOf file).state := by
  unfold stateOf entryOf
  cases ix.files.get? file <;> rfl

theorem refresh_of_no_stamp {ix : Index} {file : Path} (h : (ix.entryOf file).stamp? = none)
    (text : String) (version? : Option Int) :
    ix.refresh file text version? = ix.parse file ⟨version?,text⟩ := by
  unfold entryOf at h
  unfold refresh
  rcases he : ix.files.get? file with _ | ⟨state,_ | current⟩
  · rfl
  · rfl
  · simp [he] at h

/-- The entry of a file, with what it takes to answer when the file is given the same text again. -/
structure Holds (ix : Index) (file : Path) (e : FileEntry) : Prop where
  entry : ix.entryOf file = e
  unparsed : e.state = .unparsed → e.stamp? = none
  parsed : ∀ i t, e.state = .parsed i t → ∃ c, Class.ofString t = .ok c
  failed : ∀ i t, e.state = .failed i t → (ix.firstFatal? file).isSome = true

theorem Holds.get?_files {ix : Index} {file : Path} {e : FileEntry} (h : ix.Holds file e)
    {r : Stamp} (hr : e.stamp? = some r) : ix.files.get? file = some ⟨e.state,some r⟩ := by
  have he := h.entry
  unfold entryOf at he
  cases hf : ix.files.get? file with
  | none =>
    rw [hf, Option.getD_none] at he
    subst he
    cases hr
  | some e' =>
    rw [hf, Option.getD_some] at he
    subst he
    rw [← hr]

theorem Holds.congr {ix jx : Index} {file : Path} {e : FileEntry} (h : ix.Holds file e)
    (hf : jx.files = ix.files) (hd : jx.diagnostics = ix.diagnostics) : jx.Holds file e where
  entry := by
    rw [← h.entry]
    simp [entryOf, hf]
  unparsed := h.unparsed
  parsed := h.parsed
  failed := by simpa [firstFatal?, diagnosticsOf, hd] using h.failed

theorem isSome_materialize {ix : Index} {file : Path} {i t : String} {c : Class}
    (h : Class.ofString t = .ok c) : (ix.materialize file (.parsed i t)).1.isSome = true := by
  unfold materialize
  split
  · rfl
  · simp [FileState.goodText?, h]

theorem Holds.isSome_answerRepeated? {ix : Index} {file : Path} {e : FileEntry}
    (h : ix.Holds file e) (hs : e.stamp?.isSome = true) :
    (ix.answerRepeated? file e.state).isSome = true := by
  cases he : e.state with
  | unparsed => simp [h.unparsed he] at hs
  | parsed i t =>
    obtain ⟨c,hc⟩ := h.parsed i t he
    rw [answerRepeated?_parsed, Option.isSome_map]
    exact isSome_materialize hc
  | failed i t => simpa [answerRepeated?] using h.failed i t he

theorem Holds.materialize {ix : Index} {file : Path} {e : FileEntry} (h : ix.Holds file e)
    (state : FileState) : (ix.materialize file state).2.Holds file e :=
  h.congr (ix.files_materialize file state) (ix.diagnostics_materialize file state)

theorem Holds.parse {ix : Index} {file : Path} {e : FileEntry} (h : ix.Holds file e) (s : Stamp) :
    (ix.parse file s).2.Holds file ⟨e.state.after s.text,some s⟩ := by
  have hstate : ix.stateOf file = e.state := by rw [stateOf_eq, h.entry]
  unfold Index.parse
  cases hc : Class.ofString s.text with
  | ok c =>
    refine ⟨by simp [entryOf, FileState.after_ok hc],?_,?_,?_⟩
    · simp [FileState.after_ok hc]
    · simp only [FileState.after_ok hc, FileState.parsed.injEq]
      rintro i t ⟨rfl,rfl⟩
      exact ⟨c,hc⟩
    · simp [FileState.after_ok hc]
  | error d =>
    have hfatal := Class.fatal_ofString s.text d hc
    refine ⟨by simp [entryOf, FileState.after_error hc, hstate],?_,?_,?_⟩
    · simp [FileState.after_error hc]
    · simp [FileState.after_error hc]
    · intro i t _
      simp [firstFatal?, diagnosticsOf_reject, hfatal]

theorem Holds.refresh {ix : Index} {file : Path} {e : FileEntry} (h : ix.Holds file e)
    (s : Stamp) : (ix.refresh file s.text s.version?).2.Holds file (e.takeNew s) := by
  have hknown {state : FileState} {r : Stamp} (he : ix.files.get? file = some ⟨state,some r⟩) :
      e = ⟨state,some r⟩ := by simp [← h.entry, entryOf, he]
  rcases ix.refresh_cases file s.text s.version? with
    ⟨state,r,he,hold,hr⟩ | ⟨state,r,answer,he,_,htext,hanswer,hr⟩ | ⟨hr,hnew⟩
  · obtain rfl := hknown he
    have hkept : FileEntry.takeNew ⟨state,some r⟩ s = ⟨state,some r⟩ := by
      simp [FileEntry.takeNew, hold]
    rw [hr, answerStale_snd, hkept]
    exact h.materialize state
  · obtain rfl := hknown he
    have hkept : FileEntry.takeNew ⟨state,some r⟩ s = ⟨state,some r⟩ := by
      simp [FileEntry.takeNew, htext]
    rw [hr, hkept]
    rcases snd_of_answerRepeated? hanswer with heq | heq
    · rwa [heq]
    · rw [heq]
      exact h.materialize state
  · -- a text that is read is not the one that the file has, since that one would have been answered
    have htaken : e.takeNew s = ⟨e.state.after s.text,some s⟩ := by
      cases hs : e.stamp? with
      | none => simp [FileEntry.takeNew, hs]
      | some r =>
        have he : ix.files.get? file = some ⟨e.state,some r⟩ := h.get?_files hs
        obtain ⟨hold,hrepeated⟩ := hnew e.state r he
        have htext : r.text ≠ s.text := by
          intro htext
          have hsome := h.isSome_answerRepeated? (by simp [hs])
          simp [hrepeated htext] at hsome
        simp [FileEntry.takeNew, hs, hold, htext]
    rw [hr, htaken]
    exact h.parse s

/-- Gives a file texts, one after the other. -/
def refreshAll (ix : Index) (file : Path) (calls : List Stamp) : Index :=
  calls.foldl (fun ix s => (ix.refresh file s.text s.version?).2) ix

theorem holds_refreshAll {ix : Index} {file : Path} (h : ix.files.get? file = none)
    (calls : List Stamp) :
    (ix.refreshAll file calls).Holds file (calls.foldl FileEntry.takeNew .unread) := by
  induction calls using List.reverseRecOn with
  | nil =>
    refine ⟨by simp [entryOf, refreshAll, h],?_,?_,?_⟩ <;> simp [FileEntry.unread]
  | append_singleton calls s ih =>
    simpa [refreshAll] using ih.refresh s

/-- The entry of a file that was not known follows the rule by which a repeated text does not count.
That is the rule by which every text counts that is not older, for these texts and whatever comes
next behind each of them, exactly if no repeated text comes with another version. -/
theorem entryOf_refreshAll (ix : Index) (file : Path) (h : ix.files.get? file = none)
    (calls : List Stamp) :
    (ix.refreshAll file calls).entryOf file = calls.foldl FileEntry.takeNew .unread ∧
    ((∀ before next, before <+: calls →
      ((ix.refreshAll file (before ++ [next])).entryOf file).state =
        ((before ++ [next]).foldl FileEntry.take .unread).state) ↔ RepeatsKeepVersions calls) := by
  refine ⟨(holds_refreshAll h calls).entry,?_⟩
  rw [repeatsKeepVersions_iff]
  simp only [(holds_refreshAll h _).entry]

/-- A new index knows no file; of these texts the second has an old version and the third repeats the
first with its own. -/
theorem entryOf_refreshAll_new :
    (Index.new .default).files.get? (.ofString "A.smali") = none ∧
    ((refreshAll (.new .default) (.ofString "A.smali")
        [⟨some 2,".class La;\n.super Lb;\n"⟩,⟨some 1,""⟩,⟨some 2,".class La;\n.super Lb;\n"⟩]).entryOf
          (.ofString "A.smali") =
      [⟨some 2,".class La;\n.super Lb;\n"⟩,⟨some 1,""⟩,⟨some 2,".class La;\n.super Lb;\n"⟩].foldl
        FileEntry.takeNew .unread) :=
  ⟨rfl,(entryOf_refreshAll (.new .default) (.ofString "A.smali") rfl _).1⟩

/-- A file that was closed and opened again: the text without a version leaves the old version as it
was, and what is typed next is dropped. -/
theorem state_reopened_ne :
    ((refreshAll (.new .default) (.ofString "A.smali")
        [⟨some 5,".class La;\n.super Lb;\n"⟩,⟨none,".class La;\n.super Lb;\n"⟩,
          ⟨some 1,".class Lc;\n.super Lb;\n"⟩]).entryOf (.ofString "A.smali")).state ≠
      ([⟨some 5,".class La;\n.super Lb;\n"⟩,⟨none,".class La;\n.super Lb;\n"⟩,
        ⟨some 1,".class Lc;\n.super Lb;\n"⟩].foldl FileEntry.take .unread).state := by
  decide +kernel

end Index

end SmaliNavigator
