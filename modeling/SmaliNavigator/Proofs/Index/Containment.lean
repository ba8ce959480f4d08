import Mathlib.Logic.Relation
import SmaliNavigator.Proofs.Index.Independence

/-!
A text that is too old or that cannot be read does no harm. An old one changes nothing but the cache.
One that cannot be read is put down for its own file and nowhere else; the file goes on under the
class that it declared, and if it could ever be read, that class is still there.
-/

set_option autoImplicit false

namespace SmaliNavigator

/-- The operations that take a file out of an index. -/
def Operation.takesOut (file : Path) : Operation → Bool
  | .remove g => file.same g
  | .clear => true
  | _ => false

namespace Index

/-! ### Files that could be read once -/

/-- A step of an index that does not take a file out of it. -/
inductive Retains (file : Path) (ix : Index) : Index → Prop
  | markReady : Retains file ix ix.markReady
  | takeTouched : Retains file ix { ix with touched := ∅ }
  | register (g : Path) : Retains file ix (ix.register g)
  | refresh (g : Path) (text : String) (version? : Option Int) :
    Retains file ix (ix.refresh g text version?).2
  | remove (g : Path) (h : file.same g = false) : Retains file ix (ix.remove g)
  | consult (g : Path) : Retains file ix { ix with cache := (ix.cache.get g).2 }
  | materialize (g : Path) : Retains file ix (ix.materialize g (ix.stateOf g)).2

/-- A file could be read at some time, and it was not taken out of the index since. -/
def HasParsed (ix : Index) (file : Path) : Prop :=
  ∃ before identifier text, before.stateOf file = .parsed identifier text ∧
    Relation.ReflTransGen (Retains file) before ix

theorem hasParsed_of_parsed {ix : Index} {file : Path} {i t : String}
    (h : ix.stateOf file = .parsed i t) : ix.HasParsed file :=
  ⟨ix,i,t,h,.refl⟩

theorem HasParsed.step {ix jx : Index} {file : Path} (h : ix.HasParsed file)
    (hstep : Retains file ix jx) : jx.HasParsed file := by
  obtain ⟨before,i,t,hparsed,hsteps⟩ := h
  exact ⟨before,i,t,hparsed,hsteps.tail hstep⟩

theorem lasting_hasParsed (file : Path) : Lasting (·.HasParsed file) where
  markReady h := h.step .markReady
  register g h := h.step (.register g)
  refresh g text version? h := h.step (.refresh g text version?)
  consult g h := h.step (.consult g)
  materialize g h := h.step (.materialize g)

theorem HasParsed.ask {ix : Index} {file : Path} (h : ix.HasParsed file) (s : Surroundings)
    {op : Operation} (hop : op.takesOut file = false) : (op.query.ask s ix).2.HasParsed file := by
  by_cases hsteps : op.isStepwise = true
  · exact (lasting_hasParsed file).ask s hsteps h
  · cases op with
    | register g => exact h.step (.register g)
    | refresh g text version? => exact h.step (.refresh g text version?)
    | remove g => exact h.step (.remove g hop)
    | clear => cases hop
    | takeTouched => exact h.step .takeTouched
    | _ => exact absurd rfl hsteps

/-- Whatever is done with an index, only a file that is taken out of it has to be read anew. -/
theorem HasParsed.perform {ix : Index} {file : Path} (h : ix.HasParsed file)
    {steps : List (Surroundings × Operation)} (hsteps : ∀ x ∈ steps, x.2.takesOut file = false) :
    (Operation.perform ix steps).2.HasParsed file := by
  induction steps generalizing ix with
  | nil => exact h
  | cons x steps ih =>
    rw [List.forall_mem_cons] at hsteps
    exact ih (h.ask x.1 hsteps.1) hsteps.2

theorem stateOf_congr {ix jx : Index} (h : jx.files = ix.files) (file : Path) :
    jx.stateOf file = ix.stateOf file := by
  simp [stateOf, h]

theorem stateOf_parse (ix : Index) (file : Path) (stamp : Stamp) (f : Path) :
    (ix.parse file stamp).2.stateOf f =
      if f.same file then (ix.stateOf file).after stamp.text else ix.stateOf f := by
  have hget := congrArg (·.get? f) (files_parse ix file stamp)
  simp only [PathMap.get?_insert] at hget
  rw [stateOf, hget]
  split <;> rfl

theorem goodText?_after {state : FileState} (h : state.goodText?.isSome = true) (text : String) :
    (state.after text).goodText?.isSome = true := by
  cases hread : Class.ofString text with
  | ok c => rw [FileState.after_ok hread]; rfl
  | error d => rwa [FileState.after_error hread]

theorem Retains.goodText? {ix jx : Index} {file : Path} (hstep : Retains file ix jx)
    (h : (ix.stateOf file).goodText?.isSome = true) :
    (jx.stateOf file).goodText?.isSome = true := by
  cases hstep with
  | markReady => exact h
  | takeTouched => exact h
  | register g =>
    unfold Index.register
    split
    · exact h
    · next hnew =>
      have hother : file.same g = false := by
        by_contra hs
        rw [Bool.not_eq_false] at hs
        have hstate : ix.stateOf g = .unparsed := by simp [stateOf, PathMap.get?_of_not_contains hnew]
        simp [ix.stateOf_same hs, hstate, FileState.goodText?] at h
      simpa [stateOf, PathMap.get?_insert, hother] using h
  | refresh g text version? =>
    rcases ix.snd_refresh_cases g text version? with heq | heq | heq
    · rwa [heq]
    · rwa [heq, stateOf_congr (files_materialize ..)]
    · rw [heq, stateOf_parse]
      split
      · next hs =>
        rw [ix.stateOf_same hs] at h
        exact goodText?_after h text
      · exact h
  | remove g hother =>
    rw [remove_eq]
    simpa [stateOf, PathMap.get?_erase, hother] using h
  | consult g => exact h
  | materialize g => rwa [stateOf_congr (files_materialize ..)]

theorem HasParsed.goodText? {ix : Index} {file : Path} (h : ix.HasParsed file) :
    (ix.stateOf file).goodText?.isSome = true := by
  obtain ⟨before,i,t,hparsed,hsteps⟩ := h
  induction hsteps with
  | refl => rw [hparsed]; rfl
  | tail _ hstep ih => exact hstep.goodText? ih

theorem Reachable.exists_goodClass? {ix : Index} (h : Reachable ix) {file : Path}
    (hparsed : ix.HasParsed file) : ∃ c, ix.goodClass? file = some c := by
  obtain ⟨t,ht⟩ := Option.isSome_iff_exists.mp hparsed.goodText?
  have hgrounded := (invariant_sound.of_reachable h).grounded file
  rw [FileState.Grounded, ht] at hgrounded
  obtain ⟨c,hread,_⟩ := hgrounded
  exact ⟨c,by simp [goodClass?, ht, hread, Except.toOption]⟩

theorem Reachable.ask_classOf?_of_goodClass? {ix : Index} (h : Reachable ix) {file : Path}
    {c : Class} (hc : ix.goodClass? file = some c) (s : Surroundings) :
    ((Query.classOf? file).ask s ix).1 = some (some c) := by
  obtain ⟨t,ht,_⟩ := goodClass?_eq_some hc
  have hread : ix.stateOf file ≠ .unparsed := by
    intro hstate
    simp [hstate, FileState.goodText?] at ht
  rw [h.fst_ask_classOf? s file, if_neg hread, hc]

/-! ### Texts that are not taken -/

/-- An index in which only one file can have changed, and not in the class that it declares. -/
structure DiffersAt (file : Path) (ix jx : Index) : Prop where
  declaring : jx.declaring = ix.declaring
  touched : jx.touched = ix.touched
  files : ∀ g, g.same file = false → jx.files.get? g = ix.files.get? g
  diagnostics : ∀ g, g.same file = false → jx.diagnosticsOf g = ix.diagnosticsOf g
  identifier : jx.identifierOf? file = ix.identifierOf? file
  goodClass? : jx.goodClass? file = ix.goodClass? file

theorem differsAt_cache (file : Path) (ix : Index) (cache : Cache) :
    DiffersAt file ix { ix with cache } :=
  ⟨rfl,rfl,fun _ _ => rfl,fun _ _ => rfl,rfl,rfl⟩

theorem differsAt_reject (ix : Index) (file : Path) (stamp : Stamp) (d : Diagnostic) :
    DiffersAt file ix (ix.reject file stamp d) where
  declaring := rfl
  touched := rfl
  files g hg := by rw [files_reject, PathMap.get?_insert, hg]; rfl
  diagnostics g hg := by rw [diagnosticsOf_reject_eq, hg]; rfl
  identifier := by
    rw [identifierOf?_eq, identifierOf?_eq]
    simp [stateOf, FileState.identifier?]
  goodClass? := by simp [Index.goodClass?, stateOf, FileState.goodText?]

/-- A text that cannot be read is an error, the first time and whenever it comes again. -/
theorem Reachable.exists_error_refresh {ix : Index} (h : Reachable ix) {file : Path} {text : String}
    {version? : Option Int} {d : Diagnostic} (hread : Class.ofString text = .error d)
    (hnew : ∀ r, (ix.entryOf file).stamp? = some r → Stamp.isOlderThan ⟨version?,text⟩ r = false) :
    ∃ e, (ix.refresh file text version?).1 = .error e := by
  have hentry {state : FileState} {r : Stamp} (he : ix.files.get? file = some ⟨state,some r⟩) :
      ix.entryOf file = ⟨state,some r⟩ := by simp [entryOf, he]
  rcases ix.refresh_cases file text version? with
    ⟨state,r,he,hold,hr⟩ | ⟨state,r,answer,he,_,htext,hanswer,hr⟩ | ⟨hr,_⟩
  · have hyoung := hnew r (by rw [hentry he])
    rw [hold] at hyoung
    cases hyoung
  · have hsettled := (invariant_stamped.of_reachable h file).settled r (by rw [hentry he])
    rw [hentry he, htext, FileState.after_error hread] at hsettled
    dsimp only at hsettled
    rw [← hsettled] at hanswer
    obtain ⟨e,_,rfl⟩ := Option.map_eq_some_iff.mp hanswer
    exact ⟨e,by rw [hr]⟩
  · rw [hr, parse, hread]
    exact ⟨d,rfl⟩

theorem Reachable.differsAt_refresh {ix : Index} (h : Reachable ix) (file : Path) {text : String}
    (version? : Option Int) {d : Diagnostic} (hread : Class.ofString text = .error d) :
    DiffersAt file ix (ix.refresh file text version?).2 := by
  have hafter := (h.holds file).snd_refresh ⟨version?,text⟩
  split at hafter
  · obtain ⟨cache,heq⟩ := hafter
    rw [heq]
    exact differsAt_cache file ix cache
  · rw [hafter, parse, hread]
    exact differsAt_reject ix file _ d

/-- A text with an older version than the last one leaves all but the cache as it was. One that cannot
be read is an error. It leaves the declarations and the touched files as they were, and all other
files with their diagnostics; the file still declares what it declared, and if it could ever be read
since it was added, its class is the same as before. -/
theorem refresh_contained {ix : Index} (h : Reachable ix) (file : Path) (text : String)
    (version? : Option Int) :
    ((∃ r, (ix.entryOf file).stamp? = some r ∧ Stamp.isOlderThan ⟨version?,text⟩ r = true) →
      ∃ cache, (ix.refresh file text version?).2 = { ix with cache }) ∧
    (∀ d, Class.ofString text = .error d →
      ((∀ r, (ix.entryOf file).stamp? = some r → Stamp.isOlderThan ⟨version?,text⟩ r = false) →
        ∃ e, (ix.refresh file text version?).1 = .error e) ∧
      DiffersAt file ix (ix.refresh file text version?).2 ∧
      (ix.HasParsed file → ∃ c, ∀ s t,
        ((Query.classOf? file).ask s ix).1 = some (some c) ∧
        ((Query.classOf? file).ask t (ix.refresh file text version?).2).1 = some (some c))) := by
  refine ⟨?_,fun d hread => ⟨h.exists_error_refresh hread,h.differsAt_refresh file version? hread,
    fun hparsed => ?_⟩⟩
  · rintro ⟨r,hr,hold⟩
    have hafter := (h.holds file).snd_refresh ⟨version?,text⟩
    rwa [if_pos (by simp [hr, hold])] at hafter
  · obtain ⟨c,hc⟩ := h.exists_goodClass? hparsed
    have hafter : Reachable (ix.refresh file text version?).2 := h.call (.refresh file text version?)
    have hsame := (h.differsAt_refresh file version? hread).goodClass?
    exact ⟨c,fun s t => ⟨h.ask_classOf?_of_goodClass? hc s,
      hafter.ask_classOf?_of_goodClass? (hsame.trans hc) t⟩⟩

/-- A file without a class in the cache, which could be read at first and then no more. Another file
declared the same class for a while. The text that comes next cannot be read either, and before it
there comes one that is too old. -/
theorem refresh_contained_again :
    let s : Surroundings := ⟨MemoryProject.empty.source,.never⟩
    let a := Path.ofString "A.smali"
    let b := Path.ofString "B.smali"
    let read := (Operation.perform (.new { Config.default with cacheBudget := 0 })
      [(s,.refresh b ".class La;\n.super Lb;\n" none),
        (s,.refresh a ".class La;\n.super Lb;\n" (some 1))]).2
    let ix := (Operation.perform read [(s,.refresh b ".class Lb;\n.super Lc;\n" none),
      (s,.refresh a ".class La;\n" (some 5))]).2
    Reachable ix ∧ ix.HasParsed a ∧ ix.touched.files = [a] ∧
      (∃ r, (ix.entryOf a).stamp? = some r ∧ Stamp.isOlderThan ⟨some 4,".class"⟩ r = true) ∧
      (∃ cache, (ix.refresh a ".class" (some 4)).2 = { ix with cache }) ∧
      ∃ d, Class.ofString ".class" = .error d ∧
        (∃ e, (ix.refresh a ".class" (some 6)).1 = .error e) ∧
        DiffersAt a ix (ix.refresh a ".class" (some 6)).2 ∧
        ∃ c, ∀ s t, ((Query.classOf? a).ask s ix).1 = some (some c) ∧
          ((Query.classOf? a).ask t (ix.refresh a ".class" (some 6)).2).1 = some (some c) := by
  intro s a b read ix
  have hreachable : Reachable ix := ((Reachable.new _).perform _).perform _
  have hread : read.stateOf a = .parsed "La;" ".class La;\n.super Lb;\n" := by decide +kernel
  have hparsed : ix.HasParsed a := (hasParsed_of_parsed hread).perform (by decide +kernel)
  have hold : ∃ r, (ix.entryOf a).stamp? = some r ∧
      Stamp.isOlderThan ⟨some 4,".class"⟩ r = true :=
    ⟨⟨some 5,".class La;\n"⟩,by decide +kernel,rfl⟩
  obtain ⟨d,hread⟩ : ∃ d, Class.ofString ".class" = .error d := by
    cases hread : Class.ofString ".class" with
    | error d => exact ⟨d,rfl⟩
    | ok c =>
      have hfails : (Class.ofString ".class").toOption.isSome = false := by decide +kernel
      simp [hread, Except.toOption] at hfails
  obtain ⟨herror,hdiffers,hclass⟩ := (refresh_contained hreachable a ".class" (some 6)).2 d hread
  have hnew : ∀ r, (ix.entryOf a).stamp? = some r →
      Stamp.isOlderThan ⟨some 6,".class"⟩ r = false := by
    have hstamp : (ix.entryOf a).stamp? = some ⟨some 5,".class La;\n"⟩ := by decide +kernel
    rw [hstamp]
    rintro r ⟨⟩
    rfl
  exact ⟨hreachable,hparsed,by decide +kernel,hold,
    (refresh_contained hreachable a ".class" (some 4)).1 hold,d,hread,herror hnew,hdiffers,
    hclass hparsed⟩

end Index

end SmaliNavigator
