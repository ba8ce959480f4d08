import SmaliNavigator.Proofs.Cache
import SmaliNavigator.Proofs.Index.Frame

/-!
What an index keeps of the texts that it was given: the last one of each file that could be read,
the class that it declares, and in the cache the class itself.
-/

set_option autoImplicit false

namespace SmaliNavigator

/-- What is kept comes from a text that can be read. -/
def FileState.Grounded (s : FileState) : Prop :=
  match s.goodText? with
  | none => s.identifier? = none
  | some t => ∃ c, Class.ofString t = .ok c ∧ s.identifier? = some c.identifier

theorem FileState.Grounded.of_identifier? {s : FileState} (h : s.Grounded) {identifier : String}
    (hi : s.identifier? = some identifier) :
    ∃ text c, Class.ofString text = .ok c ∧ c.identifier = identifier ∧
      (s = .parsed identifier text ∨ s = .failed (some identifier) (some text)) := by
  cases s with
  | unparsed => simp [FileState.identifier?] at hi
  | parsed i t =>
    obtain ⟨c,hc,hid⟩ := h
    obtain rfl : i = identifier := by simpa [FileState.identifier?] using hi
    exact ⟨t,c,hc,(Option.some.inj hid).symm,.inl rfl⟩
  | failed i? t? =>
    obtain rfl : i? = some identifier := by simpa [FileState.identifier?] using hi
    cases t? with
    | none => simp [FileState.Grounded, FileState.goodText?, FileState.identifier?] at h
    | some t =>
      obtain ⟨c,hc,hid⟩ := h
      exact ⟨t,c,hc,(Option.some.inj hid).symm,.inr rfl⟩

namespace Index

/-- The class of a file by the last of its texts that could be read. -/
def goodClass? (ix : Index) (file : Path) : Option Class :=
  (ix.stateOf file).goodText?.bind fun t => (Class.ofString t).toOption

theorem stateOf_same (ix : Index) {f g : Path} (h : f.same g = true) :
    ix.stateOf f = ix.stateOf g := by
  simp [stateOf, ix.files.get?_same h]

theorem goodClass?_same (ix : Index) {f g : Path} (h : f.same g = true) :
    ix.goodClass? f = ix.goodClass? g := by
  simp [goodClass?, ix.stateOf_same h]

theorem goodClass?_eq_some {ix : Index} {file : Path} {c : Class} (h : ix.goodClass? file = some c) :
    ∃ t, (ix.stateOf file).goodText? = some t ∧ Class.ofString t = .ok c := by
  obtain ⟨t,ht,hc⟩ := Option.bind_eq_some_iff.mp h
  refine ⟨t,ht,?_⟩
  cases hr : Class.ofString t with
  | error d => simp [hr, Except.toOption] at hc
  | ok d => simpa [hr, Except.toOption] using hc

/-- All that is kept of files comes from their last texts that could be read. -/
structure Sound (ix : Index) : Prop where
  grounded : ∀ file, (ix.stateOf file).Grounded
  cached : ∀ file c, (ix.cache.get file).1 = some c → ix.goodClass? file = some c

theorem sound_new (config : Config) : (Index.new config).Sound where
  grounded _ := rfl
  cached file c h := by simp [new] at h

theorem Sound.congr {ix jx : Index} (h : ix.Sound) (hf : jx.files = ix.files)
    (hc : ∀ file, (jx.cache.get file).1 = (ix.cache.get file).1) : jx.Sound where
  grounded file := by simpa [stateOf, hf] using h.grounded file
  cached file c hget := by
    rw [hc] at hget
    simpa [goodClass?, stateOf, hf] using h.cached file c hget

/-- A new state of one file that makes the same class, or the one that is now in the cache. -/
theorem Sound.insert {ix jx : Index} (h : ix.Sound) {file : Path} {e : FileEntry}
    (hf : jx.files = ix.files.insert file e) (hg : e.state.Grounded)
    (hc : ∀ f c, (jx.cache.get f).1 = some c →
      if f.same file then jx.goodClass? file = some c else (ix.cache.get f).1 = some c) :
    jx.Sound where
  grounded f := by
    by_cases hs : f.same file = true
    · simpa [stateOf, hf, PathMap.get?_insert, hs] using hg
    · simpa [stateOf, hf, PathMap.get?_insert, hs] using h.grounded f
  cached f c hget := by
    have hfound := hc f c hget
    by_cases hs : f.same file = true
    · rw [if_pos hs] at hfound
      rwa [jx.goodClass?_same hs]
    · rw [if_neg hs] at hfound
      simpa [goodClass?, stateOf, hf, PathMap.get?_insert, hs] using h.cached f c hfound

theorem Sound.register {ix : Index} (h : ix.Sound) (file : Path) : (ix.register file).Sound := by
  unfold Index.register
  split
  · exact h
  · next hnew =>
    have hstate : ix.stateOf file = .unparsed := by
      simp [stateOf, PathMap.get?_of_not_contains hnew]
    refine h.insert rfl rfl fun f c hget => ?_
    split
    · next hs =>
      have hgood := h.cached f c hget
      rw [ix.goodClass?_same hs] at hgood
      simp [goodClass?, hstate, FileState.goodText?] at hgood
    · exact hget

theorem Sound.reject {ix : Index} (h : ix.Sound) (file : Path) (stamp : Stamp) (d : Diagnostic) :
    (ix.reject file stamp d).Sound := by
  refine h.insert (files_reject ix file stamp d) (h.grounded file) fun f c hget => ?_
  split
  · next hs =>
    have hgood := h.cached f c hget
    rw [ix.goodClass?_same hs] at hgood
    simpa [goodClass?, stateOf, FileState.goodText?] using hgood
  · exact hget

theorem Sound.accept {ix : Index} (h : ix.Sound) (file : Path) {stamp : Stamp} {c : Class}
    (hc : Class.ofString stamp.text = .ok c) : (ix.accept file stamp c).Sound := by
  refine h.insert (files_accept ix file stamp c) ⟨c,hc,rfl⟩ fun f d hget => ?_
  rw [cache_accept] at hget
  have hfound := Cache.get_insert hget
  split at hfound
  · next hs =>
    subst hfound
    simp [hs, goodClass?, stateOf, FileState.goodText?, hc, Except.toOption]
  · next hs => simpa [hs] using hfound

theorem Sound.parse {ix : Index} (h : ix.Sound) (file : Path) (stamp : Stamp) :
    (ix.parse file stamp).2.Sound := by
  unfold Index.parse
  split
  · next hc => exact h.accept file hc
  · exact h.reject file stamp _

theorem Sound.consult {ix : Index} (h : ix.Sound) (file : Path) :
    Sound { ix with cache := (ix.cache.get file).2 } :=
  h.congr rfl fun f => ix.cache.get_get file f

/-! ### The class of a file -/

theorem materialize_of_cached {ix : Index} {file : Path} {c : Class} (state : FileState)
    (h : (ix.cache.get file).1 = some c) :
    ix.materialize file state = (some c,{ ix with cache := (ix.cache.get file).2 }) := by
  unfold materialize
  split
  · simp_all
  · simp_all

theorem materialize_of_not_cached {ix : Index} {file : Path} {state : FileState}
    (h : (ix.cache.get file).1 = none) {t : String} (ht : state.goodText? = some t) {c : Class}
    (hc : Class.ofString t = .ok c) :
    ix.materialize file state = (some c,{ ix with cache := (ix.cache.insert file c).2 }) := by
  unfold materialize
  simp [Cache.get_of_none h, ht, hc]

theorem materialize_of_no_text {ix : Index} {file : Path} {state : FileState}
    (h : (ix.cache.get file).1 = none)
    (ht : ∀ t c, state.goodText? = some t → Class.ofString t ≠ .ok c) :
    ix.materialize file state = (none,ix) := by
  unfold materialize
  simp only [Cache.get_of_none h]
  split
  · next c hc =>
    obtain ⟨t,hgood,hread⟩ := Option.map_eq_some_iff.mp hc
    exact absurd hread (ht t c hgood)
  · rfl

theorem fst_materialize {ix : Index} (h : ix.Sound) (file : Path) :
    (ix.materialize file (ix.stateOf file)).1 = ix.goodClass? file := by
  cases hc : (ix.cache.get file).1 with
  | some c => rw [materialize_of_cached _ hc, h.cached file c hc]
  | none =>
    cases hg : ix.goodClass? file with
    | some c =>
      obtain ⟨t,ht,hread⟩ := goodClass?_eq_some hg
      rw [materialize_of_not_cached hc ht hread]
    | none =>
      rw [materialize_of_no_text hc]
      intro t c ht hread
      simp [goodClass?, ht, hread, Except.toOption] at hg

theorem Sound.materialize {ix : Index} (h : ix.Sound) (file : Path) :
    (ix.materialize file (ix.stateOf file)).2.Sound := by
  cases hc : (ix.cache.get file).1 with
  | some c =>
    rw [materialize_of_cached _ hc]
    exact h.consult file
  | none =>
    cases hg : ix.goodClass? file with
    | some c =>
      obtain ⟨t,ht,hread⟩ := goodClass?_eq_some hg
      rw [materialize_of_not_cached hc ht hread]
      refine ⟨h.grounded,fun f d hget => ?_⟩
      have hfound := Cache.get_insert hget
      split at hfound
      · next hs =>
        subst hfound
        exact (ix.goodClass?_same hs).trans hg
      · exact h.cached f d hfound
    | none =>
      rw [materialize_of_no_text hc]
      · exact h
      · intro t c ht hread
        simp [goodClass?, ht, hread, Except.toOption] at hg

theorem Sound.refresh {ix : Index} (h : ix.Sound) (file : Path) (text : String)
    (version? : Option Int) : (ix.refresh file text version?).2.Sound := by
  rcases ix.snd_refresh_cases file text version? with heq | heq | heq
  · rwa [heq]
  · rw [heq]
    exact h.materialize file
  · rw [heq]
    exact h.parse file _

theorem Sound.remove {ix : Index} (h : ix.Sound) (file : Path) : (ix.remove file).Sound where
  grounded f := by
    have hf := h.grounded f
    unfold stateOf at hf ⊢
    rw [remove_eq]
    simp only [files_removeEntry, PathMap.get?_erase]
    split
    · rfl
    · exact hf
  cached f c hget := by
    rw [remove_eq] at hget ⊢
    rw [Cache.get_remove] at hget
    split at hget
    · simp at hget
    · next hs => simpa [goodClass?, stateOf, PathMap.get?_erase, hs] using h.cached f c hget

end Index

end SmaliNavigator
