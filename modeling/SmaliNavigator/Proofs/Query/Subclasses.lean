import SmaliNavigator.Proofs.Query.Nearest

/-!
The subclasses that are answered. A class is a child of another one by what was read of it, but it is
only looked at where its text has the words `.super` or `.implements` with one blank in front of the
parent. Where all texts have them, the walk downwards is the converse of the walk upwards.
-/

set_option autoImplicit false

namespace SmaliNavigator

namespace Index

open Query (Meets)

variable {s : Surroundings} {ix jx : Index} {source : Source} {f : Path}

theorem KeepsTexts.stateIn (h : ix.KeepsTexts source) (hf : f ∈ ix.knownFiles) {text : String}
    (ht : (ix.stateIn source f).goodText? = some text) :
    ∃ version?, source.open? f = .ok ⟨text,version?⟩ := by
  by_cases hstate : ix.stateOf f = .unparsed
  · cases hopen : source.open? f with
    | error e =>
      rw [stateIn_of_error hopen, hstate] at ht
      cases ht
    | ok live =>
      rw [stateIn_of_unread hstate hopen] at ht
      cases hc : Class.ofString live.text with
      | error d => simp [FileState.after_error hc, FileState.goodText?] at ht
      | ok c =>
        obtain rfl : live.text = text := by simpa [FileState.after_ok hc, FileState.goodText?] using ht
        exact ⟨live.version?,rfl⟩
  · rw [stateIn_of_read hstate] at ht
    exact h f hf text ht

theorem ReadFurther.keepsTexts (h : ReadFurther source ix jx) (hkeeps : ix.KeepsTexts source) :
    jx.KeepsTexts source := by
  intro f hf text ht
  rw [h.knownFiles] at hf
  by_cases hstate : jx.stateOf f = .unparsed
  · rw [hstate] at ht
    cases ht
  · rw [← stateIn_of_read hstate, h.stateIn f hf] at ht
    exact hkeeps.stateIn hf ht

theorem KeepsTexts.textOf? (h : ix.KeepsTexts source) (hf : f ∈ ix.knownFiles) {c : Class}
    (hc : ix.goodClass? f = some c) : source.textOf? f = some c.document := by
  obtain ⟨t,ht,hread⟩ := goodClass?_eq_some hc
  obtain ⟨version?,hopen⟩ := h f hf t ht
  simp [Source.textOf?, hopen, Except.toOption, Class.document_of_ofDocument hread]

theorem KeepsTexts.shown (h : ix.KeepsTexts s.source) (hix : ix.Reachable) (hready : ix.ready = true) :
    Shown s (ReadFurther s.source ix) (ix.readAll s.source) := by
  obtain ⟨hall,-⟩ := hix.readFurther_readAll s.source
  refine ⟨fun jx hj => hj.knownFiles.trans hall.knownFiles.symm,fun jx hj => hj.ready.trans hready,
    fun f hf => Query.meets_classOf? hix (hall.knownFiles ▸ hf),fun f hf a ha => ?_⟩
  obtain ⟨_,hrun⟩ := Query.run_sourceOf? f s a
  rw [Query.sought?_of_live ha.sound] at hrun
  · refine ⟨_,_,hrun,fun c hc => (hall.keepsTexts h).textOf? hf hc,ha.alike ⟨rfl,ha.sound,?_⟩⟩
    exact ha.sound.consult f
  · exact ha.keepsTexts h f (ha.knownFiles ▸ hall.knownFiles ▸ hf)

end Index

namespace Query

variable {s : Surroundings} {ix : Index}

/-- The text of a child is no class any more, and the class that was read of it has left the cache: the
child is not found, though it still is below its parent. -/
theorem subclasses_unreadable_text :
    let s : Surroundings := ⟨(MemoryProject.empty.put (.ofString "A.smali")
      ⟨".class LA;\n.super LB;\n",none⟩).source,.never⟩
    let s' : Surroundings := ⟨(MemoryProject.empty.put (.ofString "A.smali")
      ⟨"# .class LA;\n",none⟩).source,.never⟩
    let ix := (Operation.load.query.ask s (.new { Config.default with cacheBudget := 0 })).2
    let jx := ((Operation.refresh (.ofString "A.smali") "# .class LA;\n" none).query.ask s' ix).2
    jx.Reachable ∧ jx.ready = true ∧ (jx.readAll s'.source).SpellsParents ∧
      (jx.readAll s'.source).Extends "LA;" "LB;" ∧ ((subclasses "LB;").ask s' jx).1 = some [] := by
  intro s s' ix jx
  exact ⟨.step s' _ (.step s .load (.new _)),by decide +kernel,by decide +kernel,by decide +kernel,
    by decide +kernel⟩

/-- A child is found if its text names the parent in those words. Where it has no other way down from
the class, it is found only if one of its declarations does. -/
theorem mem_subclasses_of_parent (h : ix.Complete s.source) (hnever : s.cancellation = .never)
    {file : Path} {c : Class} (hc : (file,c) ∈ ix.classes) {identifier : String}
    (hparent : identifier ∈ c.parentIdentifiers) (hne : c.identifier ≠ identifier) :
    ∃ found, ((subclasses identifier).ask s ix).1 = some found ∧
      (mentionsChildOf [identifier] c.document = true → c.identifier ∈ found) ∧
      ((∀ parent, ix.Extends c.identifier parent → parent ≠ identifier →
          ¬ix.Below parent identifier) →
        (c.identifier ∈ found ↔ ix.Spells c.identifier identifier)) := by
  have hspells (hx : ix.Spells c.identifier identifier) :
      c.identifier ∈ ix.subclassesOf identifier :=
    Index.mem_subclassesOf_of_spells (.single hx) hne
  refine ⟨_,(h.answers_subclasses hnever identifier).fst_ask h.sound,fun hmentions => ?_,
    fun hother => ⟨fun hmem => ?_,hspells⟩⟩
  · exact hspells ⟨file,c,hc,rfl,hparent,hmentions⟩
  · obtain ⟨level,hlevel,hchild⟩ := Index.exists_level_of_mem_subclassesOf hmem
    obtain ⟨_,g,d,hd,hid,⟨y,hy,hyparent⟩,hmentions⟩ := Index.mem_childrenBut.mp hchild
    rcases hlevel with rfl | hlevel
    · obtain rfl := List.mem_singleton.mp hy
      exact ⟨g,d,hd,hid,hyparent,hmentions⟩
    · obtain ⟨hy,hbelow⟩ := hlevel y hy
      exact absurd hbelow (hother y ⟨g,d,hd,hid,hyparent⟩ hy)

/-- A class that names its parent in a second declaration only. -/
theorem mem_subclasses_of_parent_redeclared :
    let s : Surroundings := ⟨(((MemoryProject.empty.put (.ofString "A.smali")
      ⟨".class La;\n.super Lb;\n",none⟩).put (.ofString "B.smali")
      ⟨".class Lc;\n.super\tLa;\n",none⟩).put (.ofString "C.smali")
      ⟨".class Lc;\n.super La;\n",none⟩).source,.never⟩
    let ix := (Operation.load.query.ask s (.new .default)).2
    ix.Complete s.source ∧ ∃ c, (Path.ofString "B.smali",c) ∈ ix.classes ∧
      "La;" ∈ c.parentIdentifiers ∧ c.identifier = "Lc;" ∧
      mentionsChildOf ["La;"] c.document = false ∧
      ∃ found, ((subclasses "La;").ask s ix).1 = some found ∧
        (mentionsChildOf ["La;"] c.document = true → c.identifier ∈ found) ∧
        ((∀ parent, ix.Extends c.identifier parent → parent ≠ "La;" → ¬ix.Below parent "La;") →
          (c.identifier ∈ found ↔ ix.Spells c.identifier "La;")) := by
  intro s ix
  have hcomplete : ix.Complete s.source :=
    Index.complete_load rfl rfl (MemoryProject.ignoresSpelling _) rfl
  have hclass : ix.classes.any (fun x => x.1 == .ofString "B.smali" && x.2.identifier == "Lc;" &&
      x.2.parentIdentifiers.contains "La;" && !mentionsChildOf ["La;"] x.2.document) = true := by
    decide +kernel
  obtain ⟨⟨f,c⟩,hc,hcond⟩ := List.any_eq_true.mp hclass
  simp only [Bool.and_eq_true, beq_iff_eq, List.contains_iff_mem, Bool.not_eq_true'] at hcond
  obtain ⟨⟨⟨rfl,hid⟩,hparent⟩,hmentions⟩ := hcond
  exact ⟨hcomplete,c,hc,hparent,hid,hmentions,
    mem_subclasses_of_parent hcomplete rfl hc hparent (by rw [hid]; decide)⟩

/-- Two blanks in front of the parent: the class extends it and is not among its subclasses, while the
parent is among the superclasses of the class. -/
theorem subclasses_two_blanks :
    let s : Surroundings := ⟨((MemoryProject.empty.put (.ofString "A.smali")
      ⟨".class La;\n.super Lb;\n",none⟩).put (.ofString "B.smali")
      ⟨".class Lc;\n.super  La;\n",none⟩).source,.never⟩
    let ix := (Operation.load.query.ask s (.new .default)).2
    ix.Complete s.source ∧ ix.Extends "Lc;" "La;" ∧
      ((superclasses "Lc;").ask s ix).1 = some ["La;","Lb;"] ∧
      ((subclasses "La;").ask s ix).1 = some [] := by
  intro s ix
  exact ⟨Index.complete_load rfl rfl (MemoryProject.ignoresSpelling _) rfl,by decide +kernel,
    by decide +kernel,by decide +kernel⟩

end Query

end SmaliNavigator
