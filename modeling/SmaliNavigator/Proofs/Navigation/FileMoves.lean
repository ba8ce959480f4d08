import Mathlib.Data.List.Pairwise
import SmaliNavigator.Proofs.Landing
import SmaliNavigator.Proofs.Index.Loading
import SmaliNavigator.Proofs.Navigation.Edits
import SmaliNavigator.Proofs.Navigation.Resolution

/-!
The files that move with a class. Each file that declares the class is moved on its own, without a look
at the other ones or at what is known to be where it goes. So files are only kept apart if they land in
different directories, and if no file of another class has the new name there.
-/

set_option autoImplicit false

namespace SmaliNavigator

open Text

/-- Where the class of an identifier is expected below a source directory. -/
def conventionalPath? (identifier : String) : Option Path :=
  (Descriptor.ofString? identifier).bind fun t =>
    t.className?.map fun n => .ofString n.conventionalPath

theorem exists_endsInName_conventionalPath (n : ClassName) :
    ∃ name, (Path.ofString n.conventionalPath).EndsInName name := by
  have hbytes : (Path.ofString n.conventionalPath).bytes =
      encodeUtf8 n.internal.toList ++ encodeUtf8 ".smali".toList := by
    simp [Path.ofString, ClassName.conventionalPath, encodeUtf8]
  have hsuffix : ∀ b ∈ encodeUtf8 ".smali".toList, (b == Path.slash) = false := by
    have hall : (encodeUtf8 ".smali".toList).all (· != Path.slash) = true := by decide
    simpa using hall
  obtain ⟨part,hlast⟩ := getLast?_splitWhere_append hsuffix (encodeUtf8 n.internal.toList)
  refine ⟨part ++ encodeUtf8 ".smali".toList,by rw [Path.pieces, hbytes]; exact hlast,fun isFirst => ?_⟩
  have hlength : 6 ≤ (part ++ encodeUtf8 ".smali".toList).length := by
    rw [List.length_append]
    exact Nat.le_add_left 6 _
  generalize part ++ encodeUtf8 ".smali".toList = piece at hlength
  unfold Path.component?
  rw [if_neg (by rintro rfl; simp at hlength), if_neg (by rintro rfl; simp at hlength),
    if_neg (by rintro rfl; simp at hlength)]

theorem exists_endsInName {identifier : String} {path : Path}
    (h : conventionalPath? identifier = some path) : ∃ name, path.EndsInName name := by
  obtain ⟨t,_,hpath⟩ := Option.bind_eq_some_iff.mp h
  obtain ⟨n,_,rfl⟩ := Option.map_eq_some_iff.mp hpath
  exact exists_endsInName_conventionalPath n

namespace RenameEdits

/-- No two files are moved to the same place, and a file that is already there is moved away. -/
structure KeepsFilesApart (r : RenameEdits) (known : List Path) : Prop where
  targets : r.moves.Pairwise fun m n => m.2.same n.2 = false
  away : ∀ m ∈ r.moves, ∀ g ∈ known, g.same m.2 = true → ∃ n ∈ r.moves, n.1.same g = true

instance (r : RenameEdits) (known : List Path) : Decidable (r.KeepsFilesApart known) :=
  decidable_of_iff ((r.moves.Pairwise fun m n => m.2.same n.2 = false) ∧
    ∀ m ∈ r.moves, ∀ g ∈ known, g.same m.2 = true → ∃ n ∈ r.moves, n.1.same g = true)
    ⟨fun ⟨htargets,haway⟩ => ⟨htargets,haway⟩,fun h => ⟨h.targets,h.away⟩⟩

theorem movesOf_eq_nil (files : List Path) {old new : String}
    (h : conventionalPath? old = none ∨ conventionalPath? new = none) : movesOf files old new = [] := by
  unfold movesOf
  dsimp only
  rw [← conventionalPath?, ← conventionalPath?]
  rcases h with h | h
  · rw [h]
  · rw [h]
    cases conventionalPath? old <;> rfl

section Moves

variable {files : List Path} {old new : String} {oldPath newPath : Path}
  (hold : conventionalPath? old = some oldPath) (hnew : conventionalPath? new = some newPath)
include hold hnew

theorem movesOf_eq : movesOf files old new = files.filterMap fun f =>
    if (f.relocated oldPath newPath).same f then none else some (f,f.relocated oldPath newPath) := by
  unfold movesOf
  dsimp only
  rw [← conventionalPath?, ← conventionalPath?, hold, hnew]

theorem mem_movesOf {m : Path × Path} : m ∈ movesOf files old new ↔
    m.1 ∈ files ∧ m.2 = m.1.relocated oldPath newPath ∧ m.2.same m.1 = false := by
  rw [movesOf_eq hold hnew, List.mem_filterMap]
  constructor
  · rintro ⟨f,hf,hm⟩
    split at hm
    · cases hm
    · next hmoved =>
      obtain rfl := Option.some.inj hm
      exact ⟨hf,rfl,by simpa using hmoved⟩
  · rintro ⟨hf,htarget,hmoved⟩
    refine ⟨m.1,hf,?_⟩
    rw [← htarget, hmoved]
    rfl

theorem pairwise_movesOf (h : files.Pairwise fun f g =>
      (f.relocated oldPath newPath).same (g.relocated oldPath newPath) = false) :
    (movesOf files old new).Pairwise fun m n => m.2.same n.2 = false := by
  rw [movesOf_eq hold hnew, List.pairwise_filterMap]
  refine h.imp fun {f g} hapart m hm n hn => ?_
  split at hm
  · cases hm
  · split at hn
    · cases hn
    · obtain rfl := Option.some.inj hm
      obtain rfl := Option.some.inj hn
      exact hapart

variable (hfiles : files.Pairwise fun f g => f.same g = false) {known : List Path}
  (hknown : ∀ f ∈ files, ∃ g ∈ known, g.same f = true)
include hfiles hknown

/-- Files that are kept apart are not the same anywhere behind the moves, moved or not. -/
theorem KeepsFilesApart.not_same {r : RenameEdits} (hmoves : r.moves = movesOf files old new)
    (h : r.KeepsFilesApart known) : files.Pairwise fun f g =>
      (f.relocated oldPath newPath).same (g.relocated oldPath newPath) = false := by
  have hmem (m : Path × Path) : m ∈ r.moves ↔
      m.1 ∈ files ∧ m.2 = m.1.relocated oldPath newPath ∧ m.2.same m.1 = false := by
    rw [hmoves, mem_movesOf hold hnew]
  -- a file that stays is not where another one goes
  have hstays {f g : Path} (hf : f ∈ files) (hg : g ∈ files) (hfg : f.same g = false)
      (hstay : (f.relocated oldPath newPath).same f = true) :
      (g.relocated oldPath newPath).same f = false := by
    by_contra hsame
    rw [Bool.not_eq_false] at hsame
    have hmoved : (g.relocated oldPath newPath).same g = false := by
      rw [Path.same_left hsame, hfg]
    obtain ⟨k,hk,hkf⟩ := hknown f hf
    obtain ⟨n,hn,hnk⟩ := h.away (g,g.relocated oldPath newPath) ((hmem _).mpr ⟨hg,rfl,hmoved⟩) k hk
      (by rw [Path.same_right hsame, hkf])
    obtain ⟨_,htarget,haway⟩ := (hmem n).mp hn
    have hnf : n.1.same f = true := by rw [Path.same_left hnk, hkf]
    rw [htarget, Path.same_left (Path.same_relocated hnf oldPath newPath), Path.same_right hnf, hstay]
      at haway
    cases haway
  have htargets := h.targets
  rw [hmoves, movesOf_eq hold hnew, List.pairwise_filterMap] at htargets
  refine (hfiles.and htargets).imp_of_mem fun {f g} hf hg ⟨hfg,hapart⟩ => ?_
  by_cases hstayf : (f.relocated oldPath newPath).same f = true
  · rw [Path.same_left hstayf, Path.same_comm]
    exact hstays hf hg hfg hstayf
  · by_cases hstayg : (g.relocated oldPath newPath).same g = true
    · rw [Path.same_right hstayg]
      exact hstays hg hf (by rwa [Path.same_comm]) hstayg
    · exact hapart _ (if_neg hstayf) _ (if_neg hstayg)

theorem keepsFilesApart_iff {r : RenameEdits} (hmoves : r.moves = movesOf files old new) :
    r.KeepsFilesApart known ↔
      (files.Pairwise fun f g => (f.landing oldPath newPath).same (g.landing oldPath newPath) = false) ∧
      ∀ f ∈ files, ∀ g ∈ known, g.same (f.relocated oldPath newPath) = true →
        ∃ d ∈ files, d.same g = true := by
  have hmem (m : Path × Path) : m ∈ r.moves ↔
      m.1 ∈ files ∧ m.2 = m.1.relocated oldPath newPath ∧ m.2.same m.1 = false := by
    rw [hmoves, mem_movesOf hold hnew]
  obtain ⟨name,hname⟩ := exists_endsInName hnew
  have hlanding (f g : Path) : (f.landing oldPath newPath).same (g.landing oldPath newPath) =
      (f.relocated oldPath newPath).same (g.relocated oldPath newPath) := by
    rw [Bool.eq_iff_iff, Path.same_relocated_iff hname]
  simp only [hlanding]
  constructor
  · refine fun h => ⟨h.not_same hold hnew hfiles hknown hmoves,fun f hf g hg hsame => ?_⟩
    by_cases hstay : (f.relocated oldPath newPath).same f = true
    · exact ⟨f,hf,by rw [Path.same_right hsame, Path.same_comm, hstay]⟩
    · obtain ⟨n,hn,hng⟩ := h.away (f,f.relocated oldPath newPath)
        ((hmem _).mpr ⟨hf,rfl,by simpa using hstay⟩) g hg hsame
      exact ⟨n.1,((hmem n).mp hn).1,hng⟩
  · rintro ⟨hapart,hclear⟩
    refine ⟨hmoves ▸ pairwise_movesOf hold hnew hapart,fun m hm g hg hsame => ?_⟩
    obtain ⟨hf,htarget,hmoved⟩ := (hmem m).mp hm
    rw [htarget] at hsame hmoved
    obtain ⟨d,hd,hdg⟩ := hclear m.1 hf g hg hsame
    have hdtarget : d.same (m.1.relocated oldPath newPath) = true := by rw [Path.same_left hdg, hsame]
    have hne : d ≠ m.1 := by
      rintro rfl
      rw [Path.same_comm, hdtarget] at hmoved
      cases hmoved
    have hsymm : Std.Symm fun f g : Path =>
        (f.relocated oldPath newPath).same (g.relocated oldPath newPath) = false :=
      ⟨fun f g hfg => by rwa [Path.same_comm]⟩
    refine ⟨(d,d.relocated oldPath newPath),(hmem _).mpr ⟨hd,rfl,?_⟩,hdg⟩
    rw [Path.same_right hdtarget]
    exact hapart.forall hd hf hne

end Moves

end RenameEdits

namespace Index

variable {s : Surroundings} {ix : Index}

theorem pairwise_declarers (ix : Index) (identifier : String) :
    (ix.declarers identifier).Pairwise fun f g => f.same g = false :=
  PathMap.pairwise_files _

theorem Mapped.exists_knownFile {ix : Index} (h : ix.Mapped) {identifier : String} {file : Path}
    (hfile : file ∈ ix.declarers identifier) : ∃ g ∈ ix.knownFiles, g.same file = true := by
  refine PathMap.exists_mem_files ?_
  have hid := h.identifierOf?_of_mem_declarers hfile
  rw [PathMap.contains_eq_isSome]
  obtain ⟨e,he,_⟩ := Option.bind_eq_some_iff.mp hid
  rw [he]
  rfl

/-- In a project that was read as a whole, each file that is listed under a class has that class. -/
theorem AllRead.map_fst_declared (h : ix.AllRead s.source) (identifier : String) :
    (ix.declared identifier).map (·.1) = ix.declarers identifier := by
  have hone : ∀ f ∈ ix.declarers identifier,
      (((ix.goodClass? f).filter (·.identifier = identifier)).toList.map fun c => (f,c)).map (·.1) =
        [f] := by
    intro f hf
    have hid := h.mapped.identifierOf?_of_mem_declarers hf
    rw [identifierOf?_eq] at hid
    obtain ⟨t,c,hread,rfl,hstate⟩ := (h.sound.grounded f).of_identifier? hid
    have hgood : ix.goodClass? f = some c := by
      rcases hstate with hstate | hstate <;>
        simp [goodClass?, hstate, FileState.goodText?, hread, Except.toOption]
    have hown : (some c).filter (·.identifier = c.identifier) = some c := by simp
    rw [hgood, hown]
    rfl
  rw [declared, declaredAmong, List.map_flatMap, List.flatMap_congr hone]
  exact List.flatMap_singleton' _

theorem AllRead.moves_of_renameClass (h : ix.AllRead s.source) {t : Descriptor} {new : String}
    {r : RenameEdits} {a b : Activity} (ha : Alike ix a.index)
    (hrun : (Query.renameClass t new).run s a = (some (.ok r),b)) :
    ∃ old id, t.classIdentifier? = some old ∧ identifierOfName? new = some id ∧
      r.moves = RenameEdits.movesOf (ix.declarers old) old id := by
  unfold Query.renameClass at hrun
  cases hold : t.classIdentifier? with
  | none => rw [hold] at hrun; cases hrun
  | some old =>
    cases hid : identifierOfName? new with
    | none => rw [hold, hid] at hrun; cases hrun
    | some id =>
      refine ⟨old,id,rfl,rfl,?_⟩
      obtain ⟨a',hfound,_⟩ := h.answers_findClasses old a ha
      rw [hold, hid] at hrun
      dsimp only at hrun
      rw [Query.run_bind, hfound] at hrun
      dsimp only at hrun
      rw [h.map_fst_declared] at hrun
      cases hfiles : ix.declarers old with
      | nil => rw [hfiles] at hrun; cases hrun
      | cons f fs =>
        rw [hfiles] at hrun
        dsimp only at hrun
        rw [Query.run_bind] at hrun
        rcases hoccurrences : (Query.findOccurrences [old]).run s a' with ⟨_ | occurrences,b'⟩
        · rw [hoccurrences] at hrun; cases hrun
        · rw [hoccurrences] at hrun
          cases hrun
          rfl

end Index

namespace Query

variable {s : Surroundings} {ix : Index}

/-- The rename of a class keeps files apart exactly if the files that declare the class land in
different directories, and if nothing but such a file is known where one of them goes. Where the new
name is none that a class can be found by, no file moves. -/
theorem rename_keepsFilesApart_iff (h : ix.AllRead s.source) {file : Path} {p : Position}
    {t : Descriptor} (hspot : ((spotIn? file p).ask s ix).1 = some (some (.type t))) {new : String}
    {r : RenameEdits} (hrename : ((rename file p new).ask s ix).1 = some (.ok r)) :
    ∃ old id, t.classIdentifier? = some old ∧ identifierOfName? new = some id ∧
      (conventionalPath? old = none ∨ conventionalPath? id = none → r.moves = []) ∧
      ∀ oldPath newPath, conventionalPath? old = some oldPath →
        conventionalPath? id = some newPath →
        (r.KeepsFilesApart ix.knownFiles ↔
          ((ix.declarers old).Pairwise fun f g =>
            (f.landing oldPath newPath).same (g.landing oldPath newPath) = false) ∧
          ∀ f ∈ ix.declarers old, ∀ g ∈ ix.knownFiles,
            g.same (f.relocated oldPath newPath) = true → ix.identifierOf? g = some old) := by
  have hrun : ((rename file p new).run s ⟨ix,0,0⟩).1 = some (.ok r) := hrename
  obtain ⟨a,hfound,ha⟩ := answers_spotIn?_of_ask h.sound hspot ⟨ix,0,0⟩ ⟨rfl,h.sound,h.sound⟩
  rw [rename, run_bind, hfound] at hrun
  obtain ⟨old,id,hold,hid,hmoves⟩ := h.moves_of_renameClass ha (Prod.ext hrun rfl)
  refine ⟨old,id,hold,hid,fun hnone => hmoves.trans (RenameEdits.movesOf_eq_nil _ hnone),
    fun oldPath newPath holdPath hnewPath => ?_⟩
  rw [RenameEdits.keepsFilesApart_iff holdPath hnewPath (ix.pairwise_declarers old)
    (fun f hf => h.mapped.exists_knownFile hf) hmoves]
  have hdeclares (g : Path) : (∃ d ∈ ix.declarers old, d.same g = true) ↔
      ix.identifierOf? g = some old := by
    rw [← h.mapped.declares_iff, Index.declares_eq_any, List.any_eq_true]
  simp only [hdeclares]

/-- A class that two source directories declare, and a file that is not where the class is expected. -/
theorem rename_keepsFilesApart_iff_misplaced :
    let text := ".class Lp/a;\n.super Lb;\n"
    let file := Path.ofString "smali/p/a.smali"
    let s : Surroundings := ⟨(((MemoryProject.empty.put file ⟨text,none⟩).put
      (.ofString "lib/p/a.smali") ⟨text,none⟩).put (.ofString "odd.smali") ⟨text,none⟩).source,.never⟩
    let ix := (Operation.load.query.ask s (.new .default)).2
    let t : Descriptor := .single (.object ⟨"p/a",⟨⟨0,7⟩,⟨0,12⟩⟩⟩)
    ix.AllRead s.source ∧ ((spotIn? file ⟨0,8⟩).ask s ix).1 = some (some (.type t)) ∧
      ∃ r, ((rename file ⟨0,8⟩ "q.b").ask s ix).1 = some (.ok r) ∧
        r.moves.map (·.2.text) = ["lib/q/b.smali","b.smali","smali/q/b.smali"] ∧
        r.KeepsFilesApart ix.knownFiles := by
  intro text file s ix t
  have hread : ix.AllRead s.source :=
    (Index.complete_load rfl rfl (MemoryProject.ignoresSpelling _) rfl).toAllRead
  have hspot : ((spotIn? file ⟨0,8⟩).ask s ix).1 = some (some (.type t)) := by decide +kernel
  have hasked : (((rename file ⟨0,8⟩ "q.b").ask s ix).1.bind Except.toOption).any (fun r =>
      r.moves.map (·.2.text) == ["lib/q/b.smali","b.smali","smali/q/b.smali"]) = true := by
    decide +kernel
  obtain ⟨r,hr,hmoves⟩ := exists_ok_of_any hasked
  obtain ⟨old,id,hold,hid,-,hiff⟩ := rename_keepsFilesApart_iff hread hspot hr
  obtain rfl : "Lp/a;" = old := Option.some.inj hold
  obtain rfl : "Lq/b;" = id := Option.some.inj ((by decide +kernel : _ = some "Lq/b;").symm.trans hid)
  refine ⟨hread,hspot,r,hr,by simpa using hmoves,?_⟩
  refine (hiff (.ofString "p/a.smali") (.ofString "q/b.smali") (by decide +kernel)
    (by decide +kernel)).mpr ⟨by decide +kernel,by decide +kernel⟩

/-- Two files of one directory that declare the same class go to the same place. Another class goes
where a file of a third one stays. -/
theorem not_keepsFilesApart :
    let a := Path.ofString "a.smali"
    let q := Path.ofString "q.smali"
    let s : Surroundings := ⟨((((MemoryProject.empty.put a ⟨".class La;\n.super Lb;\n",none⟩).put
      (.ofString "b.smali") ⟨".class La;\n.super Lb;\n",none⟩).put
      q ⟨".class Lq;\n.super Lb;\n",none⟩).put
      (.ofString "x.smali") ⟨".class Lx;\n.super Lb;\n",none⟩).source,.never⟩
    let ix := (Operation.load.query.ask s (.new .default)).2
    ix.Complete s.source ∧
      (∃ r, ((rename a ⟨0,8⟩ "c").ask s ix).1 = some (.ok r) ∧
        r.moves.map (·.2.text) = ["c.smali","c.smali"] ∧ ¬r.KeepsFilesApart ix.knownFiles) ∧
      ∃ r, ((rename q ⟨0,8⟩ "x").ask s ix).1 = some (.ok r) ∧
        r.moves.map (·.2.text) = ["x.smali"] ∧ ¬r.KeepsFilesApart ix.knownFiles := by
  intro a q s ix
  have hsame : (((rename a ⟨0,8⟩ "c").ask s ix).1.bind Except.toOption).any (fun r =>
      r.moves.map (·.2.text) == ["c.smali","c.smali"] && !decide (r.KeepsFilesApart ix.knownFiles)) =
        true := by
    decide +kernel
  have hthere : (((rename q ⟨0,8⟩ "x").ask s ix).1.bind Except.toOption).any (fun r =>
      r.moves.map (·.2.text) == ["x.smali"] && !decide (r.KeepsFilesApart ix.knownFiles)) = true := by
    decide +kernel
  obtain ⟨r,hr,hmerged⟩ := exists_ok_of_any hsame
  obtain ⟨r',hr',htaken⟩ := exists_ok_of_any hthere
  exact ⟨Index.complete_load rfl rfl (MemoryProject.ignoresSpelling _) rfl,
    ⟨r,hr,by simpa using hmerged⟩,⟨r',hr',by simpa using htaken⟩⟩

end Query

end SmaliNavigator
