import SmaliNavigator.Index.Occurrence
import SmaliNavigator.Proofs.Class.References
import SmaliNavigator.Proofs.Index.History

/-!
What the search for a symbol finds of the references of a class. It goes through the text and knows
nothing of how a class was read; what it leaves out is what stands directly behind a character that
could go on into the symbol.
-/

set_option autoImplicit false

namespace SmaliNavigator

open Text

/-! ### The offsets of a symbol -/

theorem byteCount_toList (s : String) : byteCount s.toList = s.utf8ByteSize := by
  have hofList (cs : List Char) : byteCount cs = (String.ofList cs).utf8ByteSize := by
    induction cs with
    | nil => simp
    | cons c cs ih =>
      rw [String.ofList_cons, String.utf8ByteSize_append, String.utf8ByteSize_singleton,
        byteCount_cons, ih]
  rw [hofList, String.ofList_toList]

/-- How many characters behind the first one belong to an occurrence. -/
def skipBehind (symbol : List Char) (skip : Nat) (cs : List Char) : Nat :=
  match skip with
  | n + 1 => n
  | 0 => if symbol.isPrefixOf cs then symbol.length - 1 else 0

theorem symbolOffsetsFrom_cons (symbol : List Char) (before? : Option Char) (skip offset : Nat) (c : Char)
    (cs : List Char) : symbolOffsetsFrom symbol before? skip offset (c :: cs) =
      (if skip = 0 ∧ symbol <+: c :: cs ∧ before?.any continuesSymbol = false then [offset] else []) ++
        symbolOffsetsFrom symbol (some c) (skipBehind symbol skip (c :: cs)) (offset + c.utf8Size) cs := by
  simp only [← List.isPrefixOf_iff_prefix]
  conv => lhs; unfold symbolOffsetsFrom
  cases skip with
  | succ n => simp [skipBehind]
  | zero =>
    cases hhere : symbol.isPrefixOf (c :: cs) with
    | false => simp [skipBehind, hhere]
    | true => cases before?.any continuesSymbol <;> simp [skipBehind, hhere]

theorem mem_symbolOffsetsFrom_cons {symbol : List Char} {before? : Option Char} {skip offset o : Nat}
    {c : Char} {cs : List Char} : o ∈ symbolOffsetsFrom symbol before? skip offset (c :: cs) ↔
      (o = offset ∧ skip = 0 ∧ symbol <+: c :: cs ∧ before?.any continuesSymbol = false) ∨
        o ∈ symbolOffsetsFrom symbol (some c) (skipBehind symbol skip (c :: cs))
          (offset + c.utf8Size) cs := by
  rw [symbolOffsetsFrom_cons, List.mem_append]
  split <;> simp_all

theorem bounds_of_mem_symbolOffsetsFrom {symbol : List Char} {before? : Option Char}
    {skip offset o : Nat} {cs : List Char} (h : o ∈ symbolOffsetsFrom symbol before? skip offset cs) :
    offset ≤ o ∧ o ≤ offset + byteCount cs := by
  induction cs generalizing before? skip offset with
  | nil => simp [symbolOffsetsFrom] at h
  | cons c cs ih =>
    rw [byteCount_cons]
    rcases mem_symbolOffsetsFrom_cons.mp h with ⟨rfl,-⟩ | h
    · omega
    · have hbounds := ih h
      omega

theorem getLast?_cons_or (x : Char) (xs : List Char) (before? : Option Char) :
    ((x :: xs).getLast?).or before? = xs.getLast?.or (some x) := by
  cases xs with
  | nil => rfl
  | cons y ys => simp [List.getLast?_cons]

/-- What is listed is an occurrence, and the character in front of it does not go on into it. -/
theorem exists_of_mem_symbolOffsetsFrom {symbol : List Char} {before? : Option Char}
    {skip offset o : Nat} {cs : List Char} (h : o ∈ symbolOffsetsFrom symbol before? skip offset cs) :
    ∃ xs, xs ++ symbol <+: cs ∧ o = offset + byteCount xs ∧
      (xs.getLast?.or before?).any continuesSymbol = false := by
  induction cs generalizing before? skip offset with
  | nil => simp [symbolOffsetsFrom] at h
  | cons c cs ih =>
    rcases mem_symbolOffsetsFrom_cons.mp h with ⟨rfl,-,hhere,hbefore⟩ | h
    · exact ⟨[],hhere,rfl,by simpa using hbefore⟩
    · obtain ⟨xs,hxs,ho,hbefore⟩ := ih h
      refine ⟨c :: xs,List.cons_prefix_cons.mpr ⟨rfl,hxs⟩,?_,?_⟩
      · rw [ho, byteCount_cons, Nat.add_assoc]
      · rw [getLast?_cons_or]
        exact hbefore

/-- An occurrence that no earlier one reaches into is listed exactly if the character in front of it
does not go on into it. -/
theorem mem_symbolOffsetsFrom {symbol : List Char} {before? : Option Char} {skip offset : Nat}
    {xs cs : List Char} (hne : symbol ≠ []) (hx : xs ++ symbol <+: cs) (hskip : skip ≤ xs.length)
    (hapart : ∀ ys, ys ++ symbol <+: cs → skip ≤ ys.length → ys.length < xs.length →
      (ys ++ symbol).length ≤ xs.length) :
    offset + byteCount xs ∈ symbolOffsetsFrom symbol before? skip offset cs ↔
      (xs.getLast?.or before?).any continuesSymbol = false := by
  induction cs generalizing before? skip offset xs with
  | nil =>
    obtain ⟨-,rfl⟩ := List.append_eq_nil_iff.mp (List.prefix_nil.mp hx)
    exact absurd rfl hne
  | cons c cs ih =>
    rw [mem_symbolOffsetsFrom_cons]
    have hsize := c.utf8Size_pos
    cases xs with
    | nil =>
      have hlater : offset + byteCount [] ∉ symbolOffsetsFrom symbol (some c)
          (skipBehind symbol skip (c :: cs)) (offset + c.utf8Size) cs := by
        intro hmem
        have hbounds := bounds_of_mem_symbolOffsetsFrom hmem
        rw [byteCount_nil] at hbounds
        omega
      rw [or_iff_left hlater]
      exact ⟨fun h => h.2.2.2,fun h => ⟨rfl,Nat.le_zero.mp hskip,hx,h⟩⟩
    | cons x xs =>
      obtain ⟨rfl,hxs⟩ := List.cons_prefix_cons.mp hx
      rw [byteCount_cons, or_iff_right (by omega), ← Nat.add_assoc, getLast?_cons_or]
      refine ih hxs ?_ fun ys hys hfrom hlt => ?_
      · -- the earlier occurrence ends before this one starts
        unfold skipBehind
        split
        · simpa using hskip
        · split
          · next hhere =>
            have hends := hapart [] (List.isPrefixOf_iff_prefix.mp hhere) (Nat.zero_le _) (by simp)
            simp only [List.nil_append, List.length_cons] at hends
            omega
          · exact Nat.zero_le _
      · have hskip' : skip ≤ (x :: ys).length := by
          cases skip with
          | zero => exact Nat.zero_le _
          | succ n => exact Nat.succ_le_succ hfrom
        have hends := hapart (x :: ys) (List.cons_prefix_cons.mpr ⟨rfl,hys⟩) hskip' (by simpa using hlt)
        simpa using hends

theorem mem_symbolOffsets {symbol xs cs : List Char} (hne : symbol ≠ []) (hx : xs ++ symbol <+: cs)
    (hapart : ∀ ys, ys ++ symbol <+: cs → ys.length < xs.length →
      (ys ++ symbol).length ≤ xs.length) :
    byteCount xs ∈ symbolOffsets symbol cs ↔ xs.getLast?.any continuesSymbol = false := by
  have h : 0 + byteCount xs ∈ symbolOffsetsFrom symbol none 0 0 cs ↔
      (xs.getLast?.or none).any continuesSymbol = false :=
    mem_symbolOffsetsFrom hne hx (Nat.zero_le _) fun ys hys _ hlt => hapart ys hys hlt
  have hempty : symbol.isEmpty = false := by simpa using hne
  simpa [symbolOffsets, hempty] using h

theorem le_of_mem_symbolOffsets {symbol cs : List Char} {o : Nat} (h : o ∈ symbolOffsets symbol cs) :
    o ≤ byteCount cs := by
  unfold symbolOffsets at h
  split at h
  · simp at h
  · have hbounds := bounds_of_mem_symbolOffsetsFrom h
    omega

theorem zero_mem_symbolOffsets_iff {symbol cs : List Char} (hne : symbol ≠ []) :
    0 ∈ symbolOffsets symbol cs ↔ symbol <+: cs := by
  constructor
  · intro h
    unfold symbolOffsets at h
    split at h
    · simp at h
    · cases cs with
      | nil => simp [symbolOffsetsFrom] at h
      | cons c cs =>
        unfold symbolOffsetsFrom at h
        dsimp only at h
        split at h
        · next hhere => exact List.isPrefixOf_iff_prefix.mp hhere
        · have hbounds := bounds_of_mem_symbolOffsetsFrom h
          have hsize := c.utf8Size_pos
          omega
  · intro h
    have hstart : byteCount [] ∈ symbolOffsets symbol cs ↔ _ := mem_symbolOffsets hne h (by simp)
    exact hstart.mpr rfl

/-! ### The locations of a symbol in a file -/

/-- A text that stands in a document is found there exactly if the character in front of it does not
go on into it. -/
theorem Document.Shows.mem_symbolLocations {d : Document} {before : List Char} {key : String}
    {span : Span} (h : d.Shows before key.toList span) (file : Path) :
    (⟨file,span⟩ : Location) ∈ symbolLocations key file d ↔
      before.getLast?.any continuesSymbol = false := by
  have hmem := mem_symbolOffsets h.ne_nil h.occurs h.apart
  have hend : byteCount (before ++ key.toList) = byteCount before + key.utf8ByteSize := by
    rw [byteCount_append, byteCount_toList]
  have hspan : span = d.spanOf (byteCount before) (byteCount before + key.utf8ByteSize) := by
    rw [h.span_eq, hend]
  rw [← hmem]
  unfold symbolLocations
  rw [List.mem_map]
  constructor
  · rintro ⟨o,ho,heq⟩
    have hsize : byteCount before ≤ d.size := by
      obtain ⟨r,hr⟩ := h.occurs
      rw [d.size_eq, ← hr, byteCount_append, byteCount_append]
      omega
    have hle : o ≤ d.size := by
      rw [d.size_eq]
      exact le_of_mem_symbolOffsets ho
    have hstart : d.positionAt o = d.positionAt (byteCount before) := by
      have hboth := congrArg (·.span.start) heq
      simpa [hspan, Document.spanOf] using hboth
    rwa [← d.positionAt_inj hle hsize hstart]
  · intro hlisted
    exact ⟨byteCount before,hlisted,by rw [hspan]⟩

/-- What is found is an occurrence, with a span that has the symbol and nothing else. -/
theorem exists_place_of_mem_symbolLocations {key : String} {file : Path} {d : Document} {l : Location}
    (h : l ∈ symbolLocations key file d) :
    ∃ before rest, d.chars = before ++ (key.toList ++ rest) ∧
      l = ⟨file,d.spanOf (byteCount before) (byteCount (before ++ key.toList))⟩ ∧
      before.getLast?.any continuesSymbol = false := by
  obtain ⟨o,ho,rfl⟩ := List.mem_map.mp h
  unfold symbolOffsets at ho
  split at ho
  · simp at ho
  · obtain ⟨before,⟨rest,hchars⟩,rfl,hbefore⟩ := exists_of_mem_symbolOffsetsFrom ho
    refine ⟨before,rest,?_,?_,by simpa using hbefore⟩
    · rw [← hchars, List.append_assoc]
    · rw [Nat.zero_add, byteCount_append, byteCount_toList]

theorem exists_of_mem_symbolLocations {key : String} {file : Path} {d : Document} {l : Location}
    (h : l ∈ symbolLocations key file d) :
    ∃ before rest, d.chars = before ++ (key.toList ++ rest) ∧ l.file = file ∧
      l.span.start = d.positionAt (byteCount before) ∧
      before.getLast?.any continuesSymbol = false := by
  obtain ⟨before,rest,hchars,rfl,hbefore⟩ := exists_place_of_mem_symbolLocations h
  exact ⟨before,rest,hchars,rfl,rfl,hbefore⟩

theorem prefix_of_mem_symbolLocations {key : String} (hne : key.toList ≠ []) {file : Path}
    {d : Document} {l : Location} (h : l ∈ symbolLocations key file d)
    (hstart : l.span.start = ⟨0,0⟩) : key.toList <+: d.chars := by
  obtain ⟨o,ho,rfl⟩ := List.mem_map.mp h
  rw [← d.positionAt_zero] at hstart
  have hle : o ≤ d.size := by
    rw [d.size_eq]
    exact le_of_mem_symbolOffsets ho
  obtain rfl := d.positionAt_inj hle (Nat.zero_le _) hstart
  exact (zero_mem_symbolOffsets_iff hne).mp ho

theorem eq_of_symbolLocations (file : Path) {t u : String}
    (h : ∀ key l, l ∈ symbolLocations key file (.ofString t) ↔
      l ∈ symbolLocations key file (.ofString u)) : t = u := by
  have hprefix {t u : String} (h : ∀ key l, l ∈ symbolLocations key file (.ofString t) →
      l ∈ symbolLocations key file (.ofString u)) : t.toList <+: u.toList := by
    by_cases hne : t.toList = []
    · rw [hne]
      exact List.nil_prefix
    · have hwhole := (zero_mem_symbolOffsets_iff hne).mpr (List.prefix_refl t.toList)
      have hfound := h t _ (List.mem_map.mpr ⟨0,hwhole,rfl⟩)
      exact prefix_of_mem_symbolLocations hne hfound (Document.positionAt_zero _)
  have hleft := hprefix fun key l hl => (h key l).mp hl
  have hright := hprefix fun key l hl => (h key l).mpr hl
  exact String.toList_injective (hleft.eq_of_length_le hright.length_le)

/-! ### The locations of a symbol in a project -/

namespace Index

/-- The index is sound and has read a file from a text. -/
def HasRead (file : Path) (text : String) (ix : Index) : Prop :=
  ix.Sound ∧ ∃ i, ix.stateOf file = .parsed i text

end Index

namespace Query

/-- What the search takes for the text of a file. -/
def sought? (ix : Index) (s : Surroundings) (file : Path) : Option Document :=
  match (ix.cache.get file).1 with
  | some c => some c.document
  | none => (s.source.open? file).toOption.map fun live => .ofString live.text

theorem run_sourceOf? (file : Path) (s : Surroundings) (a : Activity) :
    ∃ reads, (sourceOf? file).run s a = (some (sought? a.index s file),
      ⟨{ a.index with cache := (a.index.cache.get file).2 },a.looks,reads⟩) := by
  unfold sourceOf? sought?
  rw [run_bind, run_cached?]
  cases hc : (a.index.cache.get file).1 with
  | some c => exact ⟨a.reads,rfl⟩
  | none =>
    refine ⟨a.reads + 1,?_⟩
    dsimp only
    rw [run_bind, run_openFile]
    cases s.source.open? file <;> rfl

/-- The search takes the text that a file has, where none that could be read is another one. -/
theorem sought?_of_live {ix : Index} (h : ix.Sound) {s : Surroundings} {file : Path}
    (hlive : ∀ t, (ix.stateOf file).goodText? = some t →
      ∃ version?, s.source.open? file = .ok ⟨t,version?⟩) :
    sought? ix s file = (s.source.open? file).toOption.map fun live => .ofString live.text := by
  unfold sought?
  cases hc : (ix.cache.get file).1 with
  | none => rfl
  | some c =>
    obtain ⟨t,ht,hread⟩ := Index.goodClass?_eq_some (h.cached file c hc)
    obtain ⟨version?,hopen⟩ := hlive t ht
    simp [hopen, Except.toOption, Class.document_of_ofDocument hread]

theorem sought?_of_hasRead {ix : Index} {file : Path} {text : String} (h : ix.HasRead file text)
    {s : Surroundings} {version? : Option Int}
    (hopen : s.source.open? file = .ok ⟨text,version?⟩) :
    sought? ix s file = some (.ofString text) := by
  obtain ⟨hsound,i,hstate⟩ := h
  rw [sought?_of_live hsound, hopen]
  · rfl
  · intro t ht
    obtain rfl : text = t := by simpa [hstate, FileState.goodText?] using ht
    exact ⟨version?,hopen⟩

theorem sought?_consult (ix : Index) (s : Surroundings) (f file : Path) :
    sought? { ix with cache := (ix.cache.get f).2 } s file = sought? ix s file := by
  simp [sought?, Cache.get_get]

/-- The texts that a search takes for those of some files. -/
def soughtTexts (ix : Index) (s : Surroundings) (files : List Path) : List (Path × Document) :=
  files.flatMap fun f => (sought? ix s f).toList.map fun d => (f,d)

theorem mem_soughtTexts {ix : Index} {s : Surroundings} {files : List Path} {file : Path}
    {d : Document} :
    (file,d) ∈ soughtTexts ix s files ↔ file ∈ files ∧ sought? ix s file = some d := by
  unfold soughtTexts
  rw [List.mem_flatMap]
  constructor
  · rintro ⟨f,hf,hd⟩
    obtain ⟨d',hd',heq⟩ := List.mem_map.mp hd
    obtain ⟨rfl,rfl⟩ := Prod.mk.inj heq
    exact ⟨hf,by simpa using hd'⟩
  · rintro ⟨hf,hd⟩
    exact ⟨file,hf,by simp [hd]⟩

theorem run_readTexts_never {s : Surroundings} (hnever : s.cancellation = .never) (files : List Path)
    (a : Activity) :
    ∃ b, (readTexts files).run s a = (some (soughtTexts a.index s files),b) := by
  induction files generalizing a with
  | nil => exact ⟨a,rfl⟩
  | cons f fs ih =>
    obtain ⟨reads,hsource⟩ := run_sourceOf? f s { a with looks := a.looks + 1 }
    obtain ⟨b,hrun⟩ := ih ⟨{ a.index with cache := (a.index.cache.get f).2 },a.looks + 1,reads⟩
    refine ⟨b,?_⟩
    unfold readTexts
    rw [run_bind, run_isCalledOff_never hnever]
    dsimp only
    rw [if_neg (by simp), run_bind, hsource]
    dsimp only
    rw [run_bind, hrun]
    simp [soughtTexts, sought?_consult]

theorem fst_ask_findOccurrences {ix : Index} (hready : ix.ready = true) {s : Surroundings}
    (hnever : s.cancellation = .never) (symbols : List String) :
    ((findOccurrences symbols).ask s ix).1 =
      some (occurrencesIn symbols (soughtTexts ix s ix.knownFiles)) := by
  obtain ⟨b,hrun⟩ := run_readTexts_never hnever ix.knownFiles ⟨ix,0,0⟩
  have hall : (findOccurrences symbols).run s ⟨ix,0,0⟩ =
      (some (occurrencesIn symbols (soughtTexts ix s ix.knownFiles)),b) := by
    unfold findOccurrences
    rw [run_bind, run_waitReady hready]
    dsimp only
    rw [run_bind, run_getIndex]
    dsimp only
    rw [run_bind, hrun]
    rfl
  rw [ask, hall]

/-- Of a file that was read the search takes that text, and the text of no other file for it. -/
theorem run_readTexts {file : Path} {text : String} {s : Surroundings} {version? : Option Int}
    (hnever : s.cancellation = .never) (hopen : s.source.open? file = .ok ⟨text,version?⟩)
    (files : List Path) {a : Activity} (h : a.index.HasRead file text) :
    ∃ rs b, (readTexts files).run s a = (some rs,b) ∧
      ∀ d, (file,d) ∈ rs ↔ file ∈ files ∧ d = .ofString text := by
  obtain ⟨b,hrun⟩ := run_readTexts_never hnever files a
  refine ⟨_,b,hrun,fun d => ?_⟩
  rw [mem_soughtTexts, sought?_of_hasRead h hopen, Option.some.injEq, eq_comm (a := d)]

/-- Whatever is recorded as a reference in a class, the search of the project reports its place
exactly if the character in front of it is not one that goes on into a symbol. -/
theorem mem_findOccurrences_iff {ix : Index} (hix : ix.Reachable) (hready : ix.ready = true)
    {file : Path} (hfile : file ∈ ix.knownFiles) {i text : String}
    (hstate : ix.stateOf file = .parsed i text) {s : Surroundings}
    (hnever : s.cancellation = .never) {version? : Option Int}
    (hopen : s.source.open? file = .ok ⟨text,version?⟩) {c : Class}
    (hc : Class.ofString text = .ok c) {key : String} {span : Span}
    (hspan : span ∈ c.referencesTo key) :
    ∃ before after found, text.toList = before ++ key.toList ++ after ∧
      span = c.document.spanOf (byteCount before) (byteCount (before ++ key.toList)) ∧
      ((findOccurrences [key]).ask s ix).1 = some [(key,found)] ∧
      ((⟨file,span⟩ : Location) ∈ found ↔ before.getLast?.any continuesSymbol = false) := by
  have hdocument := Class.document_of_ofDocument hc
  obtain ⟨before,hshows⟩ := Class.isIn_of_mem_referencesTo hc hspan
  obtain ⟨after,hafter⟩ := hshows.occurs
  obtain ⟨rs,b,hrun,hmem⟩ := run_readTexts hnever hopen ix.knownFiles (a := ⟨ix,0,0⟩)
    ⟨Index.invariant_sound.of_reachable hix,i,hstate⟩
  refine ⟨before,after,rs.flatMap fun x => symbolLocations key x.1 x.2,hafter.symm,
    by rw [hdocument]; exact hshows.span_eq,?_,?_⟩
  · have hall : (findOccurrences [key]).run s ⟨ix,0,0⟩ = (some (occurrencesIn [key] rs),b) := by
      unfold findOccurrences
      rw [run_bind, run_waitReady hready]
      dsimp only
      rw [run_bind, run_getIndex]
      dsimp only
      rw [run_bind, hrun]
      rfl
    rw [ask, hall]
    rfl
  · rw [← hshows.mem_symbolLocations file, List.mem_flatMap]
    constructor
    · rintro ⟨⟨f,d⟩,hd,hl⟩
      obtain ⟨o,_,heq⟩ := List.mem_map.mp hl
      obtain rfl : f = file := congrArg (·.file) heq
      obtain ⟨-,rfl⟩ := (hmem d).mp hd
      exact hl
    · intro hl
      exact ⟨(file,_),(hmem _).mpr ⟨hfile,rfl⟩,hl⟩

/-- A class at the start of a list of parameters. -/
theorem mem_findOccurrences_iff_parenthesis :
    let text := ".class La;\n.super Lb;\n.method f(Lp/A;)V\n.end method\n"
    let file := Path.ofString "A.smali"
    let s : Surroundings := ⟨(MemoryProject.empty.put file ⟨text,none⟩).source,.never⟩
    let ix := (Operation.load.query.ask s (.new .default)).2
    ∃ c, Class.ofString text = .ok c ∧ Span.within 2 10 15 ∈ c.referencesTo "Lp/A;" ∧
      ∃ before after found, text.toList = before ++ "Lp/A;".toList ++ after ∧
        Span.within 2 10 15 = c.document.spanOf (byteCount before)
          (byteCount (before ++ "Lp/A;".toList)) ∧
        ((findOccurrences ["Lp/A;"]).ask s ix).1 = some [("Lp/A;",found)] ∧
        ((⟨file,.within 2 10 15⟩ : Location) ∈ found ↔
          before.getLast?.any continuesSymbol = false) := by
  intro text file s ix
  have hclass : (Class.ofString text).toOption.map (·.referencesTo "Lp/A;") =
      some [.within 2 10 15] := by decide +kernel
  cases hc : Class.ofString text with
  | error e => simp [hc, Except.toOption] at hclass
  | ok c =>
    have hspan : Span.within 2 10 15 ∈ c.referencesTo "Lp/A;" := by
      rw [hc] at hclass
      simp [Option.some.inj hclass]
    have hstate : ix.stateOf file = .parsed "La;" text := by decide +kernel
    exact ⟨c,rfl,hspan,mem_findOccurrences_iff (.step s .load (.new .default)) (by decide +kernel)
      (by decide +kernel) hstate rfl rfl hc hspan⟩

/-- A class directly behind a primitive type is recorded and not found. -/
theorem findOccurrences_behind_primitive :
    let text := ".class La;\n.super Lb;\n.method f(ILp/A;)V\n.end method\n"
    let s : Surroundings :=
      ⟨(MemoryProject.empty.put (.ofString "A.smali") ⟨text,none⟩).source,.never⟩
    let ix := (loadProject.ask s (.new .default)).2
    (Class.ofString text).toOption.map (·.referencesTo "Lp/A;") = some [.within 2 11 16] ∧
      ((findOccurrences ["Lp/A;"]).ask s ix).1 = some [("Lp/A;",[])] := by
  decide +kernel

end Query

end SmaliNavigator
