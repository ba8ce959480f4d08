import SmaliNavigator.Proofs.Index.Occurrence

/-!
The search for the descriptor of a class. It goes on behind what it has found, and of symbols that
overlap it would miss some. A descriptor has its semicolon at the end only, so that no two occurrences
of it overlap, and the search has all of them.
-/

set_option autoImplicit false

namespace SmaliNavigator

open Text

/-- Whether a text is `L…;` with no other semicolon. -/
def IsDescriptorSymbol (symbol : List Char) : Prop :=
  ∃ name, ';' ∉ name ∧ symbol = 'L' :: (name ++ [';'])

theorem IsDescriptorSymbol.ne_nil {symbol : List Char} (h : IsDescriptorSymbol symbol) :
    symbol ≠ [] := by
  obtain ⟨name,-,rfl⟩ := h
  simp

theorem IsDescriptorSymbol.apart {symbol cs xs ys : List Char} (h : IsDescriptorSymbol symbol)
    (hx : xs ++ symbol <+: cs) (hy : ys ++ symbol <+: cs) (hlt : xs.length < ys.length) :
    (xs ++ symbol).length ≤ ys.length := by
  obtain ⟨name,hname,rfl⟩ := h
  have hbody : ';' ∉ 'L' :: name := List.not_mem_cons_of_ne_of_not_mem (by decide) hname
  exact apart_of_last hbody hx hy hlt

/-! ### Offsets -/

theorem pairwise_symbolOffsetsFrom (symbol : List Char) (before? : Option Char) (skip offset : Nat)
    (cs : List Char) : (symbolOffsetsFrom symbol before? skip offset cs).Pairwise (· < ·) := by
  induction cs generalizing before? skip offset with
  | nil => exact .nil
  | cons c cs ih =>
    rw [symbolOffsetsFrom_cons]
    refine List.pairwise_append.mpr ⟨by split <;> simp,ih ..,fun o ho o' ho' => ?_⟩
    -- the later ones are behind the first character of this one
    have hbounds := bounds_of_mem_symbolOffsetsFrom ho'
    have hsize := c.utf8Size_pos
    obtain rfl : o = offset := by
      split at ho
      · exact List.mem_singleton.mp ho
      · cases ho
    omega

theorem pairwise_symbolOffsets (symbol text : List Char) :
    (symbolOffsets symbol text).Pairwise (· < ·) := by
  unfold symbolOffsets
  split
  · exact .nil
  · exact pairwise_symbolOffsetsFrom ..

/-- A symbol is at an offset of a text, and no character in front of it goes on into it. -/
def SymbolAt (symbol text : List Char) (o : Nat) : Prop :=
  ∃ before after, text = before ++ symbol ++ after ∧ o = byteCount before ∧
    before.getLast?.any continuesSymbol = false

theorem symbolAt_of_mem_symbolOffsets {symbol text : List Char} {o : Nat}
    (h : o ∈ symbolOffsets symbol text) : SymbolAt symbol text o := by
  unfold symbolOffsets at h
  split at h
  · cases h
  · obtain ⟨before,⟨after,htext⟩,ho,hbefore⟩ := exists_of_mem_symbolOffsetsFrom h
    exact ⟨before,after,htext.symm,by simpa using ho,by simpa using hbefore⟩

theorem IsDescriptorSymbol.mem_symbolOffsets_iff {symbol text : List Char}
    (h : IsDescriptorSymbol symbol) {o : Nat} :
    o ∈ symbolOffsets symbol text ↔ SymbolAt symbol text o := by
  refine ⟨symbolAt_of_mem_symbolOffsets,?_⟩
  rintro ⟨before,after,rfl,rfl,hbefore⟩
  have hoccurs : before ++ symbol <+: before ++ symbol ++ after := List.prefix_append _ after
  exact (mem_symbolOffsets h.ne_nil hoccurs fun xs hxs hlt => h.apart hxs hoccurs hlt).mpr hbefore

/-! ### Locations -/

theorem slice_of_mem_symbolLocations {symbol : String} {file : Path} {d : Document} {l : Location}
    (h : l ∈ symbolLocations symbol file d) : l.file = file ∧ d.slice l.span = symbol := by
  obtain ⟨before,rest,hchars,rfl,-⟩ := exists_place_of_mem_symbolLocations h
  exact ⟨rfl,by rw [Document.slice_spanOf hchars, String.ofList_toList]⟩

namespace Query

theorem fst_ask_sourceOf? (file : Path) (s : Surroundings) (ix : Index) :
    ((sourceOf? file).ask s ix).1 = some (sought? ix s file) := by
  obtain ⟨reads,hrun⟩ := run_sourceOf? file s ⟨ix,0,0⟩
  rw [ask, hrun]

theorem sought?_of_mem_readTexts {s : Surroundings} {files : List Path} {a b : Activity}
    {texts : List (Path × Document)} (h : (readTexts files).run s a = (some texts,b)) :
    ∀ x ∈ texts, sought? a.index s x.1 = some x.2 := by
  induction files generalizing a texts with
  | nil =>
    cases h
    simp
  | cons f fs ih =>
    unfold readTexts at h
    rw [run_bind, run_isCalledOff] at h
    dsimp only at h
    split at h
    · cases h
      simp
    · obtain ⟨reads,hsource⟩ := run_sourceOf? f s { a with looks := a.looks + 1 }
      rw [run_bind, hsource] at h
      dsimp only at h
      rw [run_bind] at h
      split at h
      · next later c hlater =>
        cases h
        intro x hx
        rcases List.mem_append.mp hx with hx | hx
        · obtain ⟨d,hd,rfl⟩ := List.mem_map.mp hx
          exact Option.mem_toList.mp hd
        · rw [← ih hlater x hx, sought?_consult]
      · cases h

theorem exists_texts_of_findOccurrences {s : Surroundings} {ix : Index} {symbols : List String}
    {found : Occurrences} (h : ((findOccurrences symbols).ask s ix).1 = some found) :
    ∃ texts : List (Path × Document), (∀ x ∈ texts, sought? ix s x.1 = some x.2) ∧
      found = occurrencesIn symbols texts := by
  unfold ask findOccurrences at h
  cases hready : ix.ready with
  | false =>
    rw [run_bind, run_waitReady_waiting hready] at h
    cases h
  | true =>
    rw [run_bind, run_waitReady hready] at h
    dsimp only at h
    rw [run_bind, run_getIndex] at h
    dsimp only at h
    rw [run_bind] at h
    split at h
    · next texts b htexts =>
      cases h
      exact ⟨texts,sought?_of_mem_readTexts htexts,rfl⟩
    · cases h

/-- What a search reports has the symbol in the text that the search takes for the file. -/
theorem slice_of_findOccurrences {s : Surroundings} {ix : Index} {symbols : List String}
    {found : Occurrences} (h : ((findOccurrences symbols).ask s ix).1 = some found) {symbol : String}
    {ls : List Location} (hls : (symbol,ls) ∈ found) {l : Location} (hl : l ∈ ls) :
    ∃ d, ((sourceOf? l.file).ask s ix).1 = some (some d) ∧ d.slice l.span = symbol := by
  obtain ⟨texts,htexts,rfl⟩ := exists_texts_of_findOccurrences h
  obtain ⟨x,-,hx⟩ := List.mem_map.mp hls
  obtain ⟨rfl,rfl⟩ := Prod.mk.inj hx
  obtain ⟨⟨file,d⟩,hd,hplace⟩ := List.mem_flatMap.mp hl
  obtain ⟨rfl,hslice⟩ := slice_of_mem_symbolLocations hplace
  exact ⟨d,by rw [fst_ask_sourceOf?, htexts _ hd],hslice⟩

/-- A search that is not called off reports the offsets of a symbol in all files. -/
theorem exists_findOccurrences {s : Surroundings} (hnever : s.cancellation = .never) {ix : Index}
    (hready : ix.ready = true) (symbols : List String) :
    ∃ found, ((findOccurrences symbols).ask s ix).1 = some found ∧
      ∀ symbol ∈ symbols, ∃ ls, (symbol,ls) ∈ found ∧ ∀ l, l ∈ ls ↔ l.file ∈ ix.knownFiles ∧
        ∃ d, ((sourceOf? l.file).ask s ix).1 = some (some d) ∧
          ∃ o ∈ symbolOffsets symbol.toList d.chars,
            l.span = d.spanOf o (o + symbol.utf8ByteSize) := by
  refine ⟨_,fst_ask_findOccurrences hready hnever symbols,fun symbol hsymbol => ?_⟩
  refine ⟨_,List.mem_map.mpr ⟨symbol,List.mem_eraseDups.mpr hsymbol,rfl⟩,fun l => ?_⟩
  simp only [List.mem_flatMap, symbolLocations, List.mem_map, fst_ask_sourceOf?, Option.some.injEq]
  constructor
  · rintro ⟨⟨file,d⟩,hd,o,ho,rfl⟩
    obtain ⟨hfile,hsought⟩ := mem_soughtTexts.mp hd
    exact ⟨hfile,d,hsought,o,ho,rfl⟩
  · rintro ⟨hfile,d,hsought,o,ho,hspan⟩
    exact ⟨(l.file,d),mem_soughtTexts.mpr ⟨hfile,hsought⟩,o,ho,by rw [← hspan]⟩

/-- The search for a descriptor in a text has each of its offsets, in their order. What the search of
a project reports of a symbol has the symbol in the text that the search takes for the file, and a
search that is not called off reports all the offsets. -/
theorem symbolSearch_isExact :
    (∀ symbol text : String, IsDescriptorSymbol symbol.toList →
      (symbolOffsets symbol.toList text.toList).Pairwise (· < ·) ∧
      ∀ o, o ∈ symbolOffsets symbol.toList text.toList ↔ SymbolAt symbol.toList text.toList o) ∧
    ∀ (ix : Index) (s : Surroundings) (symbols : List String),
      (∀ found, ((findOccurrences symbols).ask s ix).1 = some found →
        ∀ symbol ls, (symbol,ls) ∈ found → ∀ l ∈ ls, ∃ d,
          ((sourceOf? l.file).ask s ix).1 = some (some d) ∧ d.slice l.span = symbol) ∧
      (ix.ready = true → s.cancellation = .never →
        ∃ found, ((findOccurrences symbols).ask s ix).1 = some found ∧
          ∀ symbol ∈ symbols, ∃ ls, (symbol,ls) ∈ found ∧ ∀ l, l ∈ ls ↔ l.file ∈ ix.knownFiles ∧
            ∃ d, ((sourceOf? l.file).ask s ix).1 = some (some d) ∧
              ∃ o ∈ symbolOffsets symbol.toList d.chars,
                l.span = d.spanOf o (o + symbol.utf8ByteSize)) := by
  refine ⟨fun symbol text hsymbol => ?_,fun ix s symbols => ⟨?_,fun hready hnever => ?_⟩⟩
  · exact ⟨pairwise_symbolOffsets ..,fun o => hsymbol.mem_symbolOffsets_iff⟩
  · intro found hfound symbol ls hls l hl
    exact slice_of_findOccurrences hfound hls hl
  · exact exists_findOccurrences hnever hready symbols

/-- Two descriptors side by side, and one behind a letter of two bytes. -/
theorem symbolSearch_isExact_side_by_side :
    let text := ".class La;\n.super Lb;\n# éLa; →La;La;\n"
    let s : Surroundings :=
      ⟨(MemoryProject.empty.put (.ofString "A.smali") ⟨text,none⟩).source,.never⟩
    let ix := (loadProject.ask s (.new .default)).2
    let spans := [Span.within 0 7 10,.within 2 11 14,.within 2 14 17]
    symbolOffsets "La;".toList text.toList = [7,33,36] ∧
      (∀ o, o ∈ [7,33,36] ↔ SymbolAt "La;".toList text.toList o) ∧
      ((findOccurrences ["La;"]).ask s ix).1 =
        some [("La;",spans.map fun span => ⟨.ofString "A.smali",span⟩)] ∧
      (∀ span ∈ spans, ∃ d, ((sourceOf? (.ofString "A.smali")).ask s ix).1 = some (some d) ∧
        d.slice span = "La;") ∧
      ∃ found, ((findOccurrences ["La;"]).ask s ix).1 = some found ∧
        ∃ ls, ("La;",ls) ∈ found ∧ ∀ l, l ∈ ls ↔ l.file ∈ ix.knownFiles ∧
          ∃ d, ((sourceOf? l.file).ask s ix).1 = some (some d) ∧
            ∃ o ∈ symbolOffsets "La;".toList d.chars,
              l.span = d.spanOf o (o + "La;".utf8ByteSize) := by
  have hoffsets : symbolOffsets "La;".toList ".class La;\n.super Lb;\n# éLa; →La;La;\n".toList =
      [7,33,36] := by decide +kernel
  intro text s ix spans
  have hsymbol : IsDescriptorSymbol "La;".toList := ⟨['a'],by decide,rfl⟩
  have hfound : ((findOccurrences ["La;"]).ask s ix).1 =
      some [("La;",spans.map fun span => ⟨.ofString "A.smali",span⟩)] := by decide +kernel
  obtain ⟨found,hall,hcomplete⟩ :=
    (symbolSearch_isExact.2 ix s ["La;"]).2 (by decide +kernel) rfl
  refine ⟨hoffsets,hoffsets ▸ (symbolSearch_isExact.1 "La;" text hsymbol).2,hfound,?_,found,hall,
    hcomplete "La;" (by simp)⟩
  intro span hspan
  exact (symbolSearch_isExact.2 ix s ["La;"]).1 _ hfound "La;" _ (by simp)
    ⟨.ofString "A.smali",span⟩ (List.mem_map_of_mem hspan)

end Query

end SmaliNavigator
