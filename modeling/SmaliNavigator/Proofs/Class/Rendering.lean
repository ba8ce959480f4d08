import SmaliNavigator.Proofs.Class.Blocks

/-!
A draft that is written and read again. The reader takes up one directive after the other, and each
leaves it in front of the next one but for white space. So what a class declares is what its draft
says, in the order of the draft.
-/

set_option autoImplicit false

namespace SmaliNavigator

open Text

/-- Items that declare what directives say, in their order. -/
structure Declares (is : List ItemDraft) (xs : List BodyItem) : Prop where
  interfaces : (xs.filterMap BodyItem.interface?).map Descriptor.shape =
    is.filterMap ItemDraft.interface?
  fields : (xs.filterMap BodyItem.field?).map Field.sketch = is.filterMap ItemDraft.field?
  methods : (xs.filterMap BodyItem.method?).map Method.sketch = is.filterMap ItemDraft.method?

namespace Declares

theorem nil : Declares [] [] := ⟨rfl,rfl,rfl⟩

theorem append {is js : List ItemDraft} {xs ys : List BodyItem} (h : Declares is xs)
    (h' : Declares js ys) : Declares (is ++ js) (xs ++ ys) where
  interfaces := by simp [h.interfaces, h'.interfaces]
  fields := by simp [h.fields, h'.fields]
  methods := by simp [h.methods, h'.methods]

end Declares

theorem IsInside.blank_append {marker line : String} (h : IsInside marker line) :
    IsInside marker (" " ++ line) := by
  obtain ⟨hline,hinside⟩ := h
  refine ⟨?_,?_⟩
  · have hfeed : '\n' ∉ line.toList := hline
    simp [IsLine, hfeed]
  · simpa [isSpace] using hinside

/-- A head that says what the draft does. -/
structure Header.Says (x : Header) (t : ClassDraft) : Prop where
  modifiers : x.modifiers = t.modifiers
  name : x.name.internal = t.name
  superclass : x.superclass.shape = .ofClass t.superclass
  source? : x.source?.map (·.text) = t.source?.map (fun s => "\"" ++ s ++ "\"")

theorem Descriptor.asClass?_of_read {c c' : Cursor} {t : Descriptor} {n : String}
    (h : Descriptor.reader.read c = (.ok t,c')) (ht : t.shape = .ofClass n) :
    ∃ name, t.asClass? = some name ∧ name.internal = n := by
  simp only [Descriptor.reader, Reader.read_of] at h
  split at h
  · next e after hread =>
    cases h
    split at ht
    · next hzero =>
      simp only [shape, TypeShape.ofClass, TypeShape.mk.injEq, element] at ht
      cases e with
      | primitive p s => simp [Element.shape] at ht
      | object name =>
        refine ⟨name,?_,by simpa [Element.shape] using ht.2⟩
        rw [if_pos hzero]
        rfl
    · next hdims => exact absurd (congrArg TypeShape.dimensions ht) hdims
  · cases h

theorem Descriptor.read_of_blank {c : Cursor} {t : TypeShape} {r : List Char} (ht : t.IsWritable)
    (h : c.rest = ' ' :: (t.chars ++ r)) :
    ∃ x c', Descriptor.reader.read c = (.ok x,c') ∧ x.shape = t ∧ c'.rest = r := by
  have hblank : c.rest = [' '] ++ (t.chars ++ r) := h
  have hrest := Cursor.rest_skipSpace hblank (by simp [isSpace]) (t.stops_isSpace_chars r)
  obtain ⟨x,hread,hshape⟩ := read_of_chars ht.isReadable hrest
  rw [read_skipSpace] at hread
  exact ⟨x,_,hread,hshape,Cursor.rest_advance_length hrest⟩

namespace Class

variable {d : Document} {c : Cursor} {r : List Char}

/-! ### Items -/

theorem readToken_of_keyword {keyword : String} {cs : List Char}
    (h : Opens c.rest (keyword.toList ++ ' ' :: cs)) (hne : keyword.toList ≠ [])
    (hkeyword : (keyword.toList.all fun x => !isSpace x) = true) :
    c.readToken.1.text = keyword ∧ c.readToken.2.rest = ' ' :: cs := by
  obtain ⟨space,hspace,hrest⟩ := h
  have hread := Cursor.readToken_of_rest hrest hspace hne (by simpa using hkeyword)
    (stops_cons.mpr (by decide))
  rwa [String.ofList_toList] at hread

theorem readItem_interface {n : String} (hn : IsInternalName n)
    (h : Opens c.rest (linesChars (ItemDraft.interface n).lines ++ r)) :
    ∃ t c', readItem c.readToken.1 c.readToken.2 = .ok (some (.interface t),c') ∧
      t.shape = .ofClass n ∧ c'.rest = '\n' :: r := by
  have hlines : linesChars (ItemDraft.interface n).lines ++ r =
      ".implements".toList ++ ' ' :: ((TypeShape.ofClass n).chars ++ '\n' :: r) := by
    simp [linesChars, ItemDraft.lines, TypeShape.chars]
  rw [hlines] at h
  obtain ⟨htext,hrest⟩ := readToken_of_keyword h (by decide) (by decide)
  obtain ⟨t,c',hread,hshape,hrest'⟩ := Descriptor.read_of_blank (t := .ofClass n) hn hrest
  refine ⟨t,c',?_,hshape,hrest'⟩
  unfold readItem
  rw [htext]
  simp only [hread]
  rfl

theorem readItem_annotationBlock {opening : String} {ls : List String}
    (hls : ∀ l ∈ opening :: ls, IsInside ".end annotation" l)
    (h : Opens c.rest (linesChars (ItemDraft.annotationBlock opening ls).lines ++ r)) :
    ∃ c', readItem c.readToken.1 c.readToken.2 = .ok (none,c') ∧ c'.rest = '\n' :: r := by
  have hlines : linesChars (ItemDraft.annotationBlock opening ls).lines ++ r =
      ".annotation".toList ++ ' ' ::
        (linesChars (opening :: ls) ++ (".end annotation".toList ++ '\n' :: r)) := by
    simp [linesChars, ItemDraft.lines]
  rw [hlines] at h
  obtain ⟨htext,hrest⟩ := readToken_of_keyword h (by decide) (by decide)
  -- the blank behind the keyword counts as part of the first line
  have hblank : c.readToken.2.rest =
      linesChars ((" " ++ opening) :: ls) ++ (".end annotation".toList ++ '\n' :: r) := by
    rw [hrest]
    simp [linesChars]
  have hinside : ∀ l ∈ (" " ++ opening) :: ls, IsInside ".end annotation" l := by
    intro l hl
    rcases List.mem_cons.mp hl with rfl | hl
    · exact (hls opening (by simp)).blank_append
    · exact hls l (by simp [hl])
  have hfuel : ((" " ++ opening) :: ls).length < c.readToken.2.rest.length + 1 := by
    have hlength := length_le_linesChars ((" " ++ opening) :: ls)
    rw [hblank, List.length_append]
    omega
  obtain ⟨c',hread,hrest'⟩ : ∃ c', skipBlock c.readToken.1.span.start.line
      (c.readToken.2.rest.length + 1) c.readToken.2 = .ok c' ∧ c'.rest = '\n' :: r :=
    skipBlock_of_lines hinside hblank hfuel
  refine ⟨c',?_,hrest'⟩
  unfold readItem
  rw [htext]
  simp only [hread]
  rfl

theorem readItem_comment {t : String} (ht : IsLine t)
    (h : Opens c.rest (linesChars (ItemDraft.comment t).lines ++ r)) :
    ∃ c', readItem c.readToken.1 c.readToken.2 = .ok (none,c') ∧ c'.rest = r := by
  obtain ⟨space,hspace,hrest⟩ := h
  obtain ⟨w,u,hw,hword,hu⟩ : ∃ w u, t.toList = w ++ u ∧ (∀ x ∈ w, isSpace x = false) ∧
      Stops (fun x => !isSpace x) u :=
    ⟨_,_,List.takeWhile_append_dropWhile.symm,fun x hx => by simpa using of_mem_takeWhile hx,
      stops_dropWhile _ _⟩
  have hsplit : c.rest = space ++ ('#' :: w ++ (u ++ '\n' :: r)) := by
    rw [hrest]
    simp [linesChars, ItemDraft.lines, hw]
  have hnext : Stops (fun x => !isSpace x) (u ++ '\n' :: r) := by
    cases u with
    | nil => exact stops_cons.mpr (by decide)
    | cons x xs => exact stops_cons.mpr (stops_cons.mp hu)
  have hhash : ∀ x ∈ '#' :: w, isSpace x = false := by
    intro x hx
    rcases List.mem_cons.mp hx with rfl | hx
    · decide
    · exact hword x hx
  obtain ⟨htext,hafter⟩ := Cursor.readToken_of_rest hsplit hspace (by simp) hhash hnext
  have hfeed : '\n' ∉ u := fun hmem => ht (by rw [hw]; exact List.mem_append_right _ hmem)
  have hfirst {keyword : String} (heq : c.readToken.1.text = keyword) :
      keyword.toList.head? = some '#' := by
    rw [← heq, htext, String.toList_ofList]
    rfl
  refine ⟨_,?_,Cursor.rest_skipLine hafter hfeed⟩
  unfold readItem
  split
  all_goals first
    | rfl
    | next heq => exact absurd (hfirst heq) (by decide)

theorem readItem_field {f : FieldSketch} (hf : f.IsWritable)
    (h : Opens c.rest (linesChars (ItemDraft.field f).lines ++ r)) :
    ∃ x c', readItem c.readToken.1 c.readToken.2 = .ok (some (.field x),c') ∧
      x.sketch = f ∧ c'.rest = '\n' :: r := by
  have hlines : linesChars (ItemDraft.field f).lines ++ r =
      ".field".toList ++ ' ' :: (f.render.toList ++ '\n' :: r) := by
    simp [linesChars, ItemDraft.lines]
  rw [hlines] at h
  obtain ⟨htext,hrest⟩ := readToken_of_keyword h (by decide) (by decide)
  obtain ⟨x,c',hread,hsketch,hrest'⟩ := Field.read_of_render hf.isReadable hrest
    (stops_cons.mpr (by simp))
  refine ⟨x,c',?_,hsketch,hrest'⟩
  unfold readItem
  rw [htext]
  simp only [hread]
  rfl

theorem readItem_method {m : MethodSketch} {body : List String} (hm : m.IsWritable)
    (hbody : ∀ l ∈ body, IsInside ".end method" l) (hc : c.On d)
    (h : Opens c.rest (linesChars (ItemDraft.method m body).lines ++ r)) :
    ∃ x rs c', readItem c.readToken.1 c.readToken.2 = .ok (some (.method x rs),c') ∧
      x.sketch = m ∧ c'.rest = '\n' :: r := by
  have hlines : linesChars (ItemDraft.method m body).lines ++ r =
      ".method".toList ++ ' ' :: (m.render.toList ++
        '\n' :: (linesChars body ++ (".end method".toList ++ '\n' :: r))) := by
    simp [linesChars, ItemDraft.lines]
  rw [hlines] at h
  obtain ⟨htext,hrest⟩ := readToken_of_keyword h (by decide) (by decide)
  obtain ⟨x,c₁,hread,hsketch,hrest₁⟩ := Method.read_of_render hm.isReadable hrest
  have hon : c₁.On d :=
    (Method.records_reader (Cursor.keeps_past d) _ x c₁ ⟨hc.reaches (.readToken c),.nil d _⟩
      hread).on
  have hbehind : c₁.rest = [] ++ '\n' :: (linesChars body ++ (".end method".toList ++ '\n' :: r)) :=
    hrest₁
  have hlines := Cursor.rest_skipLine hbehind (by simp)
  have hfuel : body.length < c₁.skipLine.rest.length + 1 := by
    have hlength := length_le_linesChars body
    rw [hlines, List.length_append]
    omega
  obtain ⟨rs,c',hreads,hrest'⟩ : ∃ rs c', readInstructions c.readToken.1.span.start.line
      (c₁.skipLine.rest.length + 1) c₁.skipLine = .ok (rs,c') ∧ c'.rest = '\n' :: r :=
    readInstructions_of_lines hbody (hon.reaches (.skipLine c₁)) hlines hfuel
  unfold readItem
  rw [htext]
  simp only [readMethod, hread, hreads, bind, Except.bind, pure, Except.pure]
  exact ⟨_,_,_,rfl,hsketch,hrest'⟩

theorem exists_keyword (i : ItemDraft) :
    ∃ keyword ∈ [".implements",".annotation","#",".field",".method"], ∃ cs,
      linesChars i.lines = keyword.toList ++ cs := by
  cases i with
  | interface n =>
    exact ⟨".implements",by simp,_,by rw [ItemDraft.lines]; simp [linesChars]; rfl⟩
  | annotationBlock opening ls =>
    exact ⟨".annotation",by simp,_,by rw [ItemDraft.lines]; simp [linesChars]; rfl⟩
  | comment t => exact ⟨"#",by simp,_,by rw [ItemDraft.lines]; simp [linesChars]; rfl⟩
  | field f => exact ⟨".field",by simp,_,by rw [ItemDraft.lines]; simp [linesChars]; rfl⟩
  | method m body => exact ⟨".method",by simp,_,by rw [ItemDraft.lines]; simp [linesChars]; rfl⟩

/-- What a directive starts with: something that is neither white space nor a source file. -/
theorem opens_item (i : ItemDraft) (r : List Char) :
    ∃ x cs, linesChars i.lines ++ r = x :: cs ∧ isSpace x = false ∧
      ¬".source".toList <+: linesChars i.lines ++ r := by
  obtain ⟨keyword,hmem,cs,hcs⟩ := exists_keyword i
  rw [hcs]
  simp only [List.mem_cons, List.not_mem_nil, or_false] at hmem
  rcases hmem with rfl | rfl | rfl | rfl | rfl
  all_goals exact ⟨_,_,rfl,by decide,by simp⟩

theorem items_opens (is : List ItemDraft) :
    Stops isSpace (linesChars (is.flatMap ItemDraft.lines)) ∧
      ¬".source".toList <+: linesChars (is.flatMap ItemDraft.lines) := by
  cases is with
  | nil => simp [Stops]
  | cons i is =>
    obtain ⟨x,cs,hfirst,hx,hsource⟩ := opens_item i (linesChars (is.flatMap ItemDraft.lines))
    rw [List.flatMap_cons, linesChars_append]
    exact ⟨by rw [hfirst]; exact stops_cons.mpr hx,hsource⟩

theorem isEmpty_readToken {x : Char} (h : Opens c.rest (x :: r)) (hx : isSpace x = false) :
    c.readToken.1.text.isEmpty = false := by
  obtain ⟨space,hspace,hrest⟩ := h
  have hskip := Cursor.rest_skipSpace hrest hspace (stops_cons.mpr hx)
  simp [Cursor.readToken, Cursor.token, Cursor.run, hskip, hx]

/-- A directive that is written is read as an item that says the same, or as none. -/
theorem exists_item {i : ItemDraft} (hi : i.IsWritable) (hc : c.On d)
    (h : Opens c.rest (linesChars i.lines ++ r)) :
    ∃ item? c', readItem c.readToken.1 c.readToken.2 = .ok (item?,c') ∧
      Declares [i] item?.toList ∧ Opens c'.rest r := by
  cases i with
  | interface n =>
    obtain ⟨t,c',hread,hshape,hrest⟩ := readItem_interface hi h
    exact ⟨_,c',hread,⟨by simp [BodyItem.interface?, ItemDraft.interface?, hshape],rfl,rfl⟩,
      .of_feed hrest⟩
  | annotationBlock opening ls =>
    obtain ⟨c',hread,hrest⟩ := readItem_annotationBlock hi h
    exact ⟨_,c',hread,⟨rfl,rfl,rfl⟩,.of_feed hrest⟩
  | comment t =>
    obtain ⟨c',hread,hrest⟩ := readItem_comment hi h
    exact ⟨_,c',hread,⟨rfl,rfl,rfl⟩,.of_eq hrest⟩
  | field f =>
    obtain ⟨x,c',hread,hsketch,hrest⟩ := readItem_field hi h
    exact ⟨_,c',hread,⟨rfl,by simp [BodyItem.field?, ItemDraft.field?, hsketch],rfl⟩,
      .of_feed hrest⟩
  | method m body =>
    obtain ⟨x,rs,c',hread,hsketch,hrest⟩ := readItem_method hi.1 hi.2 hc h
    exact ⟨_,c',hread,⟨rfl,rfl,by simp [BodyItem.method?, ItemDraft.method?, hsketch]⟩,
      .of_feed hrest⟩

theorem readItems_of_lines {is : List ItemDraft} {fuel : Nat} (his : ∀ i ∈ is, i.IsWritable)
    (hc : c.On d) (h : Opens c.rest (linesChars (is.flatMap ItemDraft.lines)))
    (hfuel : is.length < fuel) :
    ∃ xs, readItems fuel c = .ok xs ∧ Declares is xs := by
  induction is generalizing c fuel with
  | nil =>
    obtain ⟨fuel,rfl⟩ : ∃ n, fuel = n + 1 := ⟨fuel - 1,by simp at hfuel; omega⟩
    obtain ⟨space,hspace,hrest⟩ := h
    have hskip : c.skipSpace.rest = [] := Cursor.rest_skipSpace hrest hspace (by simp [Stops])
    have hempty : c.readToken.1.text.isEmpty = true := by
      simp [Cursor.readToken, Cursor.token, hskip]
    refine ⟨[],?_,.nil⟩
    simp [readItems, hempty]
  | cons i is ih =>
    obtain ⟨fuel,rfl⟩ : ∃ n, fuel = n + 1 := ⟨fuel - 1,by simp at hfuel; omega⟩
    rw [List.flatMap_cons, linesChars_append] at h
    obtain ⟨item?,c',hread,hdeclares,hopens⟩ := exists_item (his i (by simp)) hc h
    obtain ⟨x,cs,hfirst,hx,_⟩ := opens_item i (linesChars (is.flatMap ItemDraft.lines))
    have hempty := isEmpty_readToken (hfirst ▸ h) hx
    have hon : c'.On d :=
      (gives_readItem (keeps_past d) _ ⟨hc.reaches (.readToken c),.nil d _⟩ _ hread).on
    obtain ⟨xs,hreads,hall⟩ := ih (fun i hi => his i (by simp [hi])) hon hopens
      (by simpa using hfuel)
    refine ⟨item?.toList ++ xs,?_,hdeclares.append hall⟩
    simp [readItems, hempty, hread, hreads, bind, Except.bind, pure, Except.pure]

/-! ### The head -/

theorem linesChars_headLines (t : ClassDraft) (r : List Char) :
    linesChars t.headLines ++ r = ".class".toList ++ (Modifier.written t.modifiers ++
      ' ' :: ((TypeShape.ofClass t.name).chars ++ '\n' :: (".super".toList ++
        ' ' :: ((TypeShape.ofClass t.superclass).chars ++ '\n' ::
          (linesChars (t.source?.map fun s => ".source \"" ++ s ++ "\"").toList ++ r))))) := by
  rw [Modifier.written_append]
  simp [linesChars, ClassDraft.headLines, TypeShape.chars]

theorem exists_source {source? : Option String} (hsource : ∀ s ∈ source?, IsLine s)
    (hr : Stops isSpace r) (hnone : ¬".source".toList <+: r)
    (h : c.rest = '\n' ::
      (linesChars (source?.map fun s => ".source \"" ++ s ++ "\"").toList ++ r)) :
    (source? = none ∧ c.expect? ".source" = none ∧ Opens c.rest r) ∨
      ∃ s after, source? = some s ∧ c.expect? ".source" = some after ∧
        after.readRestOfLine.1.text = "\"" ++ s ++ "\"" ∧ Opens after.readRestOfLine.2.rest r := by
  cases source? with
  | none =>
    have hopens : c.rest = ['\n'] ++ r := h
    have hskip := Cursor.rest_skipSpace hopens (by simp [isSpace]) hr
    exact .inl ⟨rfl,Cursor.expect?_eq_none (by rwa [hskip]),.of_feed h⟩
  | some s =>
    have hopens : Opens c.rest
        (".source".toList ++ ' ' :: (("\"" ++ s ++ "\"").toList ++ '\n' :: r)) := by
      rw [h]
      exact .of_feed (by simp [linesChars])
    obtain ⟨after,hafter,hrest⟩ := Cursor.expect?_of_opens hopens (stops_cons.mpr (by decide))
    have hline : '\n' ∉ ("\"" ++ s ++ "\"").toList := by
      have hs : '\n' ∉ s.toList := hsource s rfl
      simp [hs]
    have hquote : ("\"" ++ s ++ "\"").toList.getLast? = some '"' := by
      rw [String.toList_append]
      exact List.getLast?_concat
    obtain ⟨htext,hlast⟩ := Cursor.readRestOfLine_of_rest hrest hline (by simp [isInlineSpace])
      (by rw [hquote]; decide) (stops_cons.mpr (by simp))
    rw [String.ofList_toList] at htext
    exact .inr ⟨s,after,rfl,hafter,htext,.of_feed hlast⟩

theorem ends_ofClass (n : String) (cs : List Char) :
    Modifier.Ends ((TypeShape.ofClass n).chars ++ cs) := by
  have hchars : (TypeShape.ofClass n).chars ++ cs = [] ++ 'L' :: (n.toList ++ ';' :: cs) := by
    simp [TypeShape.chars_eq, TypeShape.ofClass, ElementShape.toList_raw_object]
  rw [hchars]
  exact Modifier.ends_of_mem (by simp) (by decide) (Modifier.not_mem_keyword (by decide))

theorem readHeader_of_lines {t : ClassDraft} (ht : t.IsWritable) (hr : Stops isSpace r)
    (hnone : ¬".source".toList <+: r) (h : c.rest = linesChars t.headLines ++ r) :
    ∃ x c', readHeader c = .ok (x,c') ∧ x.Says t ∧ Opens c'.rest r := by
  obtain ⟨hname,hsuper,hsource,_⟩ := ht
  rw [linesChars_headLines] at h
  obtain ⟨c₁,hclass,hrest₁⟩ := Cursor.expect?_of_opens (.of_eq h)
    (stops_cons.mpr (by decide))
  obtain ⟨c₂,hmodifiers,hrest₂⟩ := Modifier.readAll_of_written hrest₁ (ends_ofClass t.name _)
  obtain ⟨type,c₃,hread,hshape,hrest₃⟩ :=
    Descriptor.read_of_blank (t := .ofClass t.name) hname hrest₂
  obtain ⟨name,hasClass,hinternal⟩ := Descriptor.asClass?_of_read hread hshape
  obtain ⟨c₄,hextends,hrest₄⟩ := Cursor.expect?_of_opens (.of_feed hrest₃)
    (stops_cons.mpr (by decide))
  obtain ⟨super,c₅,hread',hshape',hrest₅⟩ :=
    Descriptor.read_of_blank (t := .ofClass t.superclass) hsuper hrest₄
  rcases exists_source hsource hr hnone hrest₅ with
    ⟨hs,hexpect,hopens⟩ | ⟨s,after,hs,hexpect,htext,hopens⟩
  · refine ⟨⟨t.modifiers,name,super,none⟩,c₅,?_,⟨rfl,hinternal,hshape',by simp [hs]⟩,hopens⟩
    simp [readHeader, expectKeyword, hclass, hmodifiers, hread, hasClass, hextends, hread', hexpect,
      bind, Except.bind, pure, Except.pure]
  · refine ⟨⟨t.modifiers,name,super,some after.readRestOfLine.1⟩,_,?_,
      ⟨rfl,hinternal,hshape',by simp [hs, htext]⟩,hopens⟩
    simp [readHeader, expectKeyword, hclass, hmodifiers, hread, hasClass, hextends, hread', hexpect,
      bind, Except.bind, pure, Except.pure]

/-! ### Whole files -/

theorem map_filter_sketch (p : MethodSketch → Bool) (ms : List Method) :
    (ms.filter fun m => p m.sketch).map Method.sketch = (ms.map Method.sketch).filter p := by
  rw [List.filter_map]
  rfl

theorem sketch_assemble {t : ClassDraft} {x : Header} {xs : List BodyItem} (hx : x.Says t)
    (hxs : Declares t.items xs) : (assemble d x xs).sketch = t.sketch := by
  have hconstructors := map_filter_sketch (·.isConstructor) (xs.filterMap BodyItem.method?)
  have hmethods := map_filter_sketch (!·.isConstructor) (xs.filterMap BodyItem.method?)
  rw [hxs.methods] at hconstructors hmethods
  simp only [Method.isConstructor_sketch] at hconstructors hmethods
  simp only [Class.sketch, assemble, ClassDraft.sketch, hx.modifiers, hx.name, hx.superclass,
    hx.source?, hxs.interfaces, hxs.fields, hconstructors, hmethods]

theorem length_le_lines (is : List ItemDraft) :
    is.length ≤ (linesChars (is.flatMap ItemDraft.lines)).length := by
  refine Nat.le_trans ?_ (length_le_linesChars _)
  induction is with
  | nil => simp
  | cons i is ih =>
    have hi : 0 < i.lines.length := by cases i <;> simp [ItemDraft.lines]
    simp only [List.flatMap_cons, List.length_append, List.length_cons]
    omega

theorem toList_render (t : ClassDraft) :
    t.render.toList = linesChars t.headLines ++ linesChars (t.items.flatMap ItemDraft.lines) := by
  rw [← linesChars_append]
  simp [ClassDraft.render, linesChars, List.flatMap, Function.comp_def]

/-- A draft that is written out, each directive on a line of its own, is read as a class that
declares what the draft says, and nothing else. -/
theorem exists_ofString_render {t : ClassDraft} (ht : t.IsWritable) :
    ∃ c, Class.ofString t.render = .ok c ∧ c.sketch = t.sketch := by
  have hitems : ∀ i ∈ t.items, i.IsWritable := ht.2.2.2
  generalize hd : Document.ofString t.render = d
  have hon : (Cursor.start d).On d := ⟨[],Cursor.at_start d⟩
  have hrest : (Cursor.start d).rest =
      linesChars t.headLines ++ linesChars (t.items.flatMap ItemDraft.lines) := by
    rw [← hd, ← toList_render]
    rfl
  obtain ⟨hstops,hsource⟩ := items_opens t.items
  obtain ⟨x,c,hhead,hx,hopens⟩ := readHeader_of_lines ht hstops hsource hrest
  have hc := (gives_readHeader (keeps_past _) ⟨hon,.nil _ _⟩ _ hhead).on
  have hfuel : t.items.length < c.rest.length + 1 := by
    obtain ⟨space,_,hc⟩ := hopens
    have hlength := length_le_lines t.items
    rw [hc, List.length_append]
    omega
  obtain ⟨xs,hreads,hxs⟩ := readItems_of_lines hitems hc hopens hfuel
  refine ⟨assemble d x xs,?_,sketch_assemble hx hxs⟩
  rw [Class.ofString, hd]
  simp [ofDocument, hhead, hreads, bind, Except.bind, pure, Except.pure]

/-- Names that are keywords, values with equality signs and blocks with other directives in them. -/
theorem exists_ofString_render_keywords :
    let t : ClassDraft :=
      { modifiers := [.publicAccess,.final]
        name := "p/Ä$-1"
        superclass := "p/B"
        source? := some "A \"1\".java"
        items := [.comment ".method f()V",
          .annotationBlock "system La;" ["","  value = 1",".end method"," .end sub"],
          .interface "q/I",
          .field ⟨[.static,.static],"final",⟨2,.object "q/I"⟩,some "= \"x\""⟩,
          .method ⟨[.constructor],"<init>",[⟨0,.primitive .int⟩,⟨1,.object "q/I"⟩],
            ⟨0,.primitive .void⟩⟩ [".field x:I","","  iget v0, p0, La;->x","# .end method"],
          .method ⟨[],"native",[],⟨0,.object "p/B"⟩⟩ []] }
    t.IsWritable ∧ ∃ c, Class.ofString t.render = .ok c ∧ c.sketch = t.sketch := by
  intro t
  have ht : t.IsWritable := by decide +kernel
  exact ⟨ht,exists_ofString_render ht⟩

end Class

end SmaliNavigator
