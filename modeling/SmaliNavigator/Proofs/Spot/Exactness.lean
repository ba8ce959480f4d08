import SmaliNavigator.Proofs.Member.Places
import SmaliNavigator.Proofs.Navigation.ExactRename
import SmaliNavigator.Proofs.Spot.Labels
import SmaliNavigator.Proofs.Spot.LineEnds

/-!
The symbol at a place is what its span shows. A string, a label or a reference comes from a match that
covers the place, and a reader that starts at a match of a reference takes up this match and no more. A
type is looked for among those of whole signatures, which may have others on later lines; but each of
them stands in one line with its written form, and so the one whose span covers the place is in its
line.
-/

set_option autoImplicit false

namespace SmaliNavigator

open Text

/-- The text that a symbol is written as. A definition is asked for anywhere in its line, and its name
may be in another one. -/
def Spot.written? : Spot → Option String
  | stringLiteral t => some t.text
  | type t => some t.raw
  | fieldReference r => some r.key
  | methodReference r => some r.key
  | label l => some l.name.text
  | fieldDefinition _ => none
  | methodDefinition _ => none

/-- The span is in the line of a position, has the position in it, and has a text in the document. -/
structure Span.IsExact (d : Document) (p : Position) (text : String) (s : Span) : Prop where
  start : s.start.line = p.line
  stop : s.stop.line = p.line
  covers : s.covers p = true
  slice : d.slice s = text

variable {d : Document} {p : Position} {s : Span}

theorem Document.HasText.isExact {text : String} (h : d.HasText text.toList [] s)
    (hfeed : '\n' ∉ text.toList) (hp : s.covers p = true) : s.IsExact d p text := by
  have hslice := h.slice
  rw [String.ofList_toList] at hslice
  obtain ⟨before,rest,hchars,rfl⟩ := h
  have hline := isSingleLine_spanOf (by simpa using hchars) hfeed
  have hlines := hp
  simp only [Span.isSingleLine, beq_iff_eq] at hline
  simp only [Span.covers, Bool.and_eq_true, decide_eq_true_eq, Position.le_def,
    Position.lt_def] at hlines
  exact ⟨by omega,by omega,hp,hslice⟩

theorem Descriptor.Stands.isExact {t : Descriptor} (h : t.Stands d) (hp : t.span.covers p = true) :
    t.span.IsExact d p t.raw :=
  h.shown.isExact h.inline hp

/-! ### Matches -/

theorem Match.chars_ne_nil {pattern : Pattern} {cs : List Char} {m : Match} {col : Nat}
    (h : m ∈ pattern.findAll cs) (hcol : m.covers col = true) : m.chars ≠ [] := by
  intro hnil
  have hstop := Pattern.stop_of_mem_findFrom h
  simp only [covers, Bool.and_eq_true, decide_eq_true_eq] at hcol
  rw [hnil, byteCount_nil] at hstop
  omega

theorem Match.isExact {pattern : Pattern} (hp : pattern.LeavesEnd) {m : Match}
    (h : m ∈ pattern.findAll (d.lineText p.line)) (hcol : m.covers p.col = true) :
    (m.span p.line).IsExact d p m.text := by
  obtain ⟨before,rest,hchars,hfeed,hspan,-⟩ :=
    Document.exists_of_mem_findAll hp h (chars_ne_nil h hcol)
  have htext : m.text.toList = m.chars := String.toList_ofList
  have hcovers : (m.span p.line).covers p = true :=
    Span.covers_within.mpr ⟨rfl,by simpa [covers] using hcol⟩
  exact Document.HasText.isExact ⟨before,rest,by simpa [htext] using hchars,by rw [htext, hspan]⟩
    (htext ▸ hfeed) hcovers

theorem Pattern.leavesEnd_stringLiteral : LeavesEnd stringLiteral := by
  have htail : LeavesEnd stringTail := by
    intro cs r h
    fun_induction stringTail cs with
    | case1 => cases h
    | case2 => cases h; exact List.suffix_cons _ _
    | case3 => cases h
    | case4 => cases h; exact List.suffix_cons _ _
    | case5 => cases h
    | case6 x rest _ _ ih =>
      exact (ih h).trans ((List.suffix_cons x rest).trans (List.suffix_cons _ _))
    | case7 c x rest _ _ ih => exact (ih h).trans (List.suffix_cons c _)
  intro cs r h
  unfold stringLiteral at h
  split at h
  · cases h
  · next c rest =>
    split at h
    · exact (htail rest r h).trans (List.suffix_cons c rest)
    · cases h

/-! ### References and class names -/

/-- What a reader makes of the match at a place, where it takes up the whole match. -/
theorem Reader.Reads.isExact {α : Type} {r : Reader α} {pattern : Pattern} {kind : List Char → Prop}
    {key : α → String} {span : α → Span} (hr : r.Reads kind key span) (hp : pattern.Takes kind) {x : α}
    (h : ((pattern.matchAt? (d.lineText p.line) p.col).bind fun m => d.valueAt? r p.line m.start) =
      some x) : (span x).IsExact d p (key x) := by
  obtain ⟨m,hm,hvalue⟩ := Option.bind_eq_some_iff.mp h
  have hmem := List.mem_of_find?_eq_some hm
  have hcol := List.find?_some hm
  obtain ⟨_,rest,_,_,hplace,hat,hrest⟩ :=
    Document.exists_of_mem_findAll hp.leavesEnd hmem (Match.chars_ne_nil hmem hcol)
  obtain ⟨c',hread⟩ := Document.read_of_valueAt? hvalue
  obtain ⟨y,hy,hspan,hkey⟩ := hr (hp.isKind_of_mem_findAll hmem) hrest
  obtain rfl : y = x := Except.ok.inj (Prod.mk.inj (hy.symm.trans hread)).1
  rw [hat.spanTo_advance, Cursor.take_length_rest hrest, ← hplace] at hspan
  rw [hspan, hkey]
  exact Match.isExact hp.leavesEnd hmem hcol

/-- The written form of a class or of an array of it. -/
def IsOwnerText (text : List Char) : Prop := ∃ t : TypeShape, t.IsOwner ∧ text = t.chars

theorem Pattern.takes_owner : Takes owner IsOwnerText := by
  intro cs r
  rw [owner_eq_some_iff]
  constructor
  · rintro ⟨t,ht,rfl⟩
    exact ⟨t.chars,⟨t,ht,rfl⟩,rfl⟩
  · rintro ⟨_,⟨t,ht,rfl⟩,rfl⟩
    exact ⟨t,ht,rfl⟩

theorem Descriptor.reads_owner : Descriptor.reader.Reads IsOwnerText raw span := by
  rintro c _ rest ⟨t,ht,rfl⟩ hrest
  obtain ⟨x,hread,hshape⟩ := read_of_chars ht.1.isReadable hrest
  obtain ⟨-,-,-,hspan⟩ := written_of_read hread
  have hspace : c.skipSpace = c := Cursor.skipSpace_of_stops (hrest ▸ t.stops_isSpace_chars rest)
  rw [hspace] at hspan
  refine ⟨x,hread,hspan,?_⟩
  rw [← x.raw_shape, hshape, TypeShape.chars, String.ofList_toList]

/-! ### Types of a line -/

namespace Document

theorem on_of_mem_findAll {pattern : Pattern} (hp : pattern.LeavesEnd) {line : Nat} {m : Match}
    (h : m ∈ pattern.findAll (d.lineText line)) : (Cursor.atPosition d ⟨line,m.start⟩).On d := by
  obtain ⟨pre,post,hline,hstart,-⟩ := hp.of_mem_findAll h
  obtain ⟨before,hat,-⟩ := Cursor.aligned_atPosition hline
  exact hstart ▸ ⟨before,hat⟩

theorem stands_of_mem_declaredTypes {line : Nat} {t : Descriptor} (h : t ∈ d.declaredTypes line) :
    t.Stands d := by
  unfold declaredTypes at h
  split at h
  · next f hf =>
    obtain ⟨c,c',hc,hread⟩ := read_of_declarationOn? hf
    obtain rfl := List.mem_singleton.mp h
    exact Field.stands_of_read hc hread
  · split at h
    · next m hm =>
      obtain ⟨c,c',hc,hread⟩ := read_of_declarationOn? hm
      exact Method.stands_of_read hc hread t h
    · cases h

theorem stands_of_mem_referencedTypes {line : Nat} {t : Descriptor}
    (h : t ∈ d.referencedTypes line) : t.Stands d := by
  rcases List.mem_append.mp h with h | h
  · obtain ⟨r,hr,ht⟩ := List.mem_flatMap.mp h
    obtain ⟨m,hm,hvalue⟩ := List.mem_filterMap.mp hr
    obtain ⟨c',hread⟩ := read_of_valueAt? hvalue
    exact FieldReference.stands_of_read
      (on_of_mem_findAll Pattern.takes_fieldReference.leavesEnd hm) hread t ht
  · obtain ⟨r,hr,ht⟩ := List.mem_flatMap.mp h
    obtain ⟨m,hm,hvalue⟩ := List.mem_filterMap.mp hr
    obtain ⟨c',hread⟩ := read_of_valueAt? hvalue
    exact MethodReference.stands_of_read
      (on_of_mem_findAll Pattern.takes_methodReference.leavesEnd hm) hread t ht

theorem stands_of_mem_operandTypes {line : Nat} {t : Descriptor} (h : t ∈ d.operandTypes line) :
    t.Stands d := by
  obtain ⟨pre,hpre,hcol⟩ := exists_of_afterLast ',' (d.lineText line)
  obtain ⟨before,hat,-⟩ := Cursor.aligned_atPosition hpre
  simp only [operandTypes, hcol] at h
  split at h
  · obtain ⟨c',hread⟩ := read_of_valueAt? (Option.mem_toList.mp h)
    exact Descriptor.stands_of_read ⟨before,hat⟩ hread
  · cases h

/-- Every type of a declaration, a reference or an operand stands somewhere in the document. -/
theorem stands_of_mem_signatureTypes {line : Nat} {t : Descriptor} (h : t ∈ d.signatureTypes line) :
    t.Stands d := by
  simp only [signatureTypes, List.mem_append] at h
  rcases h with (h | h) | h
  · exact stands_of_mem_declaredTypes h
  · exact stands_of_mem_referencedTypes h
  · exact stands_of_mem_operandTypes h

/-! ### Symbols -/

theorem isExact_of_stringAt? {t : Token} (h : d.stringAt? p = some t) : t.span.IsExact d p t.text := by
  obtain ⟨m,hm,rfl⟩ := Option.map_eq_some_iff.mp h
  have hcol := List.find?_some hm
  exact Match.isExact Pattern.leavesEnd_stringLiteral (List.mem_of_find?_eq_some hm) hcol

theorem isExact_of_typeAt? {t : Descriptor} (h : d.typeAt? p = some t) :
    t.span.IsExact d p t.raw := by
  rcases Option.or_eq_some_iff.mp h with h | ⟨-,h⟩
  · exact Descriptor.reads_owner.isExact Pattern.takes_owner h
  · have hcovers := List.find?_some h
    exact (stands_of_mem_signatureTypes (List.mem_of_find?_eq_some h)).isExact hcovers

theorem isExact_of_labelAt? {u : LabelUse} (h : d.labelAt? p = some u) :
    u.name.span.IsExact d p u.name.text := by
  obtain ⟨m,_,_,hm,-,rfl⟩ := labelAt?_eq_some_iff.mp h
  have hcol := List.find?_some hm
  have hmem := (List.mem_filter.mp (List.mem_of_find?_eq_some hm)).1
  exact Match.isExact Pattern.leavesEnd_label hmem hcol

/-- A string, a type, a member reference or a label that a position asks for is in the line of the
position and around it, and the text of its span is what it is written as. -/
theorem spotAt?_isExact {spot : Spot} (h : d.spotAt? p = some spot) {text : String}
    (htext : spot.written? = some text) : spot.span.IsExact d p text := by
  unfold spotAt? at h
  simp only [Option.or_eq_some_iff, Option.map_eq_some_iff] at h
  rcases h with ⟨t,ht,rfl⟩ | ⟨-,⟨t,ht,rfl⟩ | ⟨-,⟨r,hr,rfl⟩ | ⟨-,⟨r,hr,rfl⟩ | ⟨-,⟨u,hu,rfl⟩ |
    ⟨-,⟨f,-,rfl⟩ | ⟨-,m,-,rfl⟩⟩⟩⟩⟩⟩
  · obtain rfl := Option.some.inj htext
    exact isExact_of_stringAt? ht
  · obtain rfl := Option.some.inj htext
    exact isExact_of_typeAt? ht
  · obtain rfl := Option.some.inj htext
    have hreads : FieldReference.reader.Reads IsFieldReference FieldReference.key (·.field.span) :=
      fun hkind hrest => FieldReference.read_of_isFieldReference hkind hrest
    exact hreads.isExact Pattern.takes_fieldReference hr
  · obtain rfl := Option.some.inj htext
    have hreads : MethodReference.reader.Reads IsMethodReference MethodReference.key
        (·.method.span) := fun hkind hrest => MethodReference.read_of_isMethodReference hkind hrest
    exact hreads.isExact Pattern.takes_methodReference hr
  · obtain rfl := Option.some.inj htext
    exact isExact_of_labelAt? hu
  · cases htext
  · cases htext

/-- A parameter of a method whose return type is in the next line, and a string with an escape. -/
theorem spotAt?_isExact_parameter :
    let d := ofString (".class La;\r\n.super Lb;\r\n.method é(I[La;)\r\nV\r\n" ++
      " const-string v0, \"é\\\"\"\r\n.end method\r\n")
    let t := Span.within 2 11 12
    let s := Span.within 4 18 24
    d.spotAt? ⟨2,11⟩ = some (.type (.single (.primitive .int t))) ∧ t.IsExact d ⟨2,11⟩ "I" ∧
      d.spotAt? ⟨4,20⟩ = some (.stringLiteral ⟨"\"é\\\"\"",s⟩) ∧ s.IsExact d ⟨4,20⟩ "\"é\\\"\"" := by
  intro d t s
  have htype : d.spotAt? ⟨2,11⟩ = some (.type (.single (.primitive .int t))) := by decide +kernel
  have hstring : d.spotAt? ⟨4,20⟩ = some (.stringLiteral ⟨"\"é\\\"\"",s⟩) := by decide +kernel
  exact ⟨htype,spotAt?_isExact htype rfl,hstring,spotAt?_isExact hstring rfl⟩

end Document

end SmaliNavigator
