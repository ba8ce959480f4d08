import SmaliNavigator.Navigation.Symbols
import SmaliNavigator.Proofs.Class.Bodies
import SmaliNavigator.Proofs.Class.Names
import SmaliNavigator.Proofs.Member.Places

/-!
The outline of a class as a tree of spans. The span of a method goes from the line of its keyword to its
end marker, so that its name is in it wherever the signature goes on. The span of a field is the line of
its keyword, and its name is in it only where it is on this line.
-/

set_option autoImplicit false

namespace SmaliNavigator

open Text

/-- The one span is a part of the other one. -/
def Span.IsInside (s t : Span) : Prop := t.start ≤ s.start ∧ s.stop ≤ t.stop

instance (s t : Span) : Decidable (s.IsInside t) := inferInstanceAs (Decidable (_ ∧ _))

/-- What editors ask of an outline: each name is a part of its symbol, and each member one of the
class. -/
structure Outline.IsNested (o : Outline) : Prop where
  names : ∀ i ∈ o.root :: o.members, i.selection.IsInside i.span
  members : ∀ i ∈ o.members, i.span.IsInside o.root.span

variable {d : Document} {c : Cursor}

/-! ### Spans of a document -/

namespace Document

theorem isInside_wholeSpan {s : Span} (h : s.stop ≤ d.wholeSpan.stop) : s.IsInside d.wholeSpan := by
  refine ⟨?_,h⟩
  simp only [wholeSpan, spanOf, positionAt_zero, Position.le_def]
  omega

theorem le_stop_of_lineText {line : Nat} {pre text post : List Char}
    (h : d.lineText line = pre ++ (text ++ post)) (hne : text ≠ []) :
    ⟨line,byteCount (pre ++ text)⟩ ≤ d.wholeSpan.stop := by
  obtain ⟨before,rest,-,-,hspan,-⟩ := exists_of_lineText h hne
  have hstop : (⟨line,byteCount (pre ++ text)⟩ : Position) = _ := congrArg Span.stop hspan
  rw [hstop]
  exact d.positionAt_le_end _

theorem Names.isInside_lineSpan {separator : Char} {name : String} {s : Span}
    (h : d.Names separator name s) (hseparator : separator ≠ '\n' ∧ separator ≠ '\r') :
    s.IsInside (d.lineSpan s.start.line) := by
  obtain ⟨before,rest,hchars,rfl⟩ := h.shown
  obtain ⟨l,front,x,hl,rfl,-,htail,hfeed,hstart⟩ := exists_front hchars
  have hstop := positionAt_append hchars h.inline
  rw [hstart] at hstop
  have hline : '\n' ∉ x ++ name.toList ++ [separator] := by
    simp [hfeed, h.inline, hseparator.1.symm]
  have hsplit : l.tail = (x ++ name.toList ++ [separator]) ++ rest := by simpa using htail
  obtain ⟨more,hshown⟩ : ∃ more, d.lineText (d.lineOf (byteCount (front ++ x))) =
      x ++ name.toList ++ [separator] ++ more := by
    simp only [lineText, hl]
    exact ⟨_,Line.text_append hsplit hline (by simpa using hseparator.2)⟩
  simp only [Span.IsInside, spanOf, hstart, hstop, lineSpan, Span.within, hshown, Position.right]
  refine ⟨.inr ⟨rfl,Nat.zero_le _⟩,.inr ⟨rfl,?_⟩⟩
  simp only [byteCount_append]
  omega

end Document

theorem Cursor.On.isInside_lineSpan (h : c.On d) : (d.lineSpan c.line).IsInside d.wholeSpan := by
  refine Document.isInside_wholeSpan ?_
  by_cases hempty : d.lineText c.line = []
  · refine Position.le_trans ?_ h.position_le
    change (⟨c.line,byteCount (d.lineText c.line)⟩ : Position) ≤ c.position
    rw [hempty]
    exact .inr ⟨rfl,Nat.zero_le _⟩
  · exact @Document.le_stop_of_lineText d c.line [] (d.lineText c.line) [] (by simp) hempty

/-! ### Names of methods -/

/-- The cursor is in a document at a position or behind it. -/
structure Cursor.From (d : Document) (p : Position) (c : Cursor) : Prop where
  on : c.On d
  le : p ≤ c.position

theorem Cursor.From.reaches {c' : Cursor} {p : Position} (h : c.From d p) (hr : c.Reaches c') :
    c'.From d p :=
  ⟨h.on.reaches hr,Position.le_trans h.le (h.on.position_mono hr)⟩

theorem Cursor.gathers_from (d : Document) (p : Position) (q : Prop) :
    Gathers fun _ c => q ∧ c.From d p where
  reaches h hr := ⟨h.1,h.2.reaches hr⟩
  type h hread := ⟨h.1,h.2.reaches (Descriptor.reaches_of_read hread)⟩

/-- A name is behind the cursor that it is read at and in front of the one that it leaves. -/
theorem Reader.from_tokenUntil (separator : Char) (p : Position) :
    Triple (fun c => True ∧ Cursor.From d p c) (tokenUntil separator) fun t c =>
      p ≤ t.span.start ∧ c.From d t.span.stop := by
  rintro c t c' ⟨-,hc⟩ hread
  obtain ⟨r,-,-,-,ht⟩ := exists_of_tokenUntil hread
  simp only [tokenUntil, Reader.read_of] at hread
  split at hread
  · cases hread
    have hspace := hc.reaches (.skipSpace c)
    refine ⟨hspace.le,(hspace.reaches (.advance _ _)).on,?_⟩
    exact (hspace.reaches (.advance _ _)).on.position_mono ⟨1,by rw [Cursor.advance_advance]⟩
  · cases hread

theorem Method.name_of_reader (p : Position) :
    Reader.Triple (fun c => True ∧ Cursor.From d p c) Method.reader fun m c =>
      p ≤ m.name.span.start ∧ c.From d m.name.span.stop :=
  (Reader.triple_asks _).bind fun _ =>
    (@Gathers.total _ [] (Cursor.gathers_from d p True) _ _ Modifier.reaches_readAll).bind fun _ =>
    (Reader.from_tokenUntil '(' p).bind fun t =>
    (@Gathers.parameters _ [] (Cursor.gathers_from d t.span.stop _)).bind fun _ =>
    (@Gathers.descriptor _ [] (Cursor.gathers_from d t.span.stop _)).bind fun _ =>
    Reader.triple_pure fun _ h => h

/-! ### Members of a class -/

theorem Field.span_of_reader (c : Cursor) :
    Reader.Triple (· = c) Field.reader fun f _ => f.span = c.document.lineSpan c.line := by
  have hspan : Reader.Triple (· = c) (.asks fun c => c.document.lineSpan c.line) fun s _ =>
      s = c.document.lineSpan c.line := Reader.triple_total fun _ hc => by rw [hc]
  exact hspan.bind fun _ => Reader.triple_keeps.bind fun _ => Reader.triple_keeps.bind fun _ =>
    Reader.triple_keeps.bind fun _ => Reader.triple_keeps.bind fun _ =>
    Reader.triple_pure fun _ h => h

namespace Class

variable {c : Class}

theorem exists_lineSpan_of_mem_fields (h : ofDocument d = .ok c) {f : Field} (hf : f ∈ c.fields) :
    ∃ k : Cursor, k.On d ∧ f.span = d.lineSpan k.line := by
  obtain ⟨x,k,hread,hitem⟩ := exists_item_of_mem_fields h hf
  obtain ⟨k,hk,-,-,hvalue⟩ := declaredAt_keyworded hread hitem
  have hbehind := hk.reaches (.readToken k)
  refine ⟨k.readToken.2,hbehind,?_⟩
  have hspan := Field.span_of_reader k.readToken.2 _ f _ rfl (Reader.read_of_value hvalue)
  rwa [hbehind.document] at hspan

/-- The name of a field is in the span of the field exactly if it is on the line of the keyword. -/
theorem isInside_field_iff (h : ofDocument d = .ok c) {f : Field} (hf : f ∈ c.fields) :
    f.name.span.IsInside f.span ↔ f.name.span.start.line = f.span.start.line := by
  have hnames := (isDeclared_of_mem_fields h hf).names
  obtain ⟨k,-,hspan⟩ := exists_lineSpan_of_mem_fields h hf
  rw [hspan]
  constructor
  · rintro ⟨hstart,hstop⟩
    have horder : f.name.span.start ≤ f.name.span.stop := by
      obtain ⟨before,rest,-,hplace⟩ := hnames.shown
      rw [hplace]
      exact d.positionAt_le (by rw [byteCount_append]; omega)
    simp only [Document.lineSpan, Span.within, Position.le_def] at hstart hstop horder ⊢
    omega
  · intro hline
    have hinside := hnames.isInside_lineSpan (by decide)
    rwa [hline] at hinside

/-- The name of a method is in the span of the method, and that one is in the document. -/
theorem isInside_method (h : ofDocument d = .ok c) {m : Method} (hm : m ∈ c.allMethods) :
    m.name.span.IsInside m.fullSpan ∧ m.fullSpan.IsInside d.wholeSpan := by
  obtain ⟨k,after,rs,hk,hkey,hread⟩ := exists_readMethod_of_mem_allMethods h hm
  have hbehind := hk.reaches (.readToken k)
  obtain ⟨b,hb,hline,hbody⟩ := hasBody_of_readMethod hbehind hread
  have hfull : m.fullSpan = b := by rw [Method.fullSpan, hb, Option.getD_some]
  rw [hfull]
  refine ⟨?_,Document.isInside_wholeSpan ?_⟩
  · -- the name is behind the keyword and in front of the end of the signature
    obtain ⟨-,hvalue⟩ := declaredAt_readMethod hkey _ hread
    have hkeyword : k.peekToken.span.start ≤ k.readToken.2.position :=
      (hk.reaches (.skipSpace k)).position_mono (.advance _ _)
    obtain ⟨hstart,-,hstop⟩ := Method.name_of_reader k.peekToken.span.start _ _ _
      ⟨trivial,hbehind,hkeyword⟩ (Reader.read_of_value hvalue)
    have hsignature := Method.stop_of_reader _ _ _ trivial (Reader.read_of_value hvalue)
    rw [← hsignature] at hstop
    have hcol := hbody.start
    have hlast := hbody.signature
    simp only [Span.IsInside, Position.le_def] at hstart hstop ⊢
    omega
  · obtain ⟨space,behind,hmarked,hcol⟩ := hbody.marked
    have htext := hmarked.text
    rw [List.append_assoc] at htext
    have hstop := Document.le_stop_of_lineText htext (by decide)
    rwa [← hcol] at hstop

theorem isInside_name (h : ofDocument d = .ok c) : c.name.span.IsInside d.wholeSpan := by
  obtain ⟨x,hread,rfl⟩ := exists_keyworded h
  have hname := nameOf?_of_keyworded hread
  unfold nameOf? at hname
  split at hname
  · cases hname
  · next k hk =>
    split at hname
    · next t hvalue =>
      have hon := ((Cursor.On.reaches ⟨[],Cursor.at_start d⟩ (.expect? hk)).reaches
        (Modifier.reaches_readAll k))
      have hstands := Descriptor.stands_of_read hon (Reader.read_of_value hvalue)
      obtain ⟨before,rest,-,hspan⟩ := hstands.shown
      have hsame : x.1.name.span = t.span := by
        cases t with
        | array e n s => cases hname
        | single e =>
          cases e with
          | primitive p s => cases hname
          | object n => rw [Option.some.inj hname]; rfl
      refine Document.isInside_wholeSpan ?_
      change x.1.name.span.stop ≤ _
      rw [hsame, hspan]
      exact d.positionAt_le_end _
    · cases hname

/-! ### Outlines -/

theorem mem_members_outline {i : OutlineItem} : i ∈ c.outline.members ↔
    (∃ f ∈ c.fields, OutlineItem.ofField f = i) ∨ ∃ m ∈ c.allMethods, OutlineItem.ofMethod m = i := by
  simp only [outline, allMethods, List.append_assoc, ← List.map_append, List.mem_append,
    List.mem_map]

theorem isInside_member (h : ofDocument d = .ok c) {i : OutlineItem} (hi : i ∈ c.outline.members) :
    i.span.IsInside d.wholeSpan := by
  rcases mem_members_outline.mp hi with ⟨f,hf,rfl⟩ | ⟨m,hm,rfl⟩
  · obtain ⟨k,hk,hspan⟩ := exists_lineSpan_of_mem_fields h hf
    change f.span.IsInside _
    rw [hspan]
    exact hk.isInside_lineSpan
  · exact (isInside_method h hm).2

theorem isInside_selection (h : ofDocument d = .ok c) {i : OutlineItem}
    (hi : i ∈ c.outline.root :: c.outline.members) (hkind : i.kind ≠ .field) :
    i.selection.IsInside i.span := by
  rcases List.mem_cons.mp hi with rfl | hi
  · have hname := isInside_name h
    rwa [← document_of_ofDocument h] at hname
  · rcases mem_members_outline.mp hi with ⟨f,hf,rfl⟩ | ⟨m,hm,rfl⟩
    · exact absurd rfl hkind
    · exact (isInside_method h hm).1

/-- Each member of an outline is a part of the class, and each name but that of a field a part of its
symbol, whatever the layout. The span of a field ends with the line of its keyword, so that the outline
is nested exactly if no field has its name on a later line. -/
theorem isNested_outline_iff {text : String} {c : Class} (h : ofString text = .ok c) :
    (∀ i ∈ c.outline.members, i.span.IsInside c.outline.root.span) ∧
    (∀ i ∈ c.outline.root :: c.outline.members, i.kind ≠ .field → i.selection.IsInside i.span) ∧
    (c.outline.IsNested ↔ ∀ f ∈ c.fields, f.name.span.start.line = f.span.start.line) := by
  have hroot : c.outline.root.span = (Document.ofString text).wholeSpan := by
    rw [← document_of_ofDocument h]
    rfl
  have hmembers : ∀ i ∈ c.outline.members, i.span.IsInside c.outline.root.span := fun i hi => by
    rw [hroot]
    exact isInside_member h hi
  have hnames : ∀ i ∈ c.outline.root :: c.outline.members, i.kind ≠ .field →
      i.selection.IsInside i.span := fun i hi hkind => isInside_selection h hi hkind
  refine ⟨hmembers,hnames,fun hnested f hf => ?_,fun hlines => ⟨fun i hi => ?_,hmembers⟩⟩
  · have hitem := List.mem_cons_of_mem c.outline.root (mem_members_outline.mpr (.inl ⟨f,hf,rfl⟩))
    exact (isInside_field_iff h hf).mp (hnested.names _ hitem)
  · by_cases hkind : i.kind = .field
    · rcases List.mem_cons.mp hi with rfl | hmem
      · simp only [outline, symbolKind] at hkind
        split at hkind <;> cases hkind
      · rcases mem_members_outline.mp hmem with ⟨f,hf,rfl⟩ | ⟨m,-,rfl⟩
        · exact (isInside_field_iff h hf).mpr (hlines f hf)
        · simp only [OutlineItem.ofMethod, Method.symbolKind] at hkind
          split at hkind <;> cases hkind
    · exact hnames i hi hkind

/-- A field on one line, and a method whose name is two lines behind its keyword. -/
theorem isNested_outline_iff_method :
    let text := ".class La;\r\n.super Lb;\r\n.field é:I = 1\r\n.method\r\npublic\r\né()V\r\n.end method\r\n"
    ∃ c, ofString text = .ok c ∧ c.outline.IsNested ∧ c.outline.members.map (·.span) =
      [.within 2 0 15,⟨⟨3,0⟩,⟨6,11⟩⟩] := by
  intro text
  have hlines : (ofString text).toOption.any (fun c =>
      decide (c.outline.members.map (·.span) = [.within 2 0 15,⟨⟨3,0⟩,⟨6,11⟩⟩]) &&
        c.fields.all fun f => f.name.span.start.line == f.span.start.line) = true := by
    decide +kernel
  cases hc : ofString text with
  | error e => simp [hc, Except.toOption] at hlines
  | ok c =>
    rw [hc] at hlines
    simp only [Except.toOption, Option.any_some, Bool.and_eq_true, decide_eq_true_eq, List.all_eq_true,
      beq_iff_eq] at hlines
    exact ⟨c,rfl,(isNested_outline_iff hc).2.2.mpr hlines.2,hlines.1⟩

/-- The name of a field may be below the line that the field is said to be. -/
theorem not_isNested_outline : ¬∀ (text : String) (c : Class), ofString text = .ok c →
    c.outline.IsNested := by
  intro hall
  have hfield : (ofString ".class La;\n.super Lb;\n.field\nx:I\n").toOption.any (fun c =>
      c.outline.members.any fun i => decide ¬i.selection.IsInside i.span) = true := by decide +kernel
  cases hc : ofString ".class La;\n.super Lb;\n.field\nx:I\n" with
  | error e => simp [hc, Except.toOption] at hfield
  | ok c =>
    rw [hc] at hfield
    obtain ⟨i,hi,houtside⟩ := List.any_eq_true.mp hfield
    exact of_decide_eq_true houtside ((hall _ c hc).names i (List.mem_cons_of_mem _ hi))

end Class

end SmaliNavigator
