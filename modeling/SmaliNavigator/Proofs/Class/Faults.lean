import SmaliNavigator.Proofs.Class.Bodies
import SmaliNavigator.Proofs.Member.Definition
import SmaliNavigator.Proofs.Member.Faults

/-!
What the reader of a file fails with. Either the text is malformed where the reader has come to, or a
method or an annotation is not ended, and then the fault goes from the line of its keyword to the end of
the text. The instructions of a method never fail: what a line names can be read.

That a block is not ended is told by its lines: none of them starts with the end marker.
-/

set_option autoImplicit false

namespace SmaliNavigator

open Text

/-- Whether a line starts with a marker, behind white space. -/
def Document.lineStarts (d : Document) (line : Nat) (marker : String) : Bool :=
  marker.toList.isPrefixOf ((d.lineText line).dropWhile isSpace)

variable {d : Document}

namespace Cursor

variable {c c' : Cursor} {line k : Nat} {marker : String}

theorem On.position_of_atEnd (h : c.On d) (hend : c.atEnd = true) : c.position = d.positionAt d.size := by
  obtain ⟨before,hb⟩ := h
  have hnil : c.rest = [] := List.isEmpty_iff.mp hend
  rw [position, hb.document, hb.offset, d.size_eq, hb.chars, hnil, List.append_nil]

theorem On.line_of_inline (h : c.On d) (hc : c.Inline c') : c'.line = c.line := by
  obtain ⟨before,hb⟩ := h
  obtain ⟨u,hu,hfeed,rfl⟩ := hc
  rw [line, line, hb.position_advance hu hfeed]
  rfl

theorem inline_readToken (c : Cursor) : c.skipSpace.Inline c.readToken.2 := by
  obtain ⟨xs,ys,hrest,hrun,hall,-⟩ := c.skipSpace.exists_run fun x => !isSpace x
  have hafter : c.readToken.2 = c.skipSpace.advance xs.length := by
    rw [← hrun]
    rfl
  rw [hafter]
  exact .of_rest hrest fun hfeed => absurd (hall '\n' hfeed) (by decide)

/-- Where a later line has a text, the next line starts behind the next line feed. -/
theorem On.startsLine_of_later (h : c.On d) (hk : c.line < k) (ht : d.lineText k ≠ []) :
    c.skipLine.StartsLine d (c.line + 1) ∧ c.skipLine.rest ≠ [] := by
  have hne : c.skipLine.rest ≠ [] := by
    obtain ⟨before,hb⟩ := h
    unfold Document.lineText at ht
    split at ht
    · next l hl =>
      obtain ⟨front,hchars,-,-,hcount⟩ := Document.exists_of_getElem?_lines hl
      rw [hb.line_eq_count, ← hcount] at hk
      -- the later line is behind the cursor, with a line feed in between
      obtain ⟨u,rfl⟩ : before <+: front := by
        rcases List.prefix_or_prefix_of_prefix ⟨_,hb.chars.symm⟩ ⟨_,hchars.symm⟩ with hp | hp
        · exact hp
        · exact absurd (hp.sublist.count_le '\n') (Nat.not_le_of_lt hk)
      rw [List.count_append, Nat.lt_add_right_iff_pos, List.count_pos_iff] at hk
      obtain ⟨v,w,rfl,hv⟩ := List.eq_append_cons_of_mem hk
      have hrest : c.rest = v ++ '\n' :: (w ++ l.tail) := by
        rw [hb.chars, List.append_assoc] at hchars
        simpa using List.append_cancel_left hchars
      rw [rest_skipLine hrest hv]
      intro hnil
      simp [Line.content, (List.append_eq_nil_iff.mp hnil).2, dropEndWhile] at ht
    · exact absurd rfl ht
  exact ⟨h.startsLine_skipLine hne,hne⟩

theorem StartsLine.exists_expect? (hc : c.StartsLine d line)
    (hstops : ∀ r, Stops isSpace (marker.toList ++ r)) (h : d.lineStarts line marker = true) :
    ∃ after, c.expect? marker = some after := by
  obtain ⟨behind,hbehind⟩ := List.isPrefixOf_iff_prefix.mp h
  have htext : d.lineText line =
      ((d.lineText line).takeWhile isSpace ++ marker.toList) ++ behind := by
    rw [List.append_assoc, hbehind, List.takeWhile_append_dropWhile]
  obtain ⟨zs,hrest,-⟩ := hc.rest_of_lineText htext
  rw [List.append_assoc] at hrest
  have hopens : Opens c.rest (marker.toList ++ zs) := ⟨_,fun x hx => of_mem_takeWhile hx,hrest⟩
  obtain ⟨after,hafter,-⟩ := expect?_of_opens hopens (hstops zs)
  exact ⟨after,hafter⟩

end Cursor

theorem Document.lineText_ne_nil {line : Nat} {marker : String} (hne : marker.toList ≠ [])
    (h : d.lineStarts line marker = true) : d.lineText line ≠ [] := by
  intro hnil
  rw [lineStarts, hnil, List.dropWhile_nil, List.isPrefixOf_iff_prefix, List.prefix_nil] at h
  exact hne h

/-! ### Blocks that are not ended -/

namespace Class

variable {c : Cursor} {x : Diagnostic} {opened fuel k : Nat}

theorem exists_skipBlock (hc : c.On d) (hk : c.line < k)
    (hmark : d.lineStarts k ".end annotation" = true) (hfuel : c.rest.length < fuel) :
    ∃ after, skipBlock opened fuel c = .ok after := by
  induction fuel generalizing c with
  | zero => exact absurd hfuel (Nat.not_lt_zero _)
  | succ fuel ih =>
    obtain ⟨hnext,hne⟩ := hc.startsLine_of_later hk (Document.lineText_ne_nil (by decide) hmark)
    have hrest : c.rest ≠ [] := fun hnil => hne (by simp [Cursor.skipLine, hnil])
    have hlt := Cursor.length_skipLine_lt hrest
    have hline : c.skipLine.line = c.line + 1 := congrArg Position.line hnext.position
    have hmore : c.skipLine.atEnd = false := by simpa [Cursor.atEnd] using hne
    simp only [skipBlock, hmore]
    split
    · exact ⟨_,rfl⟩
    · rcases Nat.eq_or_lt_of_le hk with rfl | hk
      · obtain ⟨after,hafter⟩ := hnext.exists_expect? (fun _ => stops_cons.mpr (by decide)) hmark
        obtain ⟨fuel,rfl⟩ : ∃ n, fuel = n + 1 := ⟨fuel - 1,by omega⟩
        exact ⟨after,by simp [skipBlock, hafter]⟩
      · exact ih hnext.on (by omega) (by omega)

theorem fault_of_skipBlock (hc : c.On d) (hfuel : c.rest.length < fuel)
    (h : skipBlock opened fuel c = .error x) :
    x = ⟨⟨⟨opened,0⟩,d.positionAt d.size⟩,.openAnnotationBlock⟩ := by
  induction fuel generalizing c with
  | zero => exact absurd hfuel (Nat.not_lt_zero _)
  | succ fuel ih =>
    have hline := hc.reaches (.skipLine c)
    simp only [skipBlock] at h
    split at h
    · cases h
    · split at h
      · next hend =>
        cases h
        rw [blockSpan, hline.position_of_atEnd hend]
      · next hmore =>
        have hrest : c.rest ≠ [] := fun hnil => hmore (by simp [Cursor.atEnd, Cursor.skipLine, hnil])
        have hlt := Cursor.length_skipLine_lt hrest
        exact ih hline (by omega) h

theorem exists_readInstructions (hc : c.On d) (hk : c.line < k)
    (hmark : d.lineStarts k ".end method" = true) (hfuel : c.skipLine.rest.length < fuel) :
    ∃ y, readInstructions opened fuel c.skipLine = .ok y := by
  induction fuel generalizing c with
  | zero => exact absurd hfuel (Nat.not_lt_zero _)
  | succ fuel ih =>
    have htext := Document.lineText_ne_nil (by decide) hmark
    obtain ⟨hnext,hne⟩ := hc.startsLine_of_later hk htext
    generalize c.skipLine = s at *
    have hline : s.line = c.line + 1 := congrArg Position.line hnext.position
    cases hexpect : s.skipSpace.expect? ".end method" with
    | some after =>
      obtain ⟨r,hr,-⟩ := Cursor.literal?_eq_some hexpect
      rw [s.skipSpace_skipSpace] at hr
      exact ⟨([],after),by simp [readInstructions, Cursor.atEnd, hr, hexpect]⟩
    | none =>
      have hlater : s.line < k := by
        rcases Nat.eq_or_lt_of_le hk with rfl | hk
        · obtain ⟨after,hafter⟩ := hnext.exists_expect? (fun _ => stops_cons.mpr (by decide)) hmark
          rw [Cursor.expect?, ← s.skipSpace_skipSpace, ← Cursor.expect?, hexpect] at hafter
          cases hafter
        · omega
      obtain ⟨-,hmore⟩ := hnext.on.startsLine_of_later hlater htext
      have hlt := Cursor.length_skipLine_lt hne
      obtain ⟨y,hy⟩ := ih hnext.on hlater (by omega)
      rcases s.skipSpace_cases with hinline | hblank
      · have hspace := hnext.on.reaches (.skipSpace s)
        obtain ⟨here,hhere,-⟩ := Instruction.exists_references hspace s.skipSpace_skipSpace (.nil d _)
        have hend : s.skipSpace.atEnd = false := by
          rw [← hinline.skipLine_eq] at hmore
          refine Bool.eq_false_iff.mpr fun hend => hmore ?_
          simp [Cursor.skipLine, List.isEmpty_iff.mp hend]
        refine ⟨(here ++ y.1,y.2),?_⟩
        simp [readInstructions, hend, hexpect, hhere, hinline.skipLine_eq, hy, bind, Except.bind, pure,
          Except.pure]
      · -- a blank line is passed together with the one behind it
        have hsame : readInstructions opened (fuel + 1) s =
            readInstructions opened (fuel + 1) s.skipLine := by
          simp only [readInstructions, hblank]
        rw [hsame, readInstructions_fuel (m := fuel) (by omega) (by omega)]
        exact ⟨y,hy⟩

theorem fault_of_readInstructions (hc : c.On d) (hfuel : c.rest.length < fuel)
    (h : readInstructions opened fuel c = .error x) :
    x = ⟨⟨⟨opened,0⟩,d.positionAt d.size⟩,.openMethod⟩ := by
  induction fuel generalizing c with
  | zero => exact absurd hfuel (Nat.not_lt_zero _)
  | succ fuel ih =>
    have hspace := hc.reaches (.skipSpace c)
    simp only [readInstructions] at h
    split at h
    · next hend =>
      cases h
      rw [blockSpan, hspace.position_of_atEnd hend]
    · next hmore =>
      split at h
      · cases h
      · obtain ⟨here,hhere,-⟩ := Instruction.exists_references hspace c.skipSpace_skipSpace (.nil d _)
        have hrest : c.skipSpace.rest ≠ [] := fun hnil => hmore (by simp [Cursor.atEnd, hnil])
        have hlt := Cursor.length_skipLine_lt hrest
        have hle := (Cursor.Reaches.skipSpace c).length_le
        cases hnext : readInstructions opened fuel c.skipSpace.skipLine with
        | ok y => simp [hhere, hnext, bind, Except.bind, pure, Except.pure] at h
        | error e =>
          simp only [hhere, hnext, bind, Except.bind, Except.error.injEq] at h
          subst h
          exact ih (hspace.reaches (.skipLine _)) (by omega) hnext

/-- The reader of a file comes to a keyword: behind the head, and behind what each keyword opens. -/
inductive ComesTo (d : Document) : Cursor → Prop
  | header {x : Header × Cursor} (read : readHeader (.start d) = .ok x) : ComesTo d x.2
  | item {c : Cursor} {x : Option BodyItem × Cursor} (before : ComesTo d c)
      (more : c.peekToken.text.isEmpty = false) (read : readItem c.peekToken c.readToken.2 = .ok x) :
      ComesTo d x.2

/-- A keyword opens a block, and no line behind the keyword, or behind the signature that belongs to it,
starts with the end marker. -/
inductive LeavesOpen (d : Document) (c : Cursor) : Fault → Prop
  | block (keyword : c.peekToken.text = ".annotation")
      (unended : ∀ line, c.peekToken.span.start.line < line →
        d.lineStarts line ".end annotation" = false) : LeavesOpen d c .openAnnotationBlock
  | method {m : Method} (keyword : c.peekToken.text = ".method")
      (signature : Method.reader.value c.readToken.2 = .ok m)
      (unended : ∀ line, m.returnType.span.stop.line < line →
        d.lineStarts line ".end method" = false) : LeavesOpen d c .openMethod

end Class

/-- A fault is that of a malformed text or of a block that is not ended, it starts at a place of the
document, and one of a block goes from the line of the keyword that opens the block to the end of the
text. -/
structure Diagnostic.IsPlaced (d : Document) (x : Diagnostic) : Prop where
  kind : x.kind = .malformed ∨ x.kind = .unterminated
  span : x.span.StartsIn d
  unended : x.kind = .unterminated → ∃ c, Class.ComesTo d c ∧ Class.LeavesOpen d c x.fault ∧
    x.span = ⟨⟨c.peekToken.span.start.line,0⟩,d.positionAt d.size⟩

/-! ### Outcomes -/

/-- An outcome that is bad if it is a fault. -/
def Fails {α : Type} (bad : Diagnostic → Prop) (y : Except Diagnostic α) : Prop :=
  ∀ x, y = .error x → bad x

namespace Fails

variable {α β : Type} {bad bad' : Diagnostic → Prop} {y : Except Diagnostic α}

theorem ok (a : α) : Fails bad (.ok a : Except Diagnostic α) := fun _ h => by cases h

theorem error {x : Diagnostic} (h : bad x) : Fails bad (.error x : Except Diagnostic α) := by
  rintro _ ⟨rfl⟩
  exact h

theorem mono (h : Fails bad y) (hbad : ∀ x, bad x → bad' x) : Fails bad' y :=
  fun x hx => hbad x (h x hx)

theorem bind {f : α → Except Diagnostic β} (hy : Fails bad y) (hf : ∀ a, y = .ok a → Fails bad (f a)) :
    Fails bad (y >>= f) := by
  cases y with
  | error x => exact .error (hy x rfl)
  | ok a => exact hf a rfl

theorem of_sound {r : Reader α} (hr : r.Sound d) {c c' : Cursor} (hc : c.On d)
    (h : r.read c = (y,c')) : Fails (Diagnostic.IsMalformed d) y := by
  rintro x rfl
  exact hr.isMalformed c c' x hc h

end Fails

theorem Diagnostic.IsMalformed.isPlaced {x : Diagnostic} (h : x.IsMalformed d) : x.IsPlaced d where
  kind := .inl h.kind
  span := h.span
  unended hkind := by
    rw [h.kind] at hkind
    cases hkind

theorem Fails.bind_read {α β : Type} {r : Reader α} (hr : r.Sound d) {c c' : Cursor} (hc : c.On d)
    {y : Except Diagnostic α} (h : r.read c = (y,c')) {f : α → Except Diagnostic β}
    (hf : ∀ a, y = .ok a → Fails (Diagnostic.IsPlaced d) (f a)) :
    Fails (Diagnostic.IsPlaced d) (y >>= f) :=
  .bind ((Fails.of_sound hr hc h).mono fun _ => (·.isPlaced)) hf

namespace Class

variable {c : Cursor} {x : Diagnostic}

theorem fails_expectKeyword (hc : c.On d) (keyword : String) :
    Fails (Diagnostic.IsMalformed d) (expectKeyword c keyword) := by
  unfold expectKeyword
  split
  · exact .ok _
  · exact .error ⟨rfl,(hc.reaches (.skipSpace c)).startsIn (.inr ⟨rfl,Nat.le_add_right _ _⟩)⟩

theorem fails_readHeader (hc : c.On d) : Fails (Diagnostic.IsMalformed d) (readHeader c) := by
  unfold readHeader
  refine .bind (fails_expectKeyword hc ".class") fun c₁ hc₁ => ?_
  have hon₁ := hc.reaches (gives_expectKeyword ".class" c₁ hc₁)
  have hon₂ := hon₁.reaches (Modifier.reaches_readAll c₁)
  rcases hm : Modifier.readAll c₁ with ⟨modifiers,c₂⟩
  rw [hm] at hon₂
  dsimp only at hon₂ ⊢
  rcases hd : Descriptor.reader.read c₂ with ⟨named,c₃⟩
  refine .bind (.of_sound Descriptor.sound_reader hon₂ hd) fun type htype => ?_
  dsimp only at htype
  rw [htype] at hd
  have hon₃ := Descriptor.sound_reader.on _ _ _ hon₂ hd
  cases type.asClass? with
  | none =>
    obtain ⟨-,-,hafter,hspan⟩ := Descriptor.written_of_read hd
    refine .error ⟨rfl,?_⟩
    dsimp only
    rw [hspan, hafter]
    exact (hon₂.reaches (.skipSpace c₂)).startsIn_spanTo (.advance _ _)
  | some name =>
    simp only [pure_bind]
    refine .bind (fails_expectKeyword hon₃ ".super") fun c₄ hc₄ => ?_
    have hon₄ := hon₃.reaches (gives_expectKeyword ".super" c₄ hc₄)
    rcases hd : Descriptor.reader.read c₄ with ⟨extended,c₅⟩
    refine .bind (.of_sound Descriptor.sound_reader hon₄ hd) fun superclass _ => ?_
    dsimp only
    split <;> exact .ok _

theorem isPlaced_of_leavesOpen (hc : c.On d) (hcomes : ComesTo d c) {fault : Fault}
    (hopen : LeavesOpen d c fault) :
    Diagnostic.IsPlaced d ⟨⟨⟨c.peekToken.span.start.line,0⟩,d.positionAt d.size⟩,fault⟩ where
  kind := by cases hopen <;> exact .inr rfl
  span := (hc.reaches (.skipSpace c)).startsIn_line (hc.reaches (.skipSpace c)).position_le
  unended _ := ⟨c,hcomes,hopen,rfl⟩

theorem fails_skipBlock (hc : c.On d) (hcomes : ComesTo d c) (hkey : c.peekToken.text = ".annotation") :
    Fails (Diagnostic.IsPlaced d) (skipBlock c.peekToken.span.start.line
      (c.readToken.2.rest.length + 1) c.readToken.2) := by
  intro x hx
  have hbehind := hc.reaches (.readToken c)
  have hline : c.readToken.2.line = c.peekToken.span.start.line :=
    (hc.reaches (.skipSpace c)).line_of_inline c.inline_readToken
  rw [fault_of_skipBlock hbehind (Nat.lt_succ_self _) hx]
  refine isPlaced_of_leavesOpen hc hcomes (.block hkey fun line hlater => ?_)
  refine Bool.eq_false_iff.mpr fun hmark => ?_
  obtain ⟨after,hafter⟩ := exists_skipBlock hbehind (hline ▸ hlater) hmark (Nat.lt_succ_self _)
  rw [hafter] at hx
  cases hx

theorem fails_readMethod (hc : c.On d) (hcomes : ComesTo d c) (hkey : c.peekToken.text = ".method") :
    Fails (Diagnostic.IsPlaced d) (readMethod c.peekToken.span.start.line c.readToken.2) := by
  have hbehind := hc.reaches (.readToken c)
  unfold readMethod
  rcases hd : Method.reader.read c.readToken.2 with ⟨signature,e⟩
  refine .bind_read Method.sound_reader hbehind hd fun m hm =>
    .bind (fun x hx => ?_) fun _ _ => .ok _
  subst hm
  have hon := Method.sound_reader.on _ _ _ hbehind hd
  have hsignature := Method.stop_of_reader _ _ _ trivial hd
  have hvalue : Method.reader.value c.readToken.2 = .ok m := congrArg Prod.fst hd
  rw [fault_of_readInstructions (hon.reaches (.skipLine e)) (Nat.lt_succ_self _) hx]
  refine isPlaced_of_leavesOpen hc hcomes (.method hkey hvalue fun line hlater => ?_)
  refine Bool.eq_false_iff.mpr fun hmark => ?_
  rw [hsignature] at hlater
  obtain ⟨y,hy⟩ := exists_readInstructions hon hlater hmark (Nat.lt_succ_self _)
  rw [hy] at hx
  cases hx

theorem fails_readItem (hc : c.On d) (hcomes : ComesTo d c) :
    Fails (Diagnostic.IsPlaced d) (readItem c.peekToken c.readToken.2) := by
  have hbehind := hc.reaches (.readToken c)
  unfold readItem
  split
  · rcases hd : Descriptor.reader.read c.readToken.2 with ⟨type,c₁⟩
    exact .bind_read Descriptor.sound_reader hbehind hd fun _ _ => .ok _
  · next hkey => exact .bind (fails_skipBlock hc hcomes hkey) fun _ _ => .ok _
  · rcases hd : Field.reader.read c.readToken.2 with ⟨field,c₁⟩
    exact .bind_read Field.sound_reader hbehind hd fun _ _ => .ok _
  · next hkey => exact .bind (fails_readMethod hc hcomes hkey) fun _ _ => .ok _
  · exact .ok _

theorem ComesTo.on (h : ComesTo d c) : c.On d := by
  have hpast : c.Past d [] := by
    induction h with
    | header read => exact (gives_readHeader (keeps_past d) (.start d) _ read).forget
    | item before more read ih =>
      exact (gives_readItem (keeps_past d) _ (ih.reaches (.readToken _)) _ read).forget
  exact hpast.on

theorem fails_readItems (fuel : Nat) (hcomes : ComesTo d c) :
    Fails (Diagnostic.IsPlaced d) (readItems fuel c) := by
  induction fuel generalizing c with
  | zero => exact .ok _
  | succ fuel ih =>
    simp only [readItems]
    split
    · exact .ok _
    · next hmore =>
      refine .bind (fails_readItem hcomes.on hcomes) fun x hx => ?_
      exact .bind (ih (hcomes.item (Bool.eq_false_iff.mpr hmore) hx)) fun _ _ => .ok _

theorem fails_ofString (text : String) :
    Fails (Diagnostic.IsPlaced (.ofString text)) (ofString text) :=
  have hstart : (Cursor.start (.ofString text)).On (.ofString text) := ⟨[],Cursor.at_start _⟩
  .bind ((fails_readHeader hstart).mono fun _ => (·.isPlaced)) fun _ hx =>
    .bind (fails_readItems _ (.header hx)) fun _ _ => .ok _

theorem fatal_ofString (text : String) : Fails (·.isFatal = true) (ofString text) :=
  (fails_ofString text).mono fun x h => by
    rcases h.kind with hkind | hkind <;> rw [Diagnostic.isFatal, hkind] <;> rfl

/-- Reading a text as a class fails with a malformed text, or with a method or an annotation that is not
ended. -/
theorem isPlaced_of_ofString {text : String} {x : Diagnostic} (h : ofString text = .error x) :
    x.IsPlaced (.ofString text) :=
  fails_ofString text x h

/-- The second of two methods has no end marker. -/
theorem isPlaced_of_ofString_openMethod :
    let text := ".class La;\n.super Lb;\n.method a()V\n.end method\n  .method b()V\n nop\n"
    ∃ x, ofString text = .error x ∧ x.IsPlaced (.ofString text) ∧
      x = ⟨⟨⟨4,0⟩,⟨6,0⟩⟩,.openMethod⟩ := by
  intro text
  have hfault : (match ofString text with
      | .error x => x == ⟨⟨⟨4,0⟩,⟨6,0⟩⟩,.openMethod⟩
      | .ok _ => false) = true := by decide +kernel
  cases hread : ofString text with
  | ok c =>
    rw [hread] at hfault
    cases hfault
  | error x =>
    rw [hread] at hfault
    exact ⟨x,rfl,isPlaced_of_ofString hread,eq_of_beq hfault⟩

end Class

end SmaliNavigator
