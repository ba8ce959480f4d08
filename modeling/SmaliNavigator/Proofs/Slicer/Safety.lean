import SmaliNavigator.Proofs.Slicer.Spot

/-!
Reading by offsets is safe, and it ends. From an offset between two characters every operation of the
scanner has an outcome, done or failed, and leaves the offset between two characters, never in front of
where it was. A loop has to move on with each step that it goes on after, and so it ends.

Main statement: `Slicer.reads_safely`, with which a whole file and the symbol at any position are read
without a cut inside a character.
-/

set_option autoImplicit false

namespace SmaliNavigator

open Text

/-- The offset is between two characters of the document, or at one of its ends. -/
def Document.IsBoundary (d : Document) (offset : Nat) : Prop :=
  ∃ before after, d.chars = before ++ after ∧ offset = byteCount before

namespace Cursor

variable {d : Document} {c c' : Cursor}

theorem On.isBoundary (h : c.On d) : d.IsBoundary c.offset := by
  obtain ⟨before,hb⟩ := h
  exact ⟨before,c.rest,hb.chars,hb.offset⟩

theorem On.atOffset_eq (h : c.On d) : atOffset d c.offset = c := by
  obtain ⟨before,hb⟩ := h
  rw [atOffset, On.positionAt_eq ⟨before,hb⟩, hb.atPosition_position]

theorem Reaches.offset_lt (h : c.Reaches c') (hlt : c'.rest.length < c.rest.length) :
    c.offset < c'.offset := by
  obtain ⟨n,rfl⟩ := h
  have hbytes := length_le_byteCount (c.rest.take n)
  rw [rest_advance, List.length_drop] at hlt
  rw [List.length_take] at hbytes
  change c.offset < c.offset + byteCount (c.rest.take n)
  omega

end Cursor

namespace Document.IsBoundary

variable {d : Document} {offset : Nat}

theorem on_atOffset (h : d.IsBoundary offset) :
    (Cursor.atOffset d offset).On d ∧ (Cursor.atOffset d offset).offset = offset := by
  obtain ⟨before,after,hchars,rfl⟩ := h
  have hon : (⟨d,byteCount before,after⟩ : Cursor).On d := ⟨before,rfl,hchars,rfl⟩
  have heq := hon.atOffset_eq
  exact ⟨heq ▸ hon,by rw [heq]⟩

theorem le_size (h : d.IsBoundary offset) : offset ≤ d.size := by
  obtain ⟨before,after,hchars,rfl⟩ := h
  exact Document.byteCount_le_size hchars

end Document.IsBoundary

/-! ### Operations of the scanner -/

namespace Slicer

namespace Operation

/-- The same with a cursor. -/
def reader : Operation → Reader Unit
  | skipSpace => Reader.moves Cursor.skipSpace
  | skipInlineSpace => Reader.moves Cursor.skipInlineSpace
  | skipLine => Reader.moves Cursor.skipLine
  | expect literal => do let _ ← Reader.tries fun c => c.expect? literal
  | expectOnLine literal => do let _ ← Reader.tries fun c => c.expectOnLine? literal
  | peekChar => do let _ ← Reader.asks fun c => c.rest.head?
  | peekToken => do let _ ← Reader.asks Cursor.peekToken
  | readToken => do let _ ← Reader.total Cursor.readToken
  | tokenUntil separator => do let _ ← Reader.tokenUntil separator
  | restOfLine => do let _ ← Reader.total Cursor.readRestOfLine
  | type => do let _ ← Descriptor.reader
  | modifiers => do let _ ← Reader.total Modifier.readAll
  | parameters => do let _ ← Descriptor.parametersReader

theorem follows (op : Operation) : op.slicer.Follows op.reader := by
  cases op with
  | skipSpace => exact Slicer.follows_skipSpace
  | skipInlineSpace => exact Slicer.follows_skipInlineSpace
  | skipLine => exact Slicer.follows_skipLine
  | expect literal => exact (Slicer.follows_expect literal).dropped
  | expectOnLine literal => exact (Slicer.follows_expectOnLine literal).dropped
  | peekChar => exact Slicer.follows_peekChar.dropped
  | peekToken => exact Slicer.follows_peekToken.dropped
  | readToken => exact Slicer.follows_readToken.dropped
  | tokenUntil separator => exact (Slicer.follows_tokenUntil separator).dropped
  | restOfLine => exact Slicer.follows_restOfLine.dropped
  | type => exact Slicer.follows_descriptor.dropped
  | modifiers => exact Slicer.follows_modifiers.dropped
  | parameters => exact Slicer.follows_parameters.dropped

/-- The cursors behind operations one after another, whether they fail or not. -/
def places : Cursor → List Operation → List Cursor
  | _, [] => []
  | c, op :: ops => (op.reader.read c).2 :: places (op.reader.read c).2 ops

variable {d : Document} {c : Cursor}

theorem offsets?_eq (hc : c.On d) (ops : List Operation) :
    offsets? d c.offset ops = some ((places c ops).map Cursor.offset) := by
  induction ops generalizing c with
  | nil => rfl
  | cons op ops ih =>
    have hnext := hc.reaches (op.follows.reaches c)
    simp only [offsets?, op.follows.reads hc, Option.bind_eq_bind, Option.bind_some, ih hnext, places,
      List.map_cons]
    rfl

theorem reaches_places (ops : List Operation) : ∀ e ∈ places c ops, c.Reaches e := by
  induction ops generalizing c with
  | nil => simp [places]
  | cons op ops ih =>
    intro e he
    rcases List.mem_cons.mp he with rfl | he
    · exact op.follows.reaches c
    · exact (op.follows.reaches c).trans (ih e he)

theorem pairwise_places (c : Cursor) (ops : List Operation) :
    (c :: places c ops).Pairwise fun e e' => e.offset ≤ e'.offset := by
  induction ops generalizing c with
  | nil => exact List.pairwise_singleton _ _
  | cons op ops ih =>
    exact List.pairwise_cons.mpr ⟨fun e he => (reaches_places (op :: ops) e he).offset_le,ih _⟩

end Operation

/-! ### Loops -/

variable {α : Type} {d : Document} {c : Cursor}

/-- From every offset between two characters a step has an outcome, and where the loop goes on after
it, the offset is between two characters again and a later one. -/
def Advances (d : Document) (step : Slicer (Option α)) : Prop :=
  ∀ o, d.IsBoundary o → ∃ out o', step.readFrom d o = some (out,o') ∧
    ∀ a, out = .ok (some a) → d.IsBoundary o' ∧ o < o'

/-- From every offset between two characters a reading has an outcome. -/
def Ends (d : Document) (s : Slicer α) : Prop :=
  ∀ o, d.IsBoundary o → ∃ out o', s.readFrom d o = some (out,o')

/-- A loop ends that moves on with each step: the text behind the offset gets shorter. -/
theorem Advances.ends {step : Slicer (Option α)} (h : Advances d step) : Ends d (collect step) := by
  intro o ho
  induction hleft : d.size - o using Nat.strongRecOn generalizing o with
  | ind left ih =>
    obtain ⟨out,o',hread,hnext⟩ := h o ho
    rw [readFrom_collect, hread]
    rcases out with x | _ | a
    · exact ⟨_,_,rfl⟩
    · exact ⟨_,_,rfl⟩
    · obtain ⟨hboundary,hlt⟩ := hnext a rfl
      have hle := hboundary.le_size
      obtain ⟨out,o'',hrest⟩ := ih (d.size - o') (by omega) o' hboundary rfl
      simp only [readFrom_bind, hrest]
      rcases out with x | as
      · exact ⟨_,_,rfl⟩
      · exact ⟨_,_,rfl⟩

theorem advances_of {step : Slicer (Option α)}
    (h : ∀ c : Cursor, c.On d → ∃ out o, step.readFrom d c.offset = some (out,o) ∧
      ∀ a, out = .ok (some a) → ∃ e, c.Reaches e ∧ e.offset = o ∧ e.rest.length < c.rest.length) :
    Advances d step := by
  intro o ho
  obtain ⟨hon,hoffset⟩ := ho.on_atOffset
  obtain ⟨out,o',hread,hnext⟩ := h _ hon
  rw [hoffset] at hread
  refine ⟨out,o',hread,fun a ha => ?_⟩
  obtain ⟨e,hreach,rfl,hlt⟩ := hnext a ha
  have hle := hreach.offset_lt hlt
  rw [hoffset] at hle
  exact ⟨(hon.reaches hreach).isBoundary,hle⟩

theorem advances_modifierStep : Advances d modifierStep := by
  refine advances_of fun c hc => ?_
  rw [readFrom_modifierStep hc]
  cases hkeyword : Modifier.ofKeyword? c.readToken.1.text with
  | none => exact ⟨_,_,rfl,by simp⟩
  | some m => exact ⟨_,_,rfl,fun _ _ => ⟨_,.readToken c,rfl,Modifier.length_readToken_lt hkeyword⟩⟩

theorem advances_parameterStep : Advances d parameterStep := by
  refine advances_of fun c hc => ?_
  rw [readFrom_parameterStep hc]
  have hskip := Cursor.Reaches.skipInlineSpace c
  split
  · exact ⟨_,_,rfl,by simp⟩
  · split
    · exact ⟨_,_,rfl,by simp⟩
    · split
      · exact ⟨_,_,rfl,by simp⟩
      · split
        · next t after hread =>
          have hlt := Descriptor.length_lt_of_read hread
          exact ⟨_,_,rfl,fun _ _ => ⟨after,hskip.trans (Descriptor.reaches_of_read hread),rfl,
            Nat.lt_of_lt_of_le hlt hskip.length_le⟩⟩
        · exact ⟨_,_,rfl,by simp⟩

theorem advances_blockStep (line : Nat) : Advances d (blockStep line) := by
  refine advances_of fun c hc => ?_
  rw [readFrom_blockStep hc]
  split
  · exact ⟨_,_,rfl,by simp⟩
  · split
    · exact ⟨_,_,rfl,by simp⟩
    · next hend =>
      exact ⟨_,_,rfl,fun _ _ =>
        ⟨_,.skipLine c,rfl,Cursor.length_skipLine_lt_of_not_atEnd hend⟩⟩

theorem advances_instructionStep (line : Nat) : Advances d (instructionStep line) := by
  refine advances_of fun c hc => ?_
  obtain ⟨o,hread⟩ := readFrom_instructionStep hc line
  have hskip := Cursor.Reaches.skipSpace c
  rw [hread]
  split
  · exact ⟨_,_,rfl,by simp⟩
  · next hend =>
    split
    · exact ⟨_,_,rfl,by simp⟩
    · split
      · exact ⟨_,_,rfl,fun _ _ => ⟨_,hskip.trans (.skipLine _),rfl,Nat.lt_of_lt_of_le
          (Cursor.length_skipLine_lt (by simpa [Cursor.atEnd] using hend)) hskip.length_le⟩⟩
      · exact ⟨_,_,rfl,by simp⟩

theorem advances_itemStep : Advances d itemStep := by
  refine advances_of fun c hc => ?_
  have htoken := Cursor.Reaches.readToken c
  rw [readFrom_itemStep hc]
  split
  · exact ⟨_,_,rfl,by simp⟩
  · next hempty =>
    have hlt := Cursor.length_readToken_lt (c := c) (by simpa using hempty)
    rw [readFrom_bind]
    obtain ⟨_,_,_,⟨-,hreach,rfl⟩,hout,-⟩ | ⟨x,o,hout,-⟩ :=
      (yields_item (hc.reaches htoken) c.readToken.1).ok_or_error
    · rw [hout]
      exact ⟨_,_,rfl,fun _ _ => ⟨_,htoken.trans hreach,rfl,
        Nat.lt_of_le_of_lt hreach.length_le hlt⟩⟩
    · rw [hout]
      exact ⟨_,_,rfl,by simp⟩

/-! ### Whole readings -/

/-- From an offset between two characters the operations of the scanner, each done or failed, leave the
offset between two characters, at most at the end and never in front of where it was. The loops move on
with each step that they go on after, and end. So a whole file is read, and so is the symbol at any
position, in the middle of a character or outside of the line too: there is an outcome, and it is that
of the reader with a cursor, which cuts nothing. -/
theorem reads_safely (d : Document) :
    (∀ o ops, d.IsBoundary o →
      Operation.offsets? d o ops = some ((Operation.places (.atOffset d o) ops).map Cursor.offset) ∧
      (o :: (Operation.places (.atOffset d o) ops).map Cursor.offset).Pairwise (· ≤ ·) ∧
      ∀ e ∈ Operation.places (.atOffset d o) ops, d.IsBoundary e.offset ∧ e.offset ≤ d.size) ∧
    ((Advances d modifierStep ∧ Ends d modifiers) ∧
      (Advances d parameterStep ∧ Ends d parameters) ∧
      (∀ line, Advances d (blockStep line) ∧ Ends d (block line)) ∧
      (∀ line, Advances d (instructionStep line) ∧ Ends d (instructions line)) ∧
      (Advances d itemStep ∧ Ends d items)) ∧
    (∃ o, wholeClass.readFrom d 0 = some (Class.ofDocument d,o)) ∧
    ∀ p, Answers (spotAt p) d (d.spotAt? p) ∧
      Answers (stringAt p) d (d.stringAt? p) ∧
      Answers (typeAt p) d (d.typeAt? p) ∧
      Answers (fieldReferenceAt p) d (d.fieldReferenceAt? p) ∧
      Answers (methodReferenceAt p) d (d.methodReferenceAt? p) ∧
      Answers (labelAt p) d (d.labelAt? p) ∧
      Answers (fieldDefinitionAt p) d (d.fieldDefinitionAt? p) ∧
      Answers (methodDefinitionAt p) d (d.methodDefinitionAt? p) := by
  refine ⟨fun o ops ho => ?_,⟨?_,?_,fun line => ?_,fun line => ?_,?_⟩,readFrom_wholeClass d,fun p => ?_⟩
  · obtain ⟨hon,hoffset⟩ := ho.on_atOffset
    have hoffsets := Operation.offsets?_eq hon ops
    have hordered := (Operation.pairwise_places (.atOffset d o) ops).map Cursor.offset fun _ _ h => h
    rw [hoffset] at hoffsets
    rw [List.map_cons, hoffset] at hordered
    refine ⟨hoffsets,hordered,fun e he => ?_⟩
    have hplace := hon.reaches (Operation.reaches_places ops e he)
    exact ⟨hplace.isBoundary,hplace.offset_le_size⟩
  · exact ⟨advances_modifierStep,advances_modifierStep.ends⟩
  · exact ⟨advances_parameterStep,advances_parameterStep.ends⟩
  · exact ⟨advances_blockStep line,(advances_blockStep line).ends⟩
  · exact ⟨advances_instructionStep line,(advances_instructionStep line).ends⟩
  · exact ⟨advances_itemStep,advances_itemStep.ends⟩
  · exact ⟨answers_spotAt p,answers_stringAt p,answers_typeAt p,answers_fieldReferenceAt p,
      answers_methodReferenceAt p,answers_labelAt p,answers_fieldDefinitionAt p,
      answers_methodDefinitionAt p⟩

/-- Operations behind the second character of a class name, three of which fail, a modifier, and the
symbol in the middle of that character. -/
theorem reads_safely_multibyte :
    let d := Document.ofString ".class Lé;\n.super Lü;\n.field public ß:I = \"€\"\n"
    let ops : List Operation := [.type,.skipLine,.tokenUntil ':',.expect ".super",.type,.readToken,
      .modifiers,.tokenUntil ':',.parameters,.expectOnLine "=",.restOfLine]
    let t := Descriptor.single (.object ⟨"é",.within 0 7 11⟩)
    d.IsBoundary 10 ∧
      Operation.offsets? d 10 ops = some [10,12,12,18,23,30,37,41,43,44,50] ∧
      d.IsBoundary 30 ∧ modifierStep.readFrom d 30 = some (.ok (some .publicAccess),37) ∧ 30 < 37 ∧
      (∃ o, wholeClass.readFrom d 0 = some (Class.ofDocument d,o)) ∧
      (spotAt ⟨0,9⟩).readFrom d 0 = some (.ok (some (.type t)),0) ∧
      (spotAt ⟨0,99⟩).readFrom d 0 = some (.ok none,0) := by
  intro d ops t
  have hboundary : d.IsBoundary 10 := ⟨".class Lé".toList,d.chars.drop 9,by decide,by decide⟩
  have hmodifier : d.IsBoundary 30 := ⟨d.chars.take 28,d.chars.drop 28,by decide,by decide⟩
  have hstep : modifierStep.readFrom d 30 = some (.ok (some .publicAccess),37) := by decide +kernel
  obtain ⟨hoperations,⟨⟨hadvances,-⟩,-⟩,hclass,hspots⟩ := reads_safely d
  have hoffsets := (hoperations 10 ops hboundary).1
  have hplaces : (Operation.places (.atOffset d 10) ops).map Cursor.offset =
      [10,12,12,18,23,30,37,41,43,44,50] := by decide +kernel
  rw [hplaces] at hoffsets
  obtain ⟨out,o,hread,hnext⟩ := hadvances 30 hmodifier
  obtain ⟨rfl,rfl⟩ : out = .ok (some .publicAccess) ∧ o = 37 := by
    simpa using hread.symm.trans hstep
  have hinside : d.spotAt? ⟨0,9⟩ = some (.type t) := by decide +kernel
  have houtside : d.spotAt? ⟨0,99⟩ = none := by decide +kernel
  exact ⟨hboundary,hoffsets,hmodifier,hstep,(hnext _ rfl).2,hclass,hinside ▸ (hspots ⟨0,9⟩).1 0,
    houtside ▸ (hspots ⟨0,99⟩).1 0⟩

end Slicer

end SmaliNavigator
