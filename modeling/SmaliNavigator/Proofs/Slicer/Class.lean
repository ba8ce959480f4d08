import SmaliNavigator.Proofs.Slicer.Member
import SmaliNavigator.Proofs.Spot.Exactness
import SmaliNavigator.Proofs.Text.Positions
import SmaliNavigator.Slicer.Class

/-!
A whole file read by offsets. The loops over the lines of an annotation and of a method and over the
items of a file are bounded for a reader with a cursor; by offsets they go on until they come to an
end, and they come to the same.
-/

set_option autoImplicit false

namespace SmaliNavigator

open Text

namespace Cursor

variable {d : Document} {c : Cursor}

theorem offset_atPosition {line : Nat} {pre post : List Char} (h : d.lineText line = pre ++ post) :
    (atPosition d ⟨line,byteCount pre⟩).offset = d.offsetAt ⟨line,byteCount pre⟩ := by
  cases hl : d.lines[line]? with
  | none => simp only [atPosition, Document.offsetAt, hl]
  | some l =>
    obtain ⟨returns,_,hcontent,-⟩ := l.exists_tail
    simp only [Document.lineText, hl] at h
    have hcol : byteCount pre ≤ byteCount l.content := by
      rw [hcontent, h, byteCount_append, byteCount_append]
      omega
    have hstop : l.start + byteCount pre ≤ l.stop := Nat.add_le_add_left hcol _
    have hsize := Nat.le_trans hstop (Document.stop_le_size hl)
    simp only [atPosition, Document.offsetAt, hl, Document.mod_offsetCount hsize,
      Nat.min_eq_left hstop, Nat.min_eq_left hcol]

theorem On.offset_le_size (h : c.On d) : c.offset ≤ d.size := by
  obtain ⟨before,hb⟩ := h
  rw [hb.offset]
  exact Document.byteCount_le_size hb.chars

theorem On.atEnd_eq (h : c.On d) : decide (d.size ≤ c.offset) = c.atEnd := by
  obtain ⟨before,hb⟩ := h
  rw [d.size_eq, hb.chars, hb.offset, byteCount_append, atEnd]
  cases c.rest with
  | nil => simp
  | cons x xs =>
    have hx := x.utf8Size_pos
    simp
    omega

theorem length_skipLine_lt_of_not_atEnd (h : ¬c.skipLine.atEnd = true) :
    c.skipLine.rest.length < c.rest.length :=
  length_skipLine_lt fun hnil => h (by simp [atEnd, skipLine, hnil])

theorem readRestOfLine_isPrefix (c : Cursor) :
    trimEnd (c.skipInlineSpace.rest.takeWhile (· ≠ '\n')) <+: c.skipInlineSpace.rest :=
  (prefix_of_dropEndWhile _ _).trans (List.takeWhile_prefix _)

theorem toList_readRestOfLine (c : Cursor) : c.readRestOfLine.1.text.toList =
    trimEnd (c.skipInlineSpace.rest.takeWhile (· ≠ '\n')) := by
  obtain ⟨r,hr⟩ := c.readRestOfLine_isPrefix
  rw [readRestOfLine, token, String.toList_ofList, take_length_rest hr.symm]

theorem offset_readRestOfLine (c : Cursor) : c.readRestOfLine.2.offset =
    c.skipInlineSpace.offset + byteCount c.readRestOfLine.1.text.toList := by
  obtain ⟨r,hr⟩ := c.readRestOfLine_isPrefix
  rw [toList_readRestOfLine]
  exact offset_advance_length hr.symm

/-- The last operand of a line, found from the front and from the end of what was read. -/
theorem offset_lastOperand (c : Cursor) :
    let operands := c.readRestOfLine.1.text.toList
    (c.skipInlineSpace.advance (operands.length - (afterLast ',' operands).length)).offset =
      c.readRestOfLine.2.offset - byteCount (afterLast ',' operands) := by
  intro operands
  obtain ⟨pre,hpre,-⟩ := Document.exists_of_afterLast ',' operands
  obtain ⟨r,hrest⟩ := c.readRestOfLine_isPrefix
  have hsplit : c.skipInlineSpace.rest = pre ++ (afterLast ',' operands ++ r) := by
    rw [← hrest, ← toList_readRestOfLine, ← List.append_assoc, ← hpre]
  have hlength : operands.length - (afterLast ',' operands).length = pre.length := by
    have hlengths := congrArg List.length hpre
    rw [List.length_append] at hlengths
    omega
  have hsum := congrArg byteCount hpre
  rw [byteCount_append] at hsum
  rw [hlength, offset_advance_length hsplit, offset_readRestOfLine]
  change _ = c.skipInlineSpace.offset + byteCount operands - _
  omega

theorem inline_readRestOfLine (c : Cursor) : c.Inline c.readRestOfLine.2 :=
  c.inline_skipInlineSpace.trans (.advance (prefix_of_dropEndWhile _ _).length_le)

end Cursor

namespace Slicer

variable {α β γ δ : Type} {d : Document} {c : Cursor}

/-- A reading comes to something that is related to what a reader comes to, or to the same fault. -/
inductive Yields (rel : β → α → Nat → Prop) :
    Option (Except Diagnostic α × Nat) → Except Diagnostic β → Prop
  | ok {b : β} {a : α} {offset : Nat} (h : rel b a offset) : Yields rel (some (.ok a,offset)) (.ok b)
  | error (x : Diagnostic) (offset : Nat) : Yields rel (some (.error x,offset)) (.error x)

namespace Yields

variable {rel : β → α → Nat → Prop} {rel' : δ → γ → Nat → Prop} {offset : Nat}

theorem ok_or_error {out : Option (Except Diagnostic α × Nat)} {x : Except Diagnostic β}
    (h : Yields rel out x) : (∃ b a o, rel b a o ∧ out = some (.ok a,o) ∧ x = .ok b) ∨
      ∃ y o, out = some (.error y,o) ∧ x = .error y := by
  cases h with
  | ok h => exact .inl ⟨_,_,_,h,rfl,rfl⟩
  | error y o => exact .inr ⟨y,o,rfl,rfl⟩

theorem bind {s : Slicer α} {f : α → Slicer γ} {x : Except Diagnostic β}
    {g : β → Except Diagnostic δ} (h : Yields rel (s.readFrom d offset) x)
    (hf : ∀ {b a o}, rel b a o → Yields rel' ((f a).readFrom d o) (g b)) :
    Yields rel' ((s >>= f).readFrom d offset) (x >>= g) := by
  rw [readFrom_bind]
  generalize s.readFrom d offset = out at h
  cases h with
  | ok h => exact hf h
  | error x o => exact .error x o

theorem bind_pure {s : Slicer α} {x : Except Diagnostic β} {f : α → γ} {rel' : β → γ → Nat → Prop}
    (h : Yields rel (s.readFrom d offset) x) (hf : ∀ {b a o}, rel b a o → rel' b (f a) o) :
    Yields rel' ((s >>= fun a => pure (f a)).readFrom d offset) x := by
  rw [readFrom_bind]
  generalize s.readFrom d offset = out at h
  cases h with
  | ok h => exact .ok (hf h)
  | error x o => exact .error x o

theorem read {s : Slicer α} {r : Reader α} {f : α → Slicer γ} {x : Except Diagnostic α} {e : Cursor}
    {g : α → Except Diagnostic δ} (h : s.Follows r) (hc : c.On d) (hread : r.read c = (x,e))
    (hf : ∀ a, c.Reaches e → Yields rel' ((f a).readFrom d e.offset) (g a)) :
    Yields rel' ((s >>= f).readFrom d c.offset) (x >>= g) := by
  have hreach := h.reaches c
  rw [readFrom_bind, h.reads hc]
  rw [hread] at hreach ⊢
  cases x with
  | ok a => exact hf a hreach
  | error x => exact .error x _

end Yields

/-! ### The head of a file -/

/-- The offset is that of a cursor that is behind another one. -/
def Lands (c : Cursor) (e : Cursor) (offset : Nat) : Prop := c.Reaches e ∧ e.offset = offset

theorem yields_keyword (hc : c.On d) (k : String) :
    Yields (fun e _ => Lands c e) ((keyword k).readFrom d c.offset) (Class.expectKeyword c k) := by
  simp only [keyword, readFrom_bind, (follows_expect k).reads hc, Reader.tries, Reader.read_total,
    Class.expectKeyword]
  cases hexpect : c.expect? k with
  | some after => exact .ok ⟨.expect? hexpect,rfl⟩
  | none =>
    have hskip := hc.reaches (.skipSpace c)
    simp [readFrom_bind, follows_skipSpace.reads hc, hskip.positionAt_eq]
    exact .error _ _

theorem yields_header (hc : c.On d) :
    Yields (fun x h offset => x.1 = h ∧ Lands c x.2 offset) (header.readFrom d c.offset)
      (Class.readHeader c) := by
  unfold Class.readHeader header
  refine (yields_keyword hc ".class").bind fun {c₁ _ _} h₁ => ?_
  obtain ⟨h₁,rfl⟩ := h₁
  have h₂ := h₁.trans (Modifier.reaches_readAll c₁)
  rw [readFrom_bind, follows_modifiers.reads (hc.reaches h₁), Reader.read_total]
  rcases hmodifiers : Modifier.readAll c₁ with ⟨modifiers,c₂⟩
  rw [hmodifiers] at h₂
  dsimp only at h₂ ⊢
  rcases hread : Descriptor.reader.read c₂ with ⟨named,c₃⟩
  refine Yields.read follows_descriptor (hc.reaches h₂) hread fun type hreach => ?_
  have h₃ := h₂.trans hreach
  cases type.asClass? with
  | none => exact .error _ _
  | some name =>
    simp only [pure_bind]
    refine (yields_keyword (hc.reaches h₃) ".super").bind fun {c₄ _ _} hland => ?_
    obtain ⟨hreach,rfl⟩ := hland
    have h₄ := h₃.trans hreach
    rcases hread : Descriptor.reader.read c₄ with ⟨extended,c₅⟩
    refine Yields.read follows_descriptor (hc.reaches h₄) hread fun superclass hreach => ?_
    have h₅ := h₄.trans hreach
    rw [readFrom_bind, (follows_expect ".source").reads (hc.reaches h₅), Reader.tries,
      Reader.read_total]
    cases hexpect : c₅.expect? ".source" with
    | none => exact .ok ⟨rfl,h₅,rfl⟩
    | some c₆ =>
      have h₆ := h₅.trans (.expect? hexpect)
      simp only [if_true, readFrom_bind, follows_restOfLine.reads (hc.reaches h₆), Reader.read_total]
      exact .ok ⟨rfl,h₆.trans (.readRestOfLine c₆),rfl⟩

/-! ### Instructions -/

theorem readFrom_aside {s : Slicer α} {r : Reader α} (h : s.Follows r) (hc : c.On d) (o : Nat) :
    (aside c.offset s).readFrom d o = some (.ok (r.value c),o) := by
  rw [aside, readFrom_of, h.reads hc, Option.map_some]
  rfl

theorem readFrom_asideAt {s : Slicer α} {r : Reader α} (h : s.Follows r) {line : Nat}
    {pre post : List Char} (hpre : d.lineText line = pre ++ post) (o : Nat) :
    (asideAt ⟨line,byteCount pre⟩ s).readFrom d o =
      some (.ok (r.value (.atPosition d ⟨line,byteCount pre⟩)),o) := by
  obtain ⟨before,hat,-⟩ := Cursor.aligned_atPosition hpre
  simp only [asideAt, readFrom_bind, readFrom_asks, ← Cursor.offset_atPosition hpre,
    readFrom_aside h ⟨before,hat⟩]

theorem readFrom_firstReference {p : Pattern} (hp : p.LeavesEnd) {s : Slicer α} {r : Reader α}
    (h : s.Follows r) (references : α → String → List Reference) (line o : Nat) :
    (firstReference p s references line).readFrom d o = some (match p.findFirst? (d.lineText line) with
      | none => .ok []
      | some m => do return references (← r.value (.atPosition d ⟨line,m.start⟩)) m.text,o) := by
  simp only [firstReference, readFrom_bind, readFrom_lineText]
  cases hm : p.findFirst? (d.lineText line) with
  | none => rfl
  | some m =>
    obtain ⟨pre,post,hpre,hstart,-⟩ := hp.of_mem_findAll (List.mem_of_mem_head? hm)
    simp only [hstart, readFrom_bind, readFrom_asideAt h hpre]
    rcases r.value (.atPosition d ⟨line,byteCount pre⟩) with x | a <;> rfl

theorem inline_expect? {literal : String} {after : Cursor} (hs : Stops isSpace c.rest)
    (hliteral : '\n' ∉ literal.toList) (h : c.expect? literal = some after) : c.Inline after := by
  rw [Cursor.expect?, Cursor.skipSpace_of_stops hs] at h
  obtain ⟨r,hrest,rfl⟩ := Cursor.literal?_eq_some h
  exact .of_rest hrest hliteral

theorem readFrom_expectAny (hc : c.On d) (hs : Stops isSpace c.rest) {ls : List String}
    (hls : ∀ l ∈ ls, '\n' ∉ l.toList) :
    ∃ e, c.Inline e ∧ (expectAny ls).readFrom d c.offset =
      some (.ok (ls.any fun l => (c.expect? l).isSome),e.offset) ∧
      ((ls.any fun l => (c.expect? l).isSome) = false → e = c) := by
  induction ls with
  | nil => exact ⟨c,.of_rest (u := []) rfl (by simp),rfl,fun _ => rfl⟩
  | cons l ls ih =>
    simp only [expectAny, readFrom_bind, (follows_expect l).reads hc, Reader.tries, Reader.read_total]
    cases hexpect : c.expect? l with
    | some after =>
      refine ⟨after,inline_expect? hs (hls l (by simp)) hexpect,by simp [hexpect],?_⟩
      simp [hexpect]
    | none =>
      obtain ⟨e,hinline,hread,hnone⟩ := ih fun l hl => hls l (by simp [hl])
      refine ⟨e,hinline,?_,?_⟩
      · simpa [hexpect] using hread
      · simpa [hexpect] using hnone

theorem exists_expect? {opcode : String} (hs : Stops isSpace c.rest)
    (h : c.peekToken.text = opcode) : ∃ after, c.expect? opcode = some after := by
  have hprefix : opcode.toList <+: c.rest := by
    rw [← h, Cursor.peekToken, Cursor.readToken, Cursor.skipSpace_of_stops hs]
    simpa [Cursor.token] using List.take_prefix _ c.rest
  obtain ⟨r,hr⟩ := hprefix
  exact ⟨_,Cursor.expect?_of_rest hr.symm hs⟩

theorem readFrom_lastOperand (hc : c.On d) (hs : Stops isSpace c.rest) {opcode : String}
    (hopcode : '\n' ∉ opcode.toList) (h : c.peekToken.text = opcode) :
    ∃ e, c.Inline e ∧ (lastOperand opcode).readFrom d c.offset =
      some (match (c.expect? opcode).bind Instruction.lastOperand? with
        | none => .ok []
        | some operand => match Descriptor.reader.value operand with
          | .ok t => .ok t.references
          | .error _ => .ok [],e.offset) := by
  obtain ⟨after,hafter⟩ := exists_expect? hs h
  have hbehind := hc.reaches (.expect? hafter)
  have hinline := inline_expect? hs hopcode hafter
  simp only [lastOperand, readFrom_bind, (follows_expect opcode).reads hc, Reader.tries,
    Reader.read_total, hafter, Option.bind_some, follows_restOfLine.reads hbehind]
  rw [Instruction.lastOperand?, ← Cursor.toList_readRestOfLine]
  refine ⟨_,hinline.trans (Cursor.inline_readRestOfLine after),?_⟩
  split
  · have hoperand := fun n => hbehind.reaches
      ((Cursor.Reaches.skipInlineSpace after).trans (.advance _ n))
    simp only [readFrom_bind, readFrom_offset, readFrom_asks, ← Cursor.offset_lastOperand,
      Nat.min_eq_left (hoperand _).offset_le_size, readFrom_aside follows_descriptor (hoperand _)]
    generalize after.skipInlineSpace.advance _ = operand
    rcases Descriptor.reader.value operand with x | t <;> rfl
  · rfl

/-- An instruction is read as it is from a cursor, and the offset is left on its line. -/
theorem readFrom_instruction (hc : c.On d) (hs : Stops isSpace c.rest) :
    ∃ e, c.Inline e ∧
      instruction.readFrom d c.offset = some (Instruction.references c,e.offset) := by
  have hfields : ∀ l ∈ Instruction.fieldOpcodes, '\n' ∉ l.toList := by decide
  have htypes : ∀ l ∈ Instruction.typeOpcodes, '\n' ∉ l.toList := by decide
  have hcall : '\n' ∉ Instruction.callOpcode.toList := by decide
  obtain ⟨e,hinline,hread,hnone⟩ := readFrom_expectAny hc hs hfields
  simp only [instruction, readFrom_bind, readFrom_position, hread, Instruction.references,
    hc.positionAt_eq, hc.document]
  cases hany : Instruction.fieldOpcodes.any fun l => (c.expect? l).isSome with
  | true =>
    refine ⟨e,hinline,?_⟩
    simp only [if_true, readFrom_firstReference Pattern.takes_fieldReference.leavesEnd
      follows_fieldReference]
    rfl
  | false =>
    obtain rfl : c = e := (hnone hany).symm
    simp only [Bool.false_eq_true, if_false, readFrom_bind,
      (follows_expect Instruction.callOpcode).reads hc, Reader.tries, Reader.read_total]
    cases hexpect : c.expect? Instruction.callOpcode with
    | some after =>
      refine ⟨after,inline_expect? hs hcall hexpect,?_⟩
      simp only [if_true, Option.isSome_some,
        readFrom_firstReference Pattern.takes_methodReference.leavesEnd follows_methodReference]
      rfl
    | none =>
      simp only [Bool.false_eq_true, if_false, Option.isSome_none, readFrom_bind,
        follows_peekToken.reads hc, Reader.asks, Reader.read_total]
      cases hop : Instruction.typeOpcodes.find? (c.peekToken.text == ·) with
      | none => exact ⟨c,hinline,rfl⟩
      | some opcode =>
        exact readFrom_lastOperand hc hs (htypes _ (List.mem_of_find?_eq_some hop))
          (eq_of_beq (List.find?_some hop))

/-! ### Blocks -/

theorem readFrom_atEnd (hc : c.On d) :
    atEnd.readFrom d c.offset = some (.ok c.atEnd,c.offset) := by
  rw [atEnd, readFrom_asks, hc.atEnd_eq]

theorem readFrom_unclosed (hc : c.On d) (line : Nat) (fault : Fault) :
    (unclosed line fault : Slicer α).readFrom d c.offset =
      some (.error ⟨Class.blockSpan line c,fault⟩,c.offset) := by
  simp only [unclosed, readFrom_bind, readFrom_position, readFrom_fail, hc.positionAt_eq]
  rfl

theorem readFrom_blockStep (hc : c.On d) (line : Nat) : (blockStep line).readFrom d c.offset =
    match c.expect? ".end annotation" with
    | some after => some (.ok none,after.offset)
    | none =>
      if c.skipLine.atEnd then
        some (.error ⟨Class.blockSpan line c.skipLine,.openAnnotationBlock⟩,c.skipLine.offset)
      else some (.ok (some ()),c.skipLine.offset) := by
  simp only [blockStep, readFrom_bind, (follows_expect ".end annotation").reads hc, Reader.tries,
    Reader.read_total]
  cases c.expect? ".end annotation" with
  | some after => rfl
  | none =>
    have hline := hc.reaches (.skipLine c)
    simp only [Bool.false_eq_true, if_false, readFrom_bind, follows_skipLine.reads hc,
      Reader.read_moves, readFrom_atEnd hline]
    split
    · exact readFrom_unclosed hline line _
    · rfl

theorem yields_block {n : Nat} (hc : c.On d) (line : Nat) (hn : c.rest.length < n) :
    Yields (fun e _ => Lands c e) ((block line).readFrom d c.offset) (Class.skipBlock line n c) := by
  induction n generalizing c with
  | zero => exact absurd hn (Nat.not_lt_zero _)
  | succ n ih =>
    rw [block, readFrom_collect, readFrom_blockStep hc, Class.skipBlock]
    cases hexpect : c.expect? ".end annotation" with
    | some after => exact .ok ⟨.expect? hexpect,rfl⟩
    | none =>
      by_cases hend : c.skipLine.atEnd = true
      · simp only [if_pos hend]
        exact .error _ _
      · have hline := Cursor.Reaches.skipLine c
        have hlt := Cursor.length_skipLine_lt_of_not_atEnd hend
        simp only [if_neg hend]
        refine (ih (hc.reaches hline) (by omega)).bind_pure fun hland => ?_
        exact ⟨hline.trans hland.1,hland.2⟩

theorem readFrom_instructionStep (hc : c.On d) (line : Nat) :
    ∃ o, (instructionStep line).readFrom d c.offset =
      if c.skipSpace.atEnd then
        some (.error ⟨Class.blockSpan line c.skipSpace,.openMethod⟩,c.skipSpace.offset)
      else match c.skipSpace.expect? ".end method" with
        | some after => some (.ok none,after.offset)
        | none => match Instruction.references c.skipSpace with
          | .ok here => some (.ok (some here),c.skipSpace.skipLine.offset)
          | .error x => some (.error x,o) := by
  have hskip := hc.reaches (.skipSpace c)
  obtain ⟨e,hinline,hread⟩ := readFrom_instruction hskip c.stops_skipSpace
  refine ⟨e.offset,?_⟩
  simp only [instructionStep, readFrom_bind, follows_skipSpace.reads hc, Reader.read_moves,
    readFrom_atEnd hskip]
  split
  · exact readFrom_unclosed hskip line _
  · simp only [readFrom_bind, (follows_expect ".end method").reads hskip, Reader.tries,
      Reader.read_total]
    cases c.skipSpace.expect? ".end method" with
    | some after => rfl
    | none =>
      simp only [Bool.false_eq_true, if_false, readFrom_bind, hread]
      cases Instruction.references c.skipSpace with
      | error x => rfl
      | ok here =>
        have hline := follows_skipLine.reads (hskip.reaches hinline.reaches)
        rw [Reader.read_moves, hinline.skipLine_eq] at hline
        simp only [hline]
        rfl

theorem yields_instructions {n : Nat} (hc : c.On d) (line : Nat) (hn : c.rest.length < n) :
    Yields (fun x named offset => x.1 = named.flatten ∧ Lands c x.2 offset)
      ((instructions line).readFrom d c.offset) (Class.readInstructions line n c) := by
  induction n generalizing c with
  | zero => exact absurd hn (Nat.not_lt_zero _)
  | succ n ih =>
    obtain ⟨o,hstep⟩ := readFrom_instructionStep hc line
    rw [instructions, readFrom_collect, hstep, Class.readInstructions]
    have hskip := Cursor.Reaches.skipSpace c
    by_cases hend : c.skipSpace.atEnd = true
    · simp only [if_pos hend]
      exact .error _ _
    · simp only [if_neg hend]
      cases hexpect : c.skipSpace.expect? ".end method" with
      | some after => exact .ok ⟨rfl,hskip.trans (.expect? hexpect),rfl⟩
      | none =>
        cases Instruction.references c.skipSpace with
        | error x => exact .error x _
        | ok here =>
          have hline := hskip.trans (.skipLine _)
          have hle := hskip.length_le
          have hlt := Cursor.length_skipLine_lt (by simpa [Cursor.atEnd] using hend)
          refine (ih (hc.reaches hline) (by omega)).bind fun {x named o} hx => .ok ?_
          obtain ⟨hnamed,hlands⟩ := hx
          exact ⟨by rw [hnamed, List.flatten_cons],hline.trans hlands.1,hlands.2⟩

/-! ### Items -/

theorem yields_methodItem (hc : c.On d) (line : Nat) :
    Yields (fun x item offset => x.1 = item ∧ Lands c x.2 offset)
      ((methodItem line).readFrom d c.offset) (Class.readMethod line c) := by
  unfold Class.readMethod methodItem
  rcases hread : Method.reader.read c with ⟨signature,e⟩
  refine Yields.read follows_method hc hread fun m hreach => ?_
  have he := hc.reaches hreach
  have hline := hreach.trans (.skipLine e)
  rw [readFrom_bind, follows_skipLine.reads he]
  refine (yields_instructions (hc.reaches hline) line (Nat.lt_succ_self _)).bind
    fun {x named o} hx => ?_
  obtain ⟨hnamed,hlands,rfl⟩ := hx
  have hlast := hline.trans hlands
  simp only [readFrom_bind, readFrom_position, (hc.reaches hlast).positionAt_eq, readFrom_pure]
  exact .ok ⟨by rw [hnamed]; rfl,hlast,rfl⟩

theorem yields_item (hc : c.On d) (keyword : Token) :
    Yields (fun x item? offset => x.1 = item? ∧ Lands c x.2 offset)
      ((item keyword).readFrom d c.offset) (Class.readItem keyword c) := by
  unfold Class.readItem
  dsimp only
  split
  · next hkeyword =>
    simp only [item, hkeyword]
    rcases hread : Descriptor.reader.read c with ⟨type,e⟩
    exact Yields.read follows_descriptor hc hread fun t hreach => .ok ⟨rfl,hreach,rfl⟩
  · next hkeyword =>
    simp only [item, hkeyword]
    exact (yields_block hc _ (Nat.lt_succ_self _)).bind fun hlands => .ok ⟨rfl,hlands⟩
  · next hkeyword =>
    simp only [item, hkeyword]
    rcases hread : Field.reader.read c with ⟨field,e⟩
    exact Yields.read follows_field hc hread fun f hreach => .ok ⟨rfl,hreach,rfl⟩
  · next hkeyword =>
    simp only [item, hkeyword]
    exact (yields_methodItem hc _).bind fun hx => .ok ⟨by rw [hx.1],hx.2⟩
  · simp only [item, readFrom_bind, follows_skipLine.reads hc]
    exact .ok ⟨rfl,.skipLine c,rfl⟩

theorem readFrom_itemStep (hc : c.On d) : itemStep.readFrom d c.offset =
    if c.readToken.1.text.isEmpty then some (.ok none,c.readToken.2.offset)
    else (item c.readToken.1 >>= fun item? => pure (some item?)).readFrom d c.readToken.2.offset := by
  simp only [itemStep, readFrom_bind, follows_readToken.reads hc, Reader.read_total]
  split
  · rfl
  · rw [readFrom_bind]

theorem yields_items {n : Nat} (hc : c.On d) (hn : c.rest.length < n) :
    Yields (fun read collected _ => read = collected.flatMap Option.toList)
      (items.readFrom d c.offset) (Class.readItems n c) := by
  induction n generalizing c with
  | zero => exact absurd hn (Nat.not_lt_zero _)
  | succ n ih =>
    rw [items, readFrom_collect, readFrom_itemStep hc, Class.readItems]
    dsimp only
    by_cases hempty : c.readToken.1.text.isEmpty = true
    · simp only [if_pos hempty]
      exact .ok rfl
    · have htoken := hc.reaches (.readToken c)
      have hlt := Cursor.length_readToken_lt (c := c) (by simpa using hempty)
      rw [if_neg hempty, if_neg hempty, readFrom_bind]
      obtain ⟨⟨item?,e⟩,_,_,⟨rfl,hlands,rfl⟩,hout,hitem⟩ | ⟨x,o,hout,hitem⟩ :=
        (yields_item htoken c.readToken.1).ok_or_error
      · rw [hout, hitem]
        have hle := hlands.length_le
        exact (ih (htoken.reaches hlands) (by omega)).bind fun hitems => .ok (by rw [hitems]; rfl)
      · rw [hout, hitem]
        exact .error x o

theorem readFrom_wholeClass (d : Document) :
    ∃ o, wholeClass.readFrom d 0 = some (Class.ofDocument d,o) := by
  have hclass : Yields (fun read c _ => read = c) (wholeClass.readFrom d 0) (Class.ofDocument d) := by
    refine (yields_header (c := .start d) ⟨[],Cursor.at_start d⟩).bind fun {x h o} hx => ?_
    obtain ⟨rfl,hreach,rfl⟩ := hx
    have hon : Cursor.On d x.2 := Cursor.On.reaches ⟨[],Cursor.at_start d⟩ hreach
    refine (yields_items hon (Nat.lt_succ_self _)).bind fun {read collected o} hitems => .ok ?_
    rw [hitems]
  obtain ⟨_,_,o,rfl,hout,hread⟩ | ⟨x,o,hout,hread⟩ := hclass.ok_or_error
  · exact ⟨o,by rw [hout, hread]⟩
  · exact ⟨o,by rw [hout, hread]⟩

end Slicer

end SmaliNavigator
