import SmaliNavigator.Proofs.Class.Fuel
import SmaliNavigator.Proofs.Class.Items
import SmaliNavigator.Proofs.Text.LineCount

/-!
Where the bodies of methods end. The reader of a method goes from line to line, and stops at the first
one that starts with the end marker. What follows the marker on its line is not looked at.
-/

set_option autoImplicit false

namespace SmaliNavigator

open Text

/-- The marker of the end of a method, with white space in front of it. -/
structure Document.MarkedBy (d : Document) (line : Nat) (space behind : List Char) : Prop where
  text : d.lineText line = (space ++ ".end method".toList) ++ behind
  isSpace : ∀ x ∈ space, isSpace x = true

/-- Whether a line starts with the end marker for the reader of a file. -/
def Document.MarksEnd (d : Document) (line : Nat) : Prop :=
  ∃ space behind, d.MarkedBy line space behind

variable {d : Document}

namespace Cursor

variable {c : Cursor} {line : Nat}

/-- The cursor is at the start of a line. -/
def StartsLine (d : Document) (line : Nat) (c : Cursor) : Prop :=
  ∃ before, c.At d before ∧ (before = [] ∨ before.getLast? = some '\n') ∧
    before.count '\n' = line

theorem At.line_eq_count {before : List Char} (h : c.At d before) : c.line = before.count '\n' := by
  obtain ⟨front,x,rfl,hfeed,hfirst⟩ := Document.exists_lineStart before
  have hchars := h.chars
  rw [List.append_assoc] at hchars
  rw [Cursor.line, Cursor.position, h.document, h.offset, Document.positionAt_front hchars hfirst hfeed,
    List.count_append, List.count_eq_zero_of_not_mem hfeed, Nat.add_zero]

theorem On.startsLine_skipLine (h : c.On d) (hne : c.skipLine.rest ≠ []) :
    c.skipLine.StartsLine d (c.line + 1) := by
  obtain ⟨before,hat⟩ := h
  obtain ⟨xs,ys,hrest,hrun,hall,hstops⟩ := c.exists_run (· ≠ '\n')
  have hfeed : '\n' ∉ xs := fun hx => by simpa using hall '\n' hx
  cases ys with
  | nil =>
    refine absurd ?_ hne
    rw [skipLine, rest_advance, hrun, List.drop_eq_nil_of_le (by simp [hrest])]
  | cons y ys =>
    obtain rfl : y = '\n' := by simpa using stops_cons.mp hstops
    have hnext := hat.advance (xs ++ ['\n']).length
    rw [take_length_rest (by simpa using hrest)] at hnext
    rw [skipLine_of_rest hrest hfeed, hat.line_eq_count]
    refine ⟨_,hnext,.inr (by rw [← List.append_assoc, List.getLast?_concat]),?_⟩
    simp [List.count_eq_zero_of_not_mem hfeed]

namespace StartsLine

theorem on (h : c.StartsLine d line) : c.On d := by
  obtain ⟨before,hat,-,-⟩ := h
  exact ⟨before,hat⟩

theorem getElem?_lines (h : c.StartsLine d line) : ∃ l, d.lines[line]? = some l ∧ l.tail = c.rest := by
  obtain ⟨before,hat,hfirst,rfl⟩ := h
  exact ⟨_,Document.getElem?_lines hat.chars hfirst,rfl⟩

theorem position (h : c.StartsLine d line) : c.position = ⟨line,0⟩ := by
  obtain ⟨before,hat,hfirst,rfl⟩ := h
  rw [Cursor.position, hat.document, hat.offset]
  exact Document.positionAt_start (Document.getElem?_lines hat.chars hfirst)

theorem lineText_of_rest {xs ys : List Char} (h : c.StartsLine d line) (hrest : c.rest = xs ++ ys)
    (hfeed : '\n' ∉ xs) (hreturn : xs.getLast?.all (fun x => !(x == '\r')) = true) :
    ∃ zs, d.lineText line = xs ++ zs := by
  obtain ⟨l,hl,htail⟩ := h.getElem?_lines
  rw [Document.lineText, hl]
  exact ⟨_,Line.text_append (htail.trans hrest) hfeed hreturn⟩

theorem rest_of_lineText {xs ys : List Char} (h : c.StartsLine d line)
    (htext : d.lineText line = xs ++ ys) : ∃ zs, c.rest = xs ++ zs ∧ '\n' ∉ xs := by
  obtain ⟨l,hl,htail⟩ := h.getElem?_lines
  obtain ⟨returns,more,hcontent,hmore,hfeed⟩ := l.exists_tail
  simp only [Document.lineText, hl] at htext
  rw [htext, List.append_assoc] at hcontent
  refine ⟨ys ++ returns ++ more,?_,fun hmem => hfeed (by simp [hcontent, hmem])⟩
  rw [← htail, hmore, hcontent]
  simp

end StartsLine

end Cursor

namespace Class

variable {c last : Cursor} {line opened fuel : Nat} {rs : List Reference}

theorem last_of_markedBy {space behind : List Char} (hc : c.StartsLine d line)
    (h : d.MarkedBy line space behind) (hread : readInstructions opened fuel c = .ok (rs,last)) :
    last.position = ⟨line,byteCount (space ++ ".end method".toList)⟩ := by
  obtain ⟨zs,hrest,hfeed⟩ := hc.rest_of_lineText h.text
  obtain ⟨before,hat,-,-⟩ := id hc
  have hrun : c.run isSpace = space.length := by
    rw [List.append_assoc] at hrest
    exact Cursor.run_of_stops hrest h.isSpace (stops_cons.mpr (by decide))
  have hspace : c.skipSpace = c.advance space.length := by
    rw [Cursor.skipSpace, Cursor.skipWhile, hrun]
  have hmarker : c.skipSpace.rest = ".end method".toList ++ zs := by
    rw [hspace]
    exact Cursor.rest_advance_length (by simpa using hrest)
  have hexpect : c.skipSpace.expect? ".end method" =
      some (c.skipSpace.advance ".end method".toList.length) :=
    Cursor.expect?_of_rest hmarker (by rw [hmarker]; exact stops_cons.mpr (by decide))
  have hlast : last = c.advance (space ++ ".end method".toList).length := by
    cases fuel with
    | zero => cases hread
    | succ fuel =>
      simp only [readInstructions, hexpect] at hread
      split at hread
      · cases hread
      · cases hread
        rw [hspace, Cursor.advance_append]
  rw [hlast, hat.position_advance hrest hfeed, hc.position, Position.right, Nat.zero_add]

theorem readInstructions_next (hc : c.StartsLine d line) (h : ¬d.MarksEnd line)
    (hread : readInstructions opened fuel c = .ok (rs,last)) :
    ∃ fuel' rs', readInstructions opened fuel' c.skipLine = .ok (rs',last) := by
  cases fuel with
  | zero => cases hread
  | succ fuel =>
    rcases c.skipSpace_cases with hinline | hblank
    · -- a marker that is found here would stand at the start of the line
      have hnone : c.skipSpace.expect? ".end method" = none := by
        cases hexpect : c.skipSpace.expect? ".end method" with
        | none => rfl
        | some after =>
          rw [Cursor.expect?, c.skipSpace_skipSpace] at hexpect
          obtain ⟨r,hmarker,-⟩ := Cursor.literal?_eq_some hexpect
          obtain ⟨xs,ys,hrest,hrun,hall,-⟩ := c.exists_run isSpace
          have hys : c.skipSpace.rest = ys := by
            rw [Cursor.skipSpace, Cursor.skipWhile, hrun]
            exact Cursor.rest_advance_length hrest
          obtain ⟨u,hu,hfeed,-⟩ := hinline
          obtain rfl : u = xs := by
            rw [hys, hrest] at hu
            exact (List.append_cancel_right hu).symm
          rw [← hys, hmarker, ← List.append_assoc] at hrest
          obtain ⟨behind,htext⟩ := hc.lineText_of_rest hrest (by simp [hfeed]) (by simp)
          exact absurd ⟨u,behind,htext,hall⟩ h
      simp only [readInstructions, hnone, hinline.skipLine_eq] at hread
      split at hread
      · cases hread
      · cases hhere : Instruction.references c.skipSpace with
        | error x => simp [hhere, bind, Except.bind] at hread
        | ok here =>
          cases hnext : readInstructions opened fuel c.skipLine with
          | error x => simp [hhere, hnext, bind, Except.bind] at hread
          | ok x =>
            simp only [hhere, hnext, bind, Except.bind, pure, Except.pure, Except.ok.injEq,
              Prod.mk.injEq] at hread
            exact ⟨fuel,x.1,by rw [hnext, ← hread.2]⟩
    · refine ⟨fuel + 1,rs,?_⟩
      rw [← hread]
      simp only [readInstructions, hblank]

theorem rest_ne_nil_of_readInstructions
    (hread : readInstructions opened fuel c = .ok (rs,last)) : c.rest ≠ [] := by
  intro hnil
  have hend : c.skipSpace.atEnd = true := by simp [Cursor.atEnd, Cursor.skipSpace, Cursor.skipWhile, hnil]
  cases fuel with
  | zero => cases hread
  | succ fuel =>
    simp only [readInstructions, hend, if_true] at hread
    cases hread

theorem exists_last (hc : c.StartsLine d line)
    (hread : readInstructions opened fuel c = .ok (rs,last)) :
    ∃ stop space behind, line ≤ stop ∧ d.MarkedBy stop space behind ∧
      last.position = ⟨stop,byteCount (space ++ ".end method".toList)⟩ ∧
      ∀ k, line ≤ k → k < stop → ¬d.MarksEnd k := by
  induction hn : c.rest.length using Nat.strongRecOn generalizing c line fuel rs with
  | _ n ih =>
    by_cases hmark : d.MarksEnd line
    · obtain ⟨space,behind,hmarked⟩ := hmark
      exact ⟨line,space,behind,Nat.le_refl _,hmarked,last_of_markedBy hc hmarked hread,
        fun k hle hlt => absurd hle (Nat.not_le_of_lt hlt)⟩
    · obtain ⟨fuel',rs',hnext⟩ := readInstructions_next hc hmark hread
      have hnextLine := hc.on.startsLine_skipLine (rest_ne_nil_of_readInstructions hnext)
      rw [Cursor.line, hc.position] at hnextLine
      dsimp only at hnextLine
      have hlt := Cursor.length_skipLine_lt (rest_ne_nil_of_readInstructions hread)
      obtain ⟨stop,space,behind,hle,hmarked,hlast,hnone⟩ :=
        ih _ (hn ▸ hlt) hnextLine hnext rfl
      refine ⟨stop,space,behind,by omega,hmarked,hlast,fun k hk hstop => ?_⟩
      rcases Nat.eq_or_lt_of_le hk with rfl | hk
      · exact hmark
      · exact hnone k hk hstop

end Class

/-! ### Signatures -/

theorem Descriptor.stop_of_read {c e : Cursor} {t : Descriptor}
    (h : Descriptor.reader.read c = (.ok t,e)) : t.span.stop = e.position :=
  congrArg Span.stop (written_of_read h).2.2.2

theorem Method.stop_of_reader :
    Reader.Triple (fun _ => True) Method.reader fun m c => m.returnType.span.stop = c.position :=
  have htype : Reader.Triple (fun _ => True) Descriptor.reader fun t c => t.span.stop = c.position :=
    fun _ _ _ _ hread => Descriptor.stop_of_read hread
  (Reader.triple_asks _).bind fun _ => Reader.triple_keeps.bind fun _ =>
    Reader.triple_keeps.bind fun _ => Reader.triple_keeps.bind fun _ =>
    htype.bind fun _ => Reader.triple_pure fun _ h => h

theorem Method.reaches_of_read {c e : Cursor} {m : Method} (h : Method.reader.read c = (.ok m,e)) :
    c.Reaches e :=
  @Method.records_reader [] _ (Class.keeps_reaches c).toKeeps c m e (.refl c) h

/-! ### Bodies -/

/-- A body goes from the line of the keyword to the first end marker behind the signature. -/
structure Method.HasBody (d : Document) (m : Method) (b : Span) : Prop where
  start : b.start.col = 0
  signature : m.returnType.span.stop.line < b.stop.line
  marked : ∃ space behind, d.MarkedBy b.stop.line space behind ∧
    b.stop.col = byteCount (space ++ ".end method".toList)
  first : ∀ line, m.returnType.span.stop.line < line → line < b.stop.line → ¬d.MarksEnd line

namespace Class

theorem hasBody_of_readMethod {line : Nat} {c after : Cursor} {m : Method} {rs : List Reference}
    (hc : c.On d) (h : readMethod line c = .ok (.method m rs,after)) :
    ∃ b, m.body? = some b ∧ b.start.line = line ∧ m.HasBody d b := by
  unfold readMethod at h
  rcases hread : Method.reader.read c with ⟨signature,e⟩
  rw [hread] at h
  cases signature with
  | error x => cases h
  | ok s =>
    cases hlines : readInstructions line (e.skipLine.rest.length + 1) e.skipLine with
    | error x => simp [hlines, bind, Except.bind] at h
    | ok x =>
      simp only [hlines, bind, Except.bind, pure, Except.pure, Except.ok.injEq, Prod.mk.injEq,
        BodyItem.method.injEq] at h
      obtain ⟨⟨rfl,-⟩,-⟩ := h
      have hstop := congrArg Position.line (Method.stop_of_reader c s e trivial hread)
      have hnext := (hc.reaches (Method.reaches_of_read hread)).startsLine_skipLine
        (rest_ne_nil_of_readInstructions hlines)
      obtain ⟨stop,space,behind,hle,hmarked,hlast,hnone⟩ := exists_last hnext hlines
      have hline : s.returnType.span.stop.line < stop := by
        rw [hstop]
        exact hle
      refine ⟨_,rfl,rfl,rfl,?_,⟨space,behind,?_,?_⟩,fun k hk hlt => hnone k ?_ ?_⟩
      · simpa only [blockSpan, hlast] using hline
      · simpa only [blockSpan, hlast] using hmarked
      · simp only [blockSpan, hlast]
      · rw [hstop] at hk
        exact hk
      · simpa only [blockSpan, hlast] using hlt

theorem exists_readMethod_of_mem_allMethods {c : Class} (h : ofDocument d = .ok c) {m : Method}
    (hm : m ∈ c.allMethods) : ∃ (k after : Cursor) (rs : List Reference), k.On d ∧
      k.peekToken.text = ".method" ∧
      readMethod k.peekToken.span.start.line k.readToken.2 = .ok (.method m rs,after) := by
  obtain ⟨x,k,rs,hread,hitem⟩ := exists_item_of_mem_allMethods h hm
  obtain ⟨c,after,hc,rfl,hitem⟩ := readItem_of_mem_keyworded hread hitem
  have hkey := (declaredAt_readItem _ _ _ hitem _ rfl).1
  simp only [readItem, hkey] at hitem
  cases hmethod : readMethod c.peekToken.span.start.line c.readToken.2 with
  | error x => simp [hmethod, bind, Except.bind] at hitem
  | ok y =>
    simp only [hmethod, bind, Except.bind, pure, Except.pure, Except.ok.injEq, Prod.mk.injEq,
      Option.some.injEq] at hitem
    obtain ⟨i,after⟩ := y
    obtain rfl : i = .method m rs := hitem.1
    exact ⟨c,after,rs,hc,hkey,hmethod⟩

theorem hasBody_of_mem_allMethods {c : Class} (h : ofDocument d = .ok c) {m : Method}
    (hm : m ∈ c.allMethods) : ∃ b, m.body? = some b ∧ m.HasBody d b := by
  obtain ⟨k,after,rs,hk,-,hread⟩ := exists_readMethod_of_mem_allMethods h hm
  obtain ⟨b,hb,-,hbody⟩ := hasBody_of_readMethod (hk.reaches (.readToken k)) hread
  exact ⟨b,hb,hbody⟩

end Class

end SmaliNavigator
