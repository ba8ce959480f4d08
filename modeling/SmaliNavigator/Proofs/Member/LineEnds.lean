import SmaliNavigator.Proofs.Class.Fuel
import SmaliNavigator.Proofs.Text.LineEnds

/-!
Reading lines that end in a carriage return and a line feed. Two cursors walk side by side, one in a
document and one in the document with the carriage returns. Each movement keeps them aligned and passes
the same tokens, so that no reader tells the two apart. The faults that readers fail with may differ.
-/

set_option autoImplicit false

namespace SmaliNavigator

open Text

/-- Whether a text has neither of the two characters that end lines. -/
def HasNoLineEnd (cs : List Char) : Prop := '\n' ∉ cs ∧ '\r' ∉ cs

instance (cs : List Char) : Decidable (HasNoLineEnd cs) := inferInstanceAs (Decidable (_ ∧ _))

namespace Cursor

/-- The second cursor is at the place of the first one in the document with the carriage returns. -/
def Aligned (d : Document) (c c' : Cursor) : Prop :=
  ∃ before, c.At d before ∧ c'.At d.withReturns (withReturns before)

namespace Aligned

variable {d : Document} {c c' : Cursor}

theorem start (d : Document) : Aligned d (.start d) (.start d.withReturns) :=
  ⟨[],at_start d,at_start d.withReturns⟩

theorem document (h : Aligned d c c') : c.document = d := by
  obtain ⟨_,hc,_⟩ := h
  exact hc.document

theorem document_withReturns (h : Aligned d c c') : c'.document = d.withReturns := by
  obtain ⟨_,_,hc'⟩ := h
  exact hc'.document

theorem rest (h : Aligned d c c') : c'.rest = withReturns c.rest := by
  obtain ⟨before,hc,hc'⟩ := h
  have hchars := hc'.chars
  rw [Document.chars_withReturns, hc.chars, withReturns_append] at hchars
  exact (List.append_cancel_left hchars).symm

theorem length_le (h : Aligned d c c') : c.rest.length ≤ c'.rest.length := by
  rw [h.rest]
  exact length_le_withReturns c.rest

theorem position (h : Aligned d c c') : c'.position = c.position := by
  obtain ⟨before,hc,hc'⟩ := h
  rw [Cursor.position, Cursor.position, hc.document, hc.offset, hc'.document, hc'.offset,
    Document.positionAt_withReturns hc.chars]

theorem line (h : Aligned d c c') : c'.line = c.line := congrArg Position.line h.position

theorem lineSpan (h : Aligned d c c') : c'.document.lineSpan c'.line = c.document.lineSpan c.line := by
  rw [h.document_withReturns, h.document, h.line, Document.lineSpan_withReturns]

theorem atEnd (h : Aligned d c c') : c'.atEnd = c.atEnd := by
  rw [Cursor.atEnd, Cursor.atEnd, h.rest, Bool.eq_iff_iff, List.isEmpty_iff, List.isEmpty_iff,
    withReturns_eq_nil_iff]

theorem spanTo {e e' : Cursor} (h : Aligned d c c') (he : Aligned d e e') :
    c'.spanTo e' = c.spanTo e := by
  rw [Cursor.spanTo, Cursor.spanTo, h.position, he.position]

/-! ### Movements -/

theorem advance {xs ys : List Char} (h : Aligned d c c') (hrest : c.rest = xs ++ ys) :
    Aligned d (c.advance xs.length) (c'.advance (withReturns xs).length) := by
  have hrest' : c'.rest = withReturns xs ++ withReturns ys := by rw [h.rest, hrest, withReturns_append]
  obtain ⟨before,hc,hc'⟩ := h
  have hat := hc.advance xs.length
  have hat' := hc'.advance (withReturns xs).length
  rw [take_length_rest hrest] at hat
  rw [take_length_rest hrest', ← withReturns_append] at hat'
  exact ⟨_,hat,hat'⟩

theorem advance_inline {xs ys : List Char} (h : Aligned d c c') (hrest : c.rest = xs ++ ys)
    (hx : '\n' ∉ xs) : Aligned d (c.advance xs.length) (c'.advance xs.length) := by
  have hnext := h.advance hrest
  rwa [withReturns_of_not_mem hx] at hnext

theorem rest_inline {xs ys : List Char} (h : Aligned d c c') (hrest : c.rest = xs ++ ys)
    (hx : '\n' ∉ xs) : c'.rest = xs ++ withReturns ys := by
  rw [h.rest, hrest, withReturns_append, withReturns_of_not_mem hx]

theorem token_inline {xs ys : List Char} (h : Aligned d c c') (hrest : c.rest = xs ++ ys)
    (hx : '\n' ∉ xs) : c'.token xs.length = c.token xs.length := by
  rw [token, token, take_length_rest (h.rest_inline hrest hx), take_length_rest hrest,
    h.spanTo (h.advance_inline hrest hx)]

theorem skipWhile {p : Char → Bool} (h : Aligned d c c') (hp : p '\r' = p '\n') :
    Aligned d (c.skipWhile p) (c'.skipWhile p) := by
  have hnext := h.advance (List.takeWhile_append_dropWhile (p := p) (l := c.rest)).symm
  rwa [← takeWhile_withReturns hp, ← h.rest] at hnext

theorem skipSpace (h : Aligned d c c') : Aligned d c.skipSpace c'.skipSpace := h.skipWhile rfl

theorem skipInlineSpace (h : Aligned d c c') : Aligned d c.skipInlineSpace c'.skipInlineSpace :=
  h.skipWhile rfl

/-- A run that stops at the end of the line at the latest is the same text for both. -/
theorem exists_run {p : Char → Bool} (h : Aligned d c c') (hfeed : p '\n' = false)
    (hreturn : p '\r' = false) : ∃ xs ys, c.rest = xs ++ ys ∧ '\n' ∉ xs ∧ c.run p = xs.length ∧
      c'.run p = xs.length := by
  obtain ⟨xs,ys,hrest,hrun,hall,_⟩ := c.exists_run p
  have hx : '\n' ∉ xs := fun hmem => by simpa [hfeed] using hall '\n' hmem
  refine ⟨xs,ys,hrest,hx,hrun,?_⟩
  have htake : c.rest.takeWhile p = xs := by
    rw [← take_length_rest hrest, ← hrun, run]
    exact List.prefix_iff_eq_take.mp (List.takeWhile_prefix p)
  rw [run, h.rest, takeWhile_withReturns (hreturn.trans hfeed.symm), htake, withReturns_of_not_mem hx]

/-- Behind such a run both cursors have a character and pass the same text up to it, or neither
does. -/
theorem run_then {p : Char → Bool} (h : Aligned d c c') (hfeed : p '\n' = false)
    (hreturn : p '\r' = false) {x : Char} (hx : HasNoLineEnd [x]) : c'.run p = c.run p ∧
      ((c.rest.drop (c.run p)).head? = some x ∧ (c'.rest.drop (c.run p)).head? = some x ∧
          c'.rest.take (c.run p + 1) = c.rest.take (c.run p + 1) ∧
          Aligned d (c.advance (c.run p + 1)) (c'.advance (c.run p + 1)) ∨
        (c.rest.drop (c.run p)).head? ≠ some x ∧ (c'.rest.drop (c.run p)).head? ≠ some x) := by
  obtain ⟨hxfeed,hxreturn⟩ : x ≠ '\n' ∧ x ≠ '\r' := by simpa [HasNoLineEnd, eq_comm] using hx
  obtain ⟨xs,ys,hrest,hxs,hrun,hrun'⟩ := h.exists_run hfeed hreturn
  have hhead : (withReturns ys).head? = some x ↔ ys.head? = some x :=
    head?_withReturns hxfeed hxreturn
  refine ⟨by rw [hrun, hrun'],?_⟩
  rw [hrun, h.rest_inline hrest hxs, hrest, List.drop_left, List.drop_left]
  by_cases hys : ys.head? = some x
  · obtain ⟨zs,rfl⟩ := List.head?_eq_some_iff.mp hys
    have hsplit : c.rest = (xs ++ [x]) ++ zs := by simpa using hrest
    have hinline : '\n' ∉ xs ++ [x] := by simpa [hxs] using Ne.symm hxfeed
    have hnext := h.advance_inline hsplit hinline
    have htake := take_length_rest hsplit
    have htake' := take_length_rest (h.rest_inline hsplit hinline)
    rw [List.length_append, List.length_singleton] at hnext htake htake'
    rw [hrest] at htake
    rw [h.rest_inline hrest hxs] at htake'
    exact .inl ⟨hys,hhead.mpr hys,htake'.trans htake.symm,hnext⟩
  · exact .inr ⟨hys,mt hhead.mp hys⟩

theorem skipLine (h : Aligned d c c') : Aligned d c.skipLine c'.skipLine := by
  obtain ⟨xs,ys,hrest,hrun,hall,hstops⟩ := c.exists_run (· ≠ '\n')
  have hx : '\n' ∉ xs := fun hmem => by simpa using hall '\n' hmem
  cases ys with
  | nil =>
    rw [List.append_nil] at hrest
    have hrest' : c'.rest = xs := by rw [h.rest, hrest, withReturns_of_not_mem hx]
    have hend {e : Cursor} (he : e.rest = xs) : e.skipLine = e.advance xs.length := by
      have hline : e.run (· ≠ '\n') = xs.length :=
        run_of_stops (show e.rest = xs ++ [] by rw [he, List.append_nil]) hall fun _ hc => by cases hc
      have htake : e.rest.take (xs.length + 1) = e.rest.take xs.length := by
        rw [he, List.take_length, List.take_of_length_le (Nat.le_succ _)]
      have hdrop : e.rest.drop (xs.length + 1) = e.rest.drop xs.length := by
        rw [he, List.drop_length, List.drop_of_length_le (Nat.le_succ _)]
      rw [Cursor.skipLine, hline, Cursor.advance, Cursor.advance, htake, hdrop]
    rw [hend hrest, hend hrest']
    exact h.advance_inline (show c.rest = xs ++ [] by rw [hrest, List.append_nil]) hx
  | cons y ys =>
    obtain rfl : y = '\n' := by simpa using stops_cons.mp hstops
    have hsplit : c.rest = (xs ++ ['\n']) ++ ys := by simpa using hrest
    have hrest' : c'.rest = (xs ++ ['\r']) ++ '\n' :: withReturns ys := by
      rw [h.rest, hrest, withReturns_append, withReturns_of_not_mem hx, withReturns_feed]
      simp
    have hnext := h.advance hsplit
    rw [withReturns_append, withReturns_of_not_mem hx] at hnext
    rw [skipLine_of_rest hrest hx, skipLine_of_rest hrest' (by simp [hx])]
    simpa [withReturns_feed] using hnext

theorem readToken (h : Aligned d c c') :
    c'.readToken.1 = c.readToken.1 ∧ Aligned d c.readToken.2 c'.readToken.2 := by
  obtain ⟨xs,ys,hrest,hx,hrun,hrun'⟩ := h.skipSpace.exists_run (p := fun x => !isSpace x) rfl rfl
  simp only [Cursor.readToken, hrun, hrun']
  exact ⟨h.skipSpace.token_inline hrest hx,h.skipSpace.advance_inline hrest hx⟩

/-- The rest of a line without the white space at its end, and what the line has behind it. -/
theorem exists_line (h : Aligned d c c') : ∃ xs ys, c.rest = xs ++ ys ∧ '\n' ∉ xs ∧
    trimEnd (c.rest.takeWhile (· ≠ '\n')) = xs ∧ trimEnd (c'.rest.takeWhile (· ≠ '\n')) = xs := by
  have hstarts := (prefix_of_dropEndWhile isBlank (c.rest.takeWhile (· ≠ '\n')))
  obtain ⟨ys,hys⟩ := hstarts.trans (List.takeWhile_prefix _)
  refine ⟨trimEnd (c.rest.takeWhile (· ≠ '\n')),ys,hys.symm,fun hmem => ?_,rfl,?_⟩
  · simpa using of_mem_takeWhile (hstarts.subset hmem)
  · rw [h.rest]
    exact dropEndWhile_line_withReturns rfl c.rest

theorem readRestOfLine (h : Aligned d c c') :
    c'.readRestOfLine.1 = c.readRestOfLine.1 ∧ Aligned d c.readRestOfLine.2 c'.readRestOfLine.2 := by
  obtain ⟨xs,ys,hrest,hx,htrim,htrim'⟩ := h.skipInlineSpace.exists_line
  simp only [Cursor.readRestOfLine, htrim, htrim']
  exact ⟨h.skipInlineSpace.token_inline hrest hx,h.skipInlineSpace.advance_inline hrest hx⟩

theorem literal? {literal : String} (hliteral : HasNoLineEnd literal.toList) (h : Aligned d c c') :
    c.literal? literal = none ∧ c'.literal? literal = none ∨
      ∃ e e', c.literal? literal = some e ∧ c'.literal? literal = some e' ∧ Aligned d e e' := by
  have hstarts := isPrefixOf_withReturns hliteral.1 hliteral.2 c.rest
  rw [← h.rest] at hstarts
  unfold Cursor.literal?
  rw [hstarts]
  split
  · next hp =>
    obtain ⟨r,hr⟩ := List.isPrefixOf_iff_prefix.mp hp
    exact .inr ⟨_,_,rfl,rfl,h.advance_inline hr.symm hliteral.1⟩
  · exact .inl ⟨rfl,rfl⟩

theorem expect? {literal : String} (hliteral : HasNoLineEnd literal.toList) (h : Aligned d c c') :
    c.expect? literal = none ∧ c'.expect? literal = none ∨
      ∃ e e', c.expect? literal = some e ∧ c'.expect? literal = some e' ∧ Aligned d e e' :=
  h.skipSpace.literal? hliteral

theorem expectOnLine? {literal : String} (hliteral : HasNoLineEnd literal.toList)
    (h : Aligned d c c') :
    c.expectOnLine? literal = none ∧ c'.expectOnLine? literal = none ∨
      ∃ e e', c.expectOnLine? literal = some e ∧ c'.expectOnLine? literal = some e' ∧
        Aligned d e e' :=
  h.skipInlineSpace.literal? hliteral

end Aligned

theorem aligned_atPosition {d : Document} {line : Nat} {pre post : List Char}
    (h : d.lineText line = pre ++ post) :
    Aligned d (atPosition d ⟨line,byteCount pre⟩) (atPosition d.withReturns ⟨line,byteCount pre⟩) := by
  cases hl : d.lines[line]? with
  | none =>
    have hl' : d.withReturns.lines[line]? = none := by
      rw [List.getElem?_eq_none_iff] at hl ⊢
      exact Nat.le_trans (Nat.le_of_eq d.lineCount_withReturns) hl
    simp only [atPosition, hl, hl']
    exact ⟨d.chars,⟨rfl,(List.append_nil _).symm,d.size_eq⟩,⟨rfl,(List.append_nil _).symm,rfl⟩⟩
  | some l =>
    obtain ⟨front,hchars,_,hfirst,rfl⟩ := Document.exists_of_getElem?_lines hl
    have hl' := Document.getElem?_lines_withReturns hchars hfirst
    obtain ⟨returns,more,hcontent,htail,hfeed⟩ := l.exists_tail
    simp only [Document.lineText, hl] at h
    rw [h, List.append_assoc] at hcontent
    have hpre : '\n' ∉ pre := fun hmem => hfeed (by simp [hcontent, hmem])
    have hsplit : l.tail = pre ++ (post ++ returns ++ more) := by simp [htail, hcontent]
    have hsplit' : withReturns l.tail = pre ++ withReturns (post ++ returns ++ more) := by
      rw [hsplit, withReturns_append, withReturns_of_not_mem hpre]
    obtain ⟨before,hbefore,_,_,hat,_⟩ := at_atPosition hl hsplit hpre
    obtain ⟨before',hbefore',_,_,hat',_⟩ := at_atPosition hl' hsplit' hpre
    obtain rfl : before = front := List.append_cancel_right (hbefore.symm.trans hchars)
    obtain rfl : before' = withReturns before := by
      rw [Document.chars_withReturns, hchars, withReturns_append] at hbefore'
      exact (List.append_cancel_right hbefore').symm
    refine ⟨_,hat,?_⟩
    rw [withReturns_append, withReturns_of_not_mem hpre]
    exact hat'

end Cursor

/-! ### Readers -/

namespace Reader

variable {α β : Type} {d : Document} {c c' : Cursor}

/-- At aligned cursors a reader gives the same and leaves them aligned, or fails at both. -/
def Agrees (d : Document) (r : Reader α) : Prop :=
  ∀ c c', c.Aligned d c' →
    (∃ a e e', r.read c = (.ok a,e) ∧ r.read c' = (.ok a,e') ∧ e.Aligned d e') ∨
      ∃ x x' e e', r.read c = (.error x,e) ∧ r.read c' = (.error x',e')

theorem Agrees.bind {r : Reader α} {f : α → Reader β} (h : Agrees d r) (hf : ∀ a, Agrees d (f a)) :
    Agrees d (r >>= f) := by
  intro c c' hc
  rw [read_bind, read_bind]
  rcases h c c' hc with ⟨a,e,e',hr,hr',he⟩ | ⟨x,x',e,e',hr,hr'⟩
  · rw [hr, hr']
    exact hf a e e' he
  · rw [hr, hr']
    exact .inr ⟨x,x',e,e',rfl,rfl⟩

theorem agrees_pure (a : α) : Agrees d (pure a) :=
  fun c c' hc => .inl ⟨a,c,c',rfl,rfl,hc⟩

theorem agrees_total {f : Cursor → α × Cursor}
    (h : ∀ c c', c.Aligned d c' → (f c').1 = (f c).1 ∧ (f c).2.Aligned d (f c').2) :
    Agrees d (total f) := by
  intro c c' hc
  obtain ⟨hvalue,hnext⟩ := h c c' hc
  exact .inl ⟨(f c).1,(f c).2,(f c').2,rfl,by rw [← hvalue]; rfl,hnext⟩

theorem agrees_asks {f : Cursor → α} (h : ∀ c c', c.Aligned d c' → f c' = f c) :
    Agrees d (asks f) :=
  agrees_total fun c c' hc => ⟨h c c' hc,hc⟩

theorem agrees_fail (f : Cursor → Span) (fault : Fault) : Agrees d (fail (α := α) f fault) :=
  fun c c' _ => .inr ⟨_,_,c,c',rfl,rfl⟩

theorem Agrees.value {r : Reader α} (h : Agrees d r) (hc : c.Aligned d c') :
    (r.value c').toOption = (r.value c).toOption := by
  rcases h c c' hc with ⟨a,e,e',hr,hr',-⟩ | ⟨x,x',e,e',hr,hr'⟩
  · rw [Reader.value, Reader.value, hr, hr']
  · rw [Reader.value, Reader.value, hr, hr']
    rfl

theorem agrees_tokenUntil {separator : Char} (hseparator : HasNoLineEnd [separator]) :
    Agrees d (tokenUntil separator) := by
  intro c c' hc
  have hspace := hc.skipSpace
  obtain ⟨returns,hline,hreturns⟩ := line_withReturns c.skipSpace.rest
  have hcontains : (c'.skipSpace.rest.takeWhile (· ≠ '\n')).contains separator =
      (c.skipSpace.rest.takeWhile (· ≠ '\n')).contains separator := by
    have hnone : separator ∉ returns := by
      rcases hreturns with rfl | rfl
      · exact List.not_mem_nil
      · exact fun hmem => hseparator.2 (List.mem_singleton.mp hmem ▸ List.mem_singleton_self _)
    rw [hspace.rest, hline, Bool.eq_iff_iff, List.contains_iff_mem, List.contains_iff_mem, List.mem_append,
      or_iff_left hnone]
  simp only [tokenUntil, read_of, hcontains]
  split
  · next hmem =>
    obtain ⟨xs,ys,hrest,hnone,hinline⟩ := exists_of_mem_line (List.contains_iff_mem.mp hmem)
    have hfeed : '\n' ∉ xs ++ [separator] := by simpa [hinline] using hseparator.1
    have hsplit : c.skipSpace.rest = (xs ++ [separator]) ++ ys := by simpa using hrest
    have hrest' : c'.skipSpace.rest = xs ++ separator :: withReturns ys := by
      simpa using hspace.rest_inline hsplit hfeed
    have hnext := hspace.advance_inline hsplit hfeed
    rw [List.length_append, List.length_singleton] at hnext
    rw [Cursor.run_of_not_mem hrest hnone, Cursor.run_of_not_mem hrest' hnone,
      hspace.token_inline hrest hinline]
    exact .inl ⟨_,_,_,rfl,rfl,hnext⟩
  · exact .inr ⟨_,_,_,_,rfl,rfl⟩

end Reader

section Readers

variable {d : Document}

open Reader

theorem Element.agrees_reader (d : Document) : Agrees d Element.reader := by
  intro c c' hc
  simp only [Element.reader, read_of]
  cases hrest : c.rest with
  | nil =>
    rw [hc.rest, hrest]
    exact .inr ⟨_,_,_,_,rfl,rfl⟩
  | cons code cs =>
    by_cases hcode : code = '\n'
    · have hrest' : c'.rest = '\r' :: '\n' :: withReturns cs := by rw [hc.rest, hrest, hcode]; rfl
      rw [hrest', hcode]
      exact .inr ⟨_,_,_,_,rfl,rfl⟩
    · have hsplit : c.rest = [code] ++ cs := hrest
      have hinline : '\n' ∉ [code] := by simpa using Ne.symm hcode
      rw [hc.rest, hrest, withReturns_cons hcode]
      dsimp only
      split
      · have hspan := hc.spanTo (hc.advance_inline hsplit hinline)
        rw [List.length_singleton] at hspan
        rw [hspan]
        exact .inl ⟨_,_,_,rfl,rfl,hc.advance_inline hsplit hinline⟩
      · split
        · obtain ⟨hrun,hname⟩ := hc.run_then (p := fun x => x != ';' && !isSpace x) rfl rfl
            (show HasNoLineEnd [';'] by decide)
          rw [hrun, ← withReturns_cons hcode, ← hrest, ← hc.rest]
          rcases hname with ⟨hhead,hhead',htake,hnext⟩ | ⟨hhead,hhead'⟩
          · rw [if_pos hhead, if_pos hhead', htake, hc.spanTo hnext]
            split
            · exact .inl ⟨_,_,_,rfl,rfl,hnext⟩
            · exact .inr ⟨_,_,_,_,rfl,rfl⟩
          · rw [if_neg hhead, if_neg hhead']
            exact .inr ⟨_,_,_,_,rfl,rfl⟩
        · exact .inr ⟨_,_,_,_,rfl,rfl⟩

theorem Descriptor.agrees_reader (d : Document) : Agrees d Descriptor.reader := by
  intro c c' hc
  obtain ⟨xs,ys,hrest,hinline,hrun,hrun'⟩ := hc.skipSpace.exists_run (p := (· = '[')) rfl rfl
  have hspace := hc.skipSpace
  simp only [Descriptor.reader, read_of, hrun, hrun']
  rcases Element.agrees_reader d _ _ (hspace.advance_inline hrest hinline) with
    ⟨a,e,e',hr,hr',he⟩ | ⟨x,x',e,e',hr,hr'⟩
  · rw [hr, hr']
    dsimp only
    rw [hspace.spanTo he]
    exact .inl ⟨_,_,_,rfl,rfl,he⟩
  · rw [hr, hr']
    exact .inr ⟨_,_,_,_,rfl,rfl⟩

theorem Modifier.aligned_readUpTo (fuel : Nat) {c c' : Cursor} (h : c.Aligned d c') :
    (readUpTo fuel c').1 = (readUpTo fuel c).1 ∧
      (readUpTo fuel c).2.Aligned d (readUpTo fuel c').2 := by
  induction fuel generalizing c c' with
  | zero => exact ⟨rfl,h⟩
  | succ fuel ih =>
    obtain ⟨htoken,hnext⟩ := h.readToken
    simp only [readUpTo, htoken]
    split
    · obtain ⟨hms,hlast⟩ := ih hnext
      exact ⟨by rw [hms],hlast⟩
    · exact ⟨rfl,h⟩

theorem Modifier.aligned_readAll {c c' : Cursor} (h : c.Aligned d c') :
    (readAll c').1 = (readAll c).1 ∧ (readAll c).2.Aligned d (readAll c').2 := by
  rw [readAll, readAll, readUpTo_fuel (Nat.le_refl _) h.length_le]
  exact aligned_readUpTo _ h

theorem Descriptor.agrees_readParametersUpTo (d : Document) (fuel : Nat) :
    Agrees d (.of (readParametersUpTo fuel)) := by
  induction fuel with
  | zero => exact fun c c' _ => .inr ⟨_,_,_,_,rfl,rfl⟩
  | succ fuel ih =>
    intro c c' hc
    have hspace := hc.skipInlineSpace
    simp only [read_of, readParametersUpTo]
    cases hrest : c.skipInlineSpace.rest with
    | nil =>
      rw [hspace.rest, hrest]
      exact .inr ⟨_,_,_,_,rfl,rfl⟩
    | cons x xs =>
      by_cases hx : x = '\n'
      · have hrest' : c'.skipInlineSpace.rest = '\r' :: '\n' :: withReturns xs := by
          rw [hspace.rest, hrest, hx]
          rfl
        rw [hrest', hx]
        exact .inr ⟨_,_,_,_,rfl,rfl⟩
      · have hinline : '\n' ∉ [x] := by simpa using Ne.symm hx
        rw [hspace.rest, hrest, withReturns_cons hx]
        dsimp only
        split
        · have hsplit : c.skipInlineSpace.rest = [x] ++ xs := hrest
          exact .inl ⟨_,_,_,rfl,rfl,hspace.advance_inline hsplit hinline⟩
        · split
          · exact .inr ⟨_,_,_,_,rfl,rfl⟩
          · rcases Descriptor.agrees_reader d _ _ hspace with ⟨t,e,e',hr,hr',he⟩ | ⟨y,y',e,e',hr,hr'⟩
            · rw [hr, hr']
              dsimp only
              rcases ih e e' he with ⟨ts,f,f',hs,hs',hf⟩ | ⟨y,y',f,f',hs,hs'⟩
              · rw [read_of] at hs hs'
                rw [hs, hs']
                exact .inl ⟨_,_,_,rfl,rfl,hf⟩
              · rw [read_of] at hs hs'
                rw [hs, hs']
                exact .inr ⟨_,_,_,_,rfl,rfl⟩
            · rw [hr, hr']
              exact .inr ⟨_,_,_,_,rfl,rfl⟩

theorem Descriptor.agrees_parametersReader (d : Document) : Agrees d parametersReader := by
  intro c c' hc
  have hfuel := readParametersUpTo_fuel (Nat.lt_succ_self _) (Nat.lt_succ_of_le hc.length_le)
  simpa only [parametersReader, read_of, hfuel] using agrees_readParametersUpTo d _ c c' hc

/-! ### Members -/

theorem agrees_lineSpan (d : Document) : Agrees d (asks fun c => c.document.lineSpan c.line) :=
  agrees_asks fun _ _ hc => hc.lineSpan

theorem Modifier.agrees_readAll (d : Document) : Agrees d (total readAll) :=
  agrees_total fun _ _ => aligned_readAll

theorem agrees_position (d : Document) : Agrees d (asks Cursor.position) :=
  agrees_asks fun _ _ hc => hc.position

theorem Field.agrees_reader (d : Document) : Agrees d Field.reader := by
  refine (agrees_lineSpan d).bind fun span => (Modifier.agrees_readAll d).bind fun modifiers =>
    (agrees_tokenUntil (by decide)).bind fun name => (Descriptor.agrees_reader d).bind fun type =>
      (agrees_total fun c c' hc => ?_).bind fun initial? => agrees_pure _
  rcases hc.expectOnLine? (show HasNoLineEnd "=".toList by decide) with ⟨hn,hn'⟩ | ⟨e,e',he,he',hafter⟩
  · rw [hn, hn']
    exact ⟨rfl,hc⟩
  · obtain ⟨hvalue,hlast⟩ := hafter.readRestOfLine
    rw [he, he']
    dsimp only
    rw [hvalue]
    exact ⟨rfl,hlast⟩

theorem Method.agrees_reader (d : Document) : Agrees d Method.reader :=
  (agrees_lineSpan d).bind fun _ => (Modifier.agrees_readAll d).bind fun _ =>
    (agrees_tokenUntil (by decide)).bind fun _ => (Descriptor.agrees_parametersReader d).bind fun _ =>
      (Descriptor.agrees_reader d).bind fun _ => agrees_pure _

theorem agrees_ownerReader (d : Document) : Agrees d ownerReader := by
  refine (Descriptor.agrees_reader d).bind fun owner => ?_
  split
  · exact agrees_fail _ _
  · intro c c' hc
    rw [read_of, read_of]
    rcases hc.expect? (show HasNoLineEnd "->".toList by decide) with ⟨hn,hn'⟩ | ⟨e,e',he,he',hafter⟩
    · rw [hn, hn']
      exact .inr ⟨_,_,_,_,rfl,rfl⟩
    · rw [he, he']
      exact .inl ⟨_,_,_,rfl,rfl,hafter⟩

theorem FieldReference.agrees_reader (d : Document) : Agrees d FieldReference.reader :=
  (agrees_position d).bind fun _ => (agrees_ownerReader d).bind fun _ =>
    (agrees_tokenUntil (by decide)).bind fun _ => (Descriptor.agrees_reader d).bind fun _ =>
      (agrees_position d).bind fun _ => agrees_pure _

theorem MethodReference.agrees_reader (d : Document) : Agrees d MethodReference.reader :=
  (agrees_position d).bind fun _ => (agrees_ownerReader d).bind fun _ =>
    (agrees_tokenUntil (by decide)).bind fun _ => (Descriptor.agrees_parametersReader d).bind fun _ =>
      (Descriptor.agrees_reader d).bind fun _ => (agrees_position d).bind fun _ => agrees_pure _

end Readers

end SmaliNavigator
