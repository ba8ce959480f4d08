import SmaliNavigator.Descriptor.Reader
import SmaliNavigator.Proofs.Text.Lines
import SmaliNavigator.Proofs.Text.Runs

/-!
Where a cursor is: behind a first part of its document. Every reader leaves it there or further on,
and what it takes up is the text between the two places.

A reader is specified by a triple: what is known of the cursor in front of it, and what it gives and
leaves when it does not fail.
-/

set_option autoImplicit false

namespace SmaliNavigator

open Text

theorem not_isInlineSpace_of_not_isSpace {c : Char} (h : isSpace c = false) :
    isInlineSpace c = false := by
  simp only [isSpace, isInlineSpace, Bool.or_eq_false_iff] at h ⊢
  simp [h]

namespace Cursor

variable {d : Document} {c c' c'' : Cursor}

/-- The cursor is in a document behind a first part of it. -/
structure At (d : Document) (before : List Char) (c : Cursor) : Prop where
  document : c.document = d
  chars : d.chars = before ++ c.rest
  offset : c.offset = byteCount before

/-- The cursor is in a document between two of its characters. -/
def On (d : Document) (c : Cursor) : Prop := ∃ before, c.At d before

theorem at_start (d : Document) : (start d).At d [] := ⟨rfl,rfl,rfl⟩

theorem On.document (h : c.On d) : c.document = d := by
  obtain ⟨_,hb⟩ := h
  exact hb.document

theorem At.eq {before : List Char} (h : c.At d before) (h' : c'.At d before) : c = c' := by
  cases c
  cases c'
  have hrest := List.append_cancel_left (h.chars.symm.trans h'.chars)
  have hoffset := h.offset.trans h'.offset.symm
  have hdocument := h.document.trans h'.document.symm
  simp_all

theorem At.advance {before : List Char} (h : c.At d before) (n : Nat) :
    (c.advance n).At d (before ++ c.rest.take n) where
  document := h.document
  chars := by rw [h.chars, rest_advance, List.append_assoc, List.take_append_drop]
  offset := by
    change c.offset + byteCount (c.rest.take n) = _
    rw [h.offset, byteCount_append]

/-! ### Movements -/

theorem literal?_eq_some {literal : String} (h : c.literal? literal = some c') :
    ∃ r, c.rest = literal.toList ++ r ∧ c' = c.advance literal.toList.length := by
  unfold literal? at h
  split at h
  · next hp =>
    obtain ⟨r,hr⟩ := List.isPrefixOf_iff_prefix.mp hp
    cases h
    exact ⟨r,hr.symm,rfl⟩
  · cases h

/-- The second cursor is the first one moved. -/
def Reaches (c c' : Cursor) : Prop := ∃ n, c' = c.advance n

namespace Reaches

theorem refl (c : Cursor) : c.Reaches c := ⟨0,c.advance_zero.symm⟩

theorem trans (h : c.Reaches c') (h' : c'.Reaches c'') : c.Reaches c'' := by
  obtain ⟨m,rfl⟩ := h
  obtain ⟨n,rfl⟩ := h'
  exact ⟨m + n,advance_advance c m n⟩

theorem advance (c : Cursor) (n : Nat) : c.Reaches (c.advance n) := ⟨n,rfl⟩

theorem skipSpace (c : Cursor) : c.Reaches c.skipSpace := advance c _

theorem skipInlineSpace (c : Cursor) : c.Reaches c.skipInlineSpace := advance c _

theorem skipLine (c : Cursor) : c.Reaches c.skipLine := advance c _

theorem readToken (c : Cursor) : c.Reaches c.readToken.2 := (skipSpace c).trans (advance _ _)

theorem readRestOfLine (c : Cursor) : c.Reaches c.readRestOfLine.2 :=
  (skipInlineSpace c).trans (advance _ _)

theorem literal? {literal : String} (h : c.literal? literal = some c') : c.Reaches c' := by
  obtain ⟨_,_,rfl⟩ := literal?_eq_some h
  exact advance c _

theorem expect? {literal : String} (h : c.expect? literal = some c') : c.Reaches c' :=
  (skipSpace c).trans (Reaches.literal? h)

theorem expectOnLine? {literal : String} (h : c.expectOnLine? literal = some c') :
    c.Reaches c' :=
  (skipInlineSpace c).trans (Reaches.literal? h)

theorem offset_le (h : c.Reaches c') : c.offset ≤ c'.offset := by
  obtain ⟨n,rfl⟩ := h
  exact Nat.le_add_right _ _

end Reaches

theorem On.reaches (h : c.On d) (hr : c.Reaches c') : c'.On d := by
  obtain ⟨before,hb⟩ := h
  obtain ⟨n,rfl⟩ := hr
  exact ⟨_,hb.advance n⟩

theorem exists_run (c : Cursor) (p : Char → Bool) :
    ∃ xs ys, c.rest = xs ++ ys ∧ c.run p = xs.length ∧ (∀ x ∈ xs, p x = true) ∧ Stops p ys :=
  ⟨c.rest.takeWhile p,c.rest.dropWhile p,List.takeWhile_append_dropWhile.symm,rfl,
    fun _ hx => of_mem_takeWhile hx,stops_dropWhile p c.rest⟩

/-! ### Movements over texts -/

section Texts

variable {p : Char → Bool} {xs ys : List Char}

theorem rest_advance_length (h : c.rest = xs ++ ys) : (c.advance xs.length).rest = ys := by
  simp [h]

theorem advance_append (c : Cursor) (xs ys : List Char) :
    (c.advance xs.length).advance ys.length = c.advance (xs ++ ys).length := by
  rw [advance_advance, List.length_append]

theorem take_length_rest (h : c.rest = xs ++ ys) : c.rest.take xs.length = xs := by
  simp [h]

theorem run_of_stops (h : c.rest = xs ++ ys) (hx : ∀ x ∈ xs, p x = true) (hy : Stops p ys) :
    c.run p = xs.length := by
  rw [run, h, takeWhile_append_stops hx hy]

theorem run_of_not_mem {x : Char} (h : c.rest = xs ++ x :: ys) (hx : x ∉ xs) :
    c.run (· ≠ x) = xs.length :=
  run_of_stops h (fun y hy => by simpa using fun heq : y = x => hx (heq ▸ hy))
    (stops_cons.mpr (by simp))

theorem skipWhile_of_stops (h : Stops p c.rest) : c.skipWhile p = c := by
  have hrun : c.run p = ([] : List Char).length := run_of_stops rfl (by simp) h
  rw [skipWhile, hrun, List.length_nil, advance_zero]

theorem skipSpace_of_stops (h : Stops isSpace c.rest) : c.skipSpace = c := skipWhile_of_stops h

theorem skipInlineSpace_of_stops (h : Stops isSpace c.rest) : c.skipInlineSpace = c :=
  skipWhile_of_stops fun x hx => not_isInlineSpace_of_not_isSpace (h x hx)

theorem literal?_of_rest {literal : String} {r : List Char} (h : c.rest = literal.toList ++ r) :
    c.literal? literal = some (c.advance literal.toList.length) := by
  rw [literal?, if_pos]
  rw [h, List.isPrefixOf_iff_prefix]
  exact List.prefix_append _ _

theorem expect?_of_rest {literal : String} {r : List Char} (h : c.rest = literal.toList ++ r)
    (hs : Stops isSpace c.rest) :
    c.expect? literal = some (c.advance literal.toList.length) := by
  rw [expect?, skipSpace_of_stops hs, literal?_of_rest h]

theorem skipLine_of_rest (h : c.rest = xs ++ '\n' :: ys) (hx : '\n' ∉ xs) :
    c.skipLine = c.advance (xs ++ ['\n']).length := by
  rw [skipLine, run_of_not_mem h hx, List.length_append]
  rfl

theorem rest_skipLine (h : c.rest = xs ++ '\n' :: ys) (hx : '\n' ∉ xs) : c.skipLine.rest = ys := by
  rw [skipLine_of_rest h hx]
  exact rest_advance_length (by simpa using h)

end Texts

/-! ### Positions -/

theorem At.spanTo_advance {before : List Char} (h : c.At d before) (n : Nat) :
    c.spanTo (c.advance n) =
      d.spanOf (byteCount before) (byteCount (before ++ c.rest.take n)) := by
  have ha := h.advance n
  simp [spanTo, position, Document.spanOf, h.document, h.offset, ha.offset]

/-- The cursor at a column of a line, where the column is that of a first part of the line. -/
theorem at_atPosition {line : Nat} {l : Line} {xs ys : List Char} (hl : d.lines[line]? = some l)
    (ht : l.tail = xs ++ ys) (hx : '\n' ∉ xs) :
    ∃ before, d.chars = before ++ l.tail ∧ (before = [] ∨ before.getLast? = some '\n') ∧
      l.start = byteCount before ∧ (atPosition d ⟨line,byteCount xs⟩).At d (before ++ xs) ∧
      (atPosition d ⟨line,byteCount xs⟩).rest = ys := by
  have hmem : l ∈ Line.table d.chars := by
    rw [← d.lines_eq]
    exact List.mem_of_getElem? hl
  obtain ⟨before,hchars,hstart,hfirst⟩ := Line.mem_table hmem
  have hline : ∀ c ∈ xs, decide (c ≠ '\n') = true := by
    intro c hc
    simpa using fun h : c = '\n' => hx (h ▸ hc)
  have hcontent : byteCount xs ≤ byteCount l.content := by
    unfold Line.content
    rw [ht, List.takeWhile_append_of_pos hline, byteCount_append]
    omega
  have heq : atPosition d ⟨line,byteCount xs⟩ = ⟨d,l.start + byteCount xs,ys⟩ := by
    simp [atPosition, hl, Nat.min_eq_left hcontent, ht, dropBytes_byteCount]
  refine ⟨before,hchars,hfirst,hstart,?_,by rw [heq]⟩
  rw [heq]
  exact ⟨rfl,by simp [hchars, ht],by simp [hstart]⟩

theorem At.atPosition_position {before : List Char} (h : c.At d before) :
    atPosition d c.position = c := by
  obtain ⟨l,front,x,hl,rfl,_,htail,hfeed,hpos⟩ := Document.exists_front h.chars
  obtain ⟨front',hchars,_,_,hat,_⟩ := at_atPosition hl htail hfeed
  obtain rfl : front' = front := by
    have hboth := hchars.symm.trans h.chars
    rw [htail, List.append_assoc] at hboth
    exact List.append_cancel_right hboth
  have hposition : c.position = ⟨d.lineOf (byteCount (front' ++ x)),byteCount x⟩ := by
    rw [position, h.document, h.offset, hpos]
  rw [hposition]
  exact hat.eq h

theorem position_atPosition {line : Nat} {l : Line} {xs ys : List Char}
    (hl : d.lines[line]? = some l) (ht : l.tail = xs ++ ys) (hx : '\n' ∉ xs) :
    (atPosition d ⟨line,byteCount xs⟩).position = ⟨line,byteCount xs⟩ := by
  obtain ⟨before,hchars,_,hstart,hat,_⟩ := at_atPosition hl ht hx
  rw [ht] at hchars
  rw [position, hat.document, hat.offset, Document.positionAt_append hchars hx, ← hstart,
    Document.positionAt_start hl, Position.right, Nat.zero_add]

theorem At.position_advance {before xs ys : List Char} (h : c.At d before)
    (hrest : c.rest = xs ++ ys) (hx : '\n' ∉ xs) :
    (c.advance xs.length).position = c.position.right (byteCount xs) := by
  have hafter := h.advance xs.length
  have hchars := h.chars
  rw [take_length_rest hrest] at hafter
  rw [hrest] at hchars
  rw [position, position, hafter.document, h.document, hafter.offset, h.offset,
    Document.positionAt_append hchars hx]

theorem On.position_mono (h : c.On d) (hr : c.Reaches c') : c.position ≤ c'.position := by
  rw [position, position, h.document, (h.reaches hr).document]
  exact d.positionAt_le hr.offset_le

theorem On.position_le (h : c.On d) : c.position ≤ d.positionAt d.size := by
  rw [position, h.document]
  exact d.positionAt_le_end _

theorem At.line_eq {before : List Char} (h : c.At d before) :
    c.line = d.lineOf (byteCount before) := by
  rw [line, position, h.document, h.offset, Document.positionAt,
    Nat.min_eq_left (Document.byteCount_le_size h.chars)]

/-! ### Lines -/

/-- The second cursor is the first one moved, and no line feed is passed. -/
def Inline (c c' : Cursor) : Prop :=
  ∃ u, c.rest = u ++ c'.rest ∧ '\n' ∉ u ∧ c' = c.advance u.length

namespace Inline

theorem reaches (h : c.Inline c') : c.Reaches c' := by
  obtain ⟨u,_,_,rfl⟩ := h
  exact .advance c _

theorem trans (h : c.Inline c') (h' : c'.Inline c'') : c.Inline c'' := by
  obtain ⟨u,hu,hfeed,rfl⟩ := h
  obtain ⟨v,hv,hfeed',rfl⟩ := h'
  refine ⟨u ++ v,by rw [hu, hv, List.append_assoc],by simp [hfeed, hfeed'],?_⟩
  rw [advance_advance, List.length_append]

theorem of_rest {u r : List Char} (h : c.rest = u ++ r) (hu : '\n' ∉ u) :
    c.Inline (c.advance u.length) :=
  ⟨u,by simp [h],hu,rfl⟩

theorem advance {n : Nat} (h : n ≤ c.run (· ≠ '\n')) : c.Inline (c.advance n) := by
  obtain ⟨xs,ys,hrest,hrun,hall,_⟩ := c.exists_run (· ≠ '\n')
  rw [hrun] at h
  refine ⟨xs.take n,?_,fun hmem => by simpa using hall '\n' (List.mem_of_mem_take hmem),?_⟩
  · rw [rest_advance, hrest, List.drop_append_of_le_length h, ← List.append_assoc,
      List.take_append_drop]
  · rw [List.length_take, Nat.min_eq_left h]

theorem run_feed (h : c.Inline c') :
    ∃ u : List Char, c' = c.advance u.length ∧
      c.run (· ≠ '\n') = u.length + c'.run (· ≠ '\n') := by
  obtain ⟨u,hrest,hu,hc⟩ := h
  have hline : ∀ x ∈ u, decide (x ≠ '\n') = true := by
    intro x hx
    simpa using fun h : x = '\n' => hu (h ▸ hx)
  refine ⟨u,hc,?_⟩
  rw [run, run, hrest, List.takeWhile_append_of_pos hline, List.length_append]

theorem skipLine_eq (h : c.Inline c') : c'.skipLine = c.skipLine := by
  obtain ⟨u,rfl,hrun⟩ := h.run_feed
  rw [skipLine, skipLine, hrun, advance_advance, Nat.add_assoc]

theorem offset_le_skipLine (h : c.Inline c') : c'.offset ≤ c.skipLine.offset := by
  rw [← h.skipLine_eq]
  exact (Reaches.skipLine c').offset_le

end Inline

theorem inline_skipInlineSpace (c : Cursor) : c.Inline c.skipInlineSpace := by
  obtain ⟨xs,ys,hrest,hrun,hall,_⟩ := c.exists_run isInlineSpace
  rw [skipInlineSpace, skipWhile, hrun]
  exact .of_rest hrest fun hfeed => absurd (hall '\n' hfeed) (by decide)

theorem stops_skipSpace (c : Cursor) : Stops isSpace c.skipSpace.rest := by
  obtain ⟨xs,ys,hrest,hrun,_,hstops⟩ := c.exists_run isSpace
  rw [skipSpace, skipWhile, hrun, rest_advance_length hrest]
  exact hstops

theorem skipSpace_skipSpace (c : Cursor) : c.skipSpace.skipSpace = c.skipSpace :=
  skipSpace_of_stops c.stops_skipSpace

theorem skipSpace_advance {xs ys : List Char} (h : c.rest = xs ++ ys)
    (hx : ∀ x ∈ xs, isSpace x = true) : (c.advance xs.length).skipSpace = c.skipSpace := by
  have hrun : c.run isSpace = xs.length + (c.advance xs.length).run isSpace := by
    rw [run, run, h, rest_advance_length h, List.takeWhile_append_of_pos hx, List.length_append]
  rw [skipSpace, skipWhile, skipSpace, skipWhile, hrun, advance_advance]

theorem skipSpace_cases (c : Cursor) :
    c.Inline c.skipSpace ∨ c.skipSpace = c.skipLine.skipSpace := by
  obtain ⟨xs,ys,hrest,hrun,hall,_⟩ := c.exists_run isSpace
  by_cases hfeed : '\n' ∈ xs
  · obtain ⟨u,v,rfl,hu⟩ := List.eq_append_cons_of_mem hfeed
    have hnext : c.rest = (u ++ ['\n']) ++ (v ++ ys) := by simpa using hrest
    refine .inr ?_
    rw [skipLine_of_rest (by simpa using hnext) hu, skipSpace_advance hnext]
    intro x hx
    refine hall x ?_
    rcases List.mem_append.mp hx with hx | hx
    · exact List.mem_append_left _ hx
    · simp [List.mem_singleton.mp hx]
  · rw [skipSpace, skipWhile, hrun]
    exact .inl (.of_rest hrest hfeed)

/-- A line starts here, or nothing is left. -/
def OpensLine (d : Document) (c : Cursor) : Prop :=
  c.rest ≠ [] → ∃ before, c.At d before ∧ (before = [] ∨ before.getLast? = some '\n')

theorem On.opensLine_skipLine (h : c.On d) : c.skipLine.OpensLine d := by
  obtain ⟨before,hb⟩ := h
  obtain ⟨xs,ys,hrest,hrun,hall,hstops⟩ := c.exists_run (· ≠ '\n')
  intro hne
  cases ys with
  | nil =>
    refine absurd ?_ hne
    rw [skipLine, rest_advance, hrun, List.drop_eq_nil_of_le (by simp [hrest])]
  | cons y ys =>
    obtain rfl : y = '\n' := by simpa using stops_cons.mp hstops
    have hfeed : '\n' ∉ xs := fun hx => by simpa using hall '\n' hx
    have htake : c.rest.take (xs ++ ['\n']).length = xs ++ ['\n'] :=
      take_length_rest (by simpa using hrest)
    rw [skipLine_of_rest hrest hfeed]
    refine ⟨_,hb.advance _,.inr ?_⟩
    rw [htake, ← List.append_assoc, List.getLast?_concat]

theorem OpensLine.offset_le_lineStart (h : c.OpensLine d) (hc : c.On d) (hr : c.Reaches c')
    (hne : c'.rest ≠ []) : c.offset ≤ d.lineStart c'.line := by
  have hrest : c.rest ≠ [] := by
    rintro hnil
    obtain ⟨n,rfl⟩ := hr
    exact hne (by simp [hnil])
  obtain ⟨before,hb,hfirst⟩ := h hrest
  obtain ⟨before',hb'⟩ := hc.reaches hr
  have hle := hr.offset_le
  rw [hb.offset, hb'.offset] at hle
  rw [hb.offset, hb'.line_eq]
  exact Document.le_lineStart hb.chars hfirst hle

theorem On.lineStart_le (h : c.On d) : d.lineStart c.line ≤ c.offset := by
  obtain ⟨before,hb⟩ := h
  rw [hb.line_eq, hb.offset]
  exact d.lineStart_le _

theorem On.lineStop_le (h : c.On d) : d.lineStop c.line ≤ c.skipLine.offset := by
  obtain ⟨before,hb⟩ := h
  obtain ⟨l,front,x,hl,rfl,hstart,htail,hfeed,_⟩ := Document.exists_front hb.chars
  have hline : ∀ y ∈ x, decide (y ≠ '\n') = true := by
    intro y hy
    simpa using fun h : y = '\n' => hfeed (h ▸ hy)
  have hstop : d.lineStop c.line = c.offset + byteCount (c.rest.takeWhile (· ≠ '\n')) := by
    have hl' : d.lineStop c.line = l.stop := by
      rw [hb.line_eq, Document.lineStop, hl]
    rw [hl', hb.offset, Line.stop, Line.content, htail, List.takeWhile_append_of_pos hline,
      hstart, byteCount_append, byteCount_append, Nat.add_assoc]
  rw [hstop, skipLine, ← advance_advance]
  refine Nat.le_trans (Nat.le_of_eq ?_) (Reaches.advance _ 1).offset_le
  have htake : c.rest.take (c.run (· ≠ '\n')) = c.rest.takeWhile (· ≠ '\n') :=
    take_length_rest List.takeWhile_append_dropWhile.symm
  rw [← htake]
  rfl

end Cursor

theorem Modifier.reaches_readUpTo {c : Cursor} (fuel : Nat) :
    c.Reaches (readUpTo fuel c).2 := by
  induction fuel generalizing c with
  | zero => exact .refl c
  | succ fuel ih =>
    unfold readUpTo
    dsimp only
    split
    · exact (Cursor.Reaches.readToken c).trans ih
    · exact .refl c

theorem Modifier.reaches_readAll (c : Cursor) : c.Reaches (readAll c).2 :=
  reaches_readUpTo _

/-! ### Triples -/

namespace Reader

variable {α β : Type} {before : Cursor → Prop} {after : α → Cursor → Prop}
  {final : β → Cursor → Prop}

theorem read_of_value {r : Reader α} {c : Cursor} {a : α} (h : r.value c = .ok a) :
    r.read c = (.ok a,(r.read c).2) :=
  Prod.ext h rfl

/-- Where the first condition is met and the reader does not fail, the second one is met. -/
def Triple (before : Cursor → Prop) (r : Reader α) (after : α → Cursor → Prop) : Prop :=
  ∀ c a c', before c → r.read c = (.ok a,c') → after a c'

theorem Triple.bind {r : Reader α} {f : α → Reader β} (h : Triple before r after)
    (hf : ∀ a, Triple (after a) (f a) final) : Triple before (r >>= f) final := by
  intro c b c' hc hread
  rw [read_bind] at hread
  split at hread
  · next a mid hmid => exact hf a mid b c' (h c a mid hc hmid) hread
  · cases hread

theorem triple_pure {a : α} (h : ∀ c, before c → after a c) : Triple before (pure a) after := by
  intro c b c' hc hread
  cases hread
  exact h c hc

theorem triple_total {f : Cursor → α × Cursor} (h : ∀ c, before c → after (f c).1 (f c).2) :
    Triple before (total f) after := by
  intro c a c' hc hread
  cases hread
  exact h c hc

theorem triple_asks (f : Cursor → α) : Triple before (asks f) fun _ => before :=
  triple_total fun _ hc => hc

theorem triple_fail (f : Cursor → Span) (fault : Fault) : Triple before (fail f fault) after := by
  intro c a c' hc hread
  cases hread

theorem triple_keeps {r : Reader α} {p : Prop} : Triple (fun _ => p) r fun _ _ => p :=
  fun _ _ _ h _ => h

theorem reaches_of_tokenUntil {separator : Char} {c c' : Cursor} {t : Token}
    (h : (tokenUntil separator).read c = (.ok t,c')) : c.Reaches c' := by
  simp only [tokenUntil, read_of] at h
  split at h
  · cases h
    exact (Cursor.Reaches.skipSpace c).trans (.advance _ _)
  · cases h

end Reader

end SmaliNavigator
