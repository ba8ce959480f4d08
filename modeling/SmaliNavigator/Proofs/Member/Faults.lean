import SmaliNavigator.Proofs.Class.Fuel

/-!
What the readers of types and members fail with. The text is malformed, and the fault is at a place of
the document that the reader has come to. A reader that does not fail stays in the document, so that
the same is so of readers one behind the other.
-/

set_option autoImplicit false

namespace SmaliNavigator

open Text

/-- A span starts at a place of a document and does not end in front of it. -/
structure Span.StartsIn (d : Document) (s : Span) : Prop where
  start : ∃ before rest, d.chars = before ++ rest ∧ s.start = d.positionAt (byteCount before)
  ordered : s.start ≤ s.stop

/-- The text is to blame for a fault, at a place of the document. -/
structure Diagnostic.IsMalformed (d : Document) (x : Diagnostic) : Prop where
  kind : x.kind = .malformed
  span : x.span.StartsIn d

variable {d : Document} {c c' : Cursor} {x : Diagnostic}

theorem Cursor.On.startsIn (h : c.On d) {stop : Position} (hle : c.position ≤ stop) :
    Span.StartsIn d ⟨c.position,stop⟩ := by
  obtain ⟨before,hb⟩ := h
  exact ⟨⟨before,c.rest,hb.chars,by rw [Cursor.position, hb.document, hb.offset]⟩,hle⟩

theorem Cursor.On.startsIn_spanTo (h : c.On d) (hr : c.Reaches c') : (c.spanTo c').StartsIn d :=
  h.startsIn (h.position_mono hr)

theorem Cursor.On.startsIn_point (h : c.On d) : (Span.point c.position).StartsIn d :=
  h.startsIn (Position.le_refl _)

theorem Cursor.On.startsIn_line (h : c.On d) {stop : Position} (hle : c.position ≤ stop) :
    Span.StartsIn d ⟨⟨c.line,0⟩,stop⟩ := by
  have hline : (⟨c.line,0⟩ : Position) ≤ c.position := .inr ⟨rfl,Nat.zero_le _⟩
  refine ⟨?_,Position.le_trans hline hle⟩
  obtain ⟨before,hb⟩ := h
  obtain ⟨l,front,x,hl,rfl,hstart,-⟩ := Document.exists_front hb.chars
  have hchars := hb.chars
  rw [List.append_assoc] at hchars
  exact ⟨front,_,hchars,by rw [hb.line_eq, ← hstart, Document.positionAt_start hl]⟩

/-! ### Readers -/

namespace Reader

variable {α β : Type} {r : Reader α}

/-- From a place of a document a reader goes on to another one, or it fails with a malformed text. -/
structure Sound (d : Document) (r : Reader α) : Prop where
  on : Triple (Cursor.On d) r fun _ => Cursor.On d
  isMalformed : ∀ c c' x, c.On d → r.read c = (.error x,c') → x.IsMalformed d

theorem Sound.bind {f : α → Reader β} (hr : r.Sound d) (hf : ∀ a, (f a).Sound d) :
    (r >>= f).Sound d where
  on := hr.on.bind fun a => (hf a).on
  isMalformed := by
    intro c c' x hc hread
    rw [read_bind] at hread
    split at hread
    · next a mid hmid => exact (hf a).isMalformed mid c' x (hr.on c a mid hc hmid) hread
    · next e mid hmid =>
      cases hread
      exact hr.isMalformed c _ x hc hmid

theorem sound_total {f : Cursor → α × Cursor} (h : ∀ c : Cursor, c.Reaches (f c).2) :
    (total f).Sound d where
  on := triple_total fun c hc => hc.reaches (h c)
  isMalformed _ _ _ _ hread := by cases hread

theorem sound_asks (f : Cursor → α) : (asks f).Sound d := sound_total fun c => .refl c

theorem sound_pure (a : α) : (pure a : Reader α).Sound d where
  on := triple_pure fun _ hc => hc
  isMalformed _ _ _ _ hread := by cases hread

theorem sound_tokenUntil (separator : Char) : (tokenUntil separator).Sound d where
  on _ _ _ hc hread := hc.reaches (reaches_of_tokenUntil hread)
  isMalformed := by
    intro c c' x hc hread
    simp only [tokenUntil, read_of] at hread
    split at hread
    · cases hread
    · cases hread
      exact ⟨rfl,(hc.reaches (.skipSpace c)).startsIn_spanTo (.advance _ _)⟩

end Reader

theorem Element.isMalformed_of_read (hc : c.On d) (h : Element.reader.read c = (.error x,c')) :
    x.IsMalformed d := by
  simp only [Element.reader, Reader.read_of] at h
  split at h
  · cases h
    exact ⟨rfl,hc.startsIn_point⟩
  · split at h
    · cases h
    · split at h
      · split at h
        · split at h
          · cases h
          · cases h
            exact ⟨rfl,hc.startsIn_spanTo (.advance _ _)⟩
        · cases h
          exact ⟨rfl,hc.startsIn_spanTo (.advance _ _)⟩
      · cases h
        exact ⟨rfl,hc.startsIn_spanTo (.advance _ _)⟩

namespace Descriptor

theorem sound_reader : Descriptor.reader.Sound d where
  on _ _ _ hc hread := hc.reaches (reaches_of_read hread)
  isMalformed := by
    intro c c' x hc hread
    simp only [Descriptor.reader, Reader.read_of] at hread
    split at hread
    · cases hread
    · next e after helement =>
      cases hread
      exact Element.isMalformed_of_read ((hc.reaches (.skipSpace c)).reaches (.advance _ _)) helement

theorem isMalformed_of_readParametersUpTo (fuel : Nat) (hc : c.On d)
    (h : readParametersUpTo fuel c = (.error x,c')) : x.IsMalformed d := by
  induction fuel generalizing c with
  | zero =>
    cases h
    exact ⟨rfl,hc.startsIn_point⟩
  | succ fuel ih =>
    have hspace := hc.reaches (.skipInlineSpace c)
    simp only [readParametersUpTo] at h
    split at h
    · cases h
      exact ⟨rfl,hspace.startsIn_point⟩
    · split at h
      · cases h
      · split at h
        · cases h
          exact ⟨rfl,hspace.startsIn_point⟩
        · split at h
          · next e after hread =>
            cases h
            exact sound_reader.isMalformed _ _ _ hspace hread
          · next t after hread =>
            have hafter := sound_reader.on _ _ _ hspace hread
            split at h
            · cases h
            · next e last hreads =>
              cases h
              exact ih hafter hreads

theorem gathers_on (d : Document) : Gathers fun _ => Cursor.On d where
  reaches h hr := h.reaches hr
  type h hread := h.reaches (reaches_of_read hread)

theorem sound_parametersReader : parametersReader.Sound d where
  on := @Gathers.parameters _ [] (gathers_on d)
  isMalformed _ _ _ hc hread := isMalformed_of_readParametersUpTo _ hc hread

end Descriptor

theorem Field.sound_reader : Field.reader.Sound d :=
  (Reader.sound_asks _).bind fun _ => (Reader.sound_total Modifier.reaches_readAll).bind fun _ =>
    (Reader.sound_tokenUntil ':').bind fun _ => Descriptor.sound_reader.bind fun _ =>
    (Reader.sound_total Field.reaches_initial).bind fun _ => Reader.sound_pure _

theorem Method.sound_reader : Method.reader.Sound d :=
  (Reader.sound_asks _).bind fun _ => (Reader.sound_total Modifier.reaches_readAll).bind fun _ =>
    (Reader.sound_tokenUntil '(').bind fun _ => Descriptor.sound_parametersReader.bind fun _ =>
    Descriptor.sound_reader.bind fun _ => Reader.sound_pure _

end SmaliNavigator
