import SmaliNavigator.Proofs.Class.References

/-!
The bounds on how many things a reader takes up one after another. Each of them takes up a character of
the text at least, so that a bound as large as what is left of the text is never reached, and a larger
one makes no difference.
-/

set_option autoImplicit false

namespace SmaliNavigator

open Text

namespace Cursor

variable {c c' : Cursor}

theorem Reaches.length_le (h : c.Reaches c') : c'.rest.length ≤ c.rest.length := by
  obtain ⟨n,rfl⟩ := h
  rw [rest_advance, List.length_drop]
  exact Nat.sub_le _ _

theorem length_advance_lt {n : Nat} (hn : 0 < n) (h : c.rest ≠ []) :
    (c.advance n).rest.length < c.rest.length := by
  have hpos := List.length_pos_iff.mpr h
  rw [rest_advance, List.length_drop]
  omega

theorem length_skipLine_lt (h : c.rest ≠ []) : c.skipLine.rest.length < c.rest.length :=
  length_advance_lt (Nat.succ_pos _) h

theorem length_readToken_lt (h : c.readToken.1.text ≠ "") :
    c.readToken.2.rest.length < c.rest.length := by
  obtain ⟨xs,ys,hrest,hrun,_⟩ := c.skipSpace.exists_run fun x => !isSpace x
  simp only [readToken, token, hrun, take_length_rest hrest] at h ⊢
  have hxs : 0 < xs.length := List.length_pos_iff.mpr fun hnil => h (by rw [hnil])
  have hne : c.skipSpace.rest ≠ [] := fun hnil => by
    rw [hrest, List.append_eq_nil_iff] at hnil
    exact List.length_pos_iff.mp hxs hnil.1
  exact Nat.lt_of_lt_of_le (length_advance_lt hxs hne) (Reaches.skipSpace c).length_le

end Cursor

theorem Element.length_lt_of_read {c c' : Cursor} {e : Element}
    (h : Element.reader.read c = (.ok e,c')) : c'.rest.length < c.rest.length := by
  simp only [Element.reader, Reader.read_of] at h
  split at h
  · cases h
  · next hrest =>
    have hne : c.rest ≠ [] := by simp [hrest]
    split at h
    · cases h
      exact Cursor.length_advance_lt Nat.one_pos hne
    · split at h
      · split at h
        · split at h
          · cases h
            exact Cursor.length_advance_lt (Nat.succ_pos _) hne
          · cases h
        · cases h
      · cases h

theorem Descriptor.length_lt_of_read {c c' : Cursor} {t : Descriptor}
    (h : Descriptor.reader.read c = (.ok t,c')) : c'.rest.length < c.rest.length := by
  simp only [Descriptor.reader, Reader.read_of] at h
  split at h
  · next e after hread =>
    cases h
    exact Nat.lt_of_lt_of_le (Element.length_lt_of_read hread)
      ((Cursor.Reaches.skipSpace c).trans (.advance _ _)).length_le
  · cases h

theorem Descriptor.reaches_of_read {c c' : Cursor} {t : Descriptor}
    (h : Descriptor.reader.read c = (.ok t,c')) : c.Reaches c' := by
  obtain ⟨-,-,rfl,-⟩ := written_of_read h
  exact (Cursor.Reaches.skipSpace c).trans (.advance _ _)

theorem Cursor.text_readToken_of_nil {c : Cursor} (h : c.rest = []) : c.readToken.1.text = "" := by
  simp [readToken, token, skipSpace, skipWhile, h]

theorem Modifier.ofKeyword?_empty : ofKeyword? "" = none := by decide

theorem Modifier.readUpTo_of_nil {c : Cursor} (h : c.rest = []) (fuel : Nat) :
    readUpTo fuel c = ([],c) := by
  cases fuel with
  | zero => rfl
  | succ fuel =>
    simp only [readUpTo, Cursor.text_readToken_of_nil h, ofKeyword?_empty]

theorem Modifier.readUpTo_fuel {n m : Nat} {c : Cursor} (hn : c.rest.length ≤ n)
    (hm : c.rest.length ≤ m) : readUpTo n c = readUpTo m c := by
  induction n generalizing m c with
  | zero =>
    have hnil : c.rest = [] := List.length_eq_zero_iff.mp (Nat.le_zero.mp hn)
    rw [readUpTo_of_nil hnil, readUpTo_of_nil hnil]
  | succ n ih =>
    cases m with
    | zero =>
      have hnil : c.rest = [] := List.length_eq_zero_iff.mp (Nat.le_zero.mp hm)
      rw [readUpTo_of_nil hnil, readUpTo_of_nil hnil]
    | succ m =>
      unfold readUpTo
      dsimp only
      split
      · next modifier hkeyword =>
        have hlt : c.readToken.2.rest.length < c.rest.length :=
          Cursor.length_readToken_lt fun hempty => by
            rw [hempty, ofKeyword?_empty] at hkeyword
            cases hkeyword
        rw [ih (m := m) (by omega) (by omega)]
      · rfl

theorem Descriptor.readParametersUpTo_fuel {n m : Nat} {c : Cursor} (hn : c.rest.length < n)
    (hm : c.rest.length < m) : readParametersUpTo n c = readParametersUpTo m c := by
  induction n generalizing m c with
  | zero => exact absurd hn (Nat.not_lt_zero _)
  | succ n ih =>
    cases m with
    | zero => exact absurd hm (Nat.not_lt_zero _)
    | succ m =>
      unfold readParametersUpTo
      dsimp only
      split
      · rfl
      · split
        · rfl
        · split
          · rfl
          · split
            · rfl
            · next t after hread =>
              have hlt := length_lt_of_read hread
              have hle := (Cursor.Reaches.skipInlineSpace c).length_le
              rw [ih (m := m) (by omega) (by omega)]

namespace Class

theorem skipBlock_fuel {line n m : Nat} {c : Cursor} (hn : c.rest.length < n)
    (hm : c.rest.length < m) : skipBlock line n c = skipBlock line m c := by
  induction n generalizing m c with
  | zero => exact absurd hn (Nat.not_lt_zero _)
  | succ n ih =>
    cases m with
    | zero => exact absurd hm (Nat.not_lt_zero _)
    | succ m =>
      unfold skipBlock
      split
      · rfl
      · dsimp only
        split
        · rfl
        · next hend =>
          have hne : c.rest ≠ [] := fun hnil => hend (by simp [Cursor.atEnd, Cursor.skipLine, hnil])
          have hlt := Cursor.length_skipLine_lt hne
          exact ih (by omega) (by omega)

theorem readInstructions_fuel {line n m : Nat} {c : Cursor} (hn : c.rest.length < n)
    (hm : c.rest.length < m) : readInstructions line n c = readInstructions line m c := by
  induction n generalizing m c with
  | zero => exact absurd hn (Nat.not_lt_zero _)
  | succ n ih =>
    cases m with
    | zero => exact absurd hm (Nat.not_lt_zero _)
    | succ m =>
      unfold readInstructions
      dsimp only
      split
      · rfl
      · next hend =>
        have hne : c.skipSpace.rest ≠ [] := fun hnil => hend (by simp [Cursor.atEnd, hnil])
        have hlt := Cursor.length_skipLine_lt hne
        have hle := (Cursor.Reaches.skipSpace c).length_le
        rw [ih (m := m) (by omega) (by omega)]

theorem reaches_readInstructions (line fuel : Nat) (c : Cursor) :
    Gives (fun x => c.Reaches x.2) (readInstructions line fuel c) := by
  induction fuel generalizing c with
  | zero => exact .error _
  | succ fuel ih =>
    simp only [readInstructions]
    have hspace := Cursor.Reaches.skipSpace c
    split
    · exact .error _
    · split
      · next after hafter => exact .ok (hspace.trans (.expect? hafter))
      · refine .always fun here => .bind (ih c.skipSpace.skipLine) fun x hx => .ok ?_
        exact (hspace.trans (.skipLine _)).trans hx

theorem keeps_reaches (c : Cursor) : Keeps fun _ c' => c.Reaches c' where
  reaches h hr := h.trans hr
  type h hread := h.trans (Descriptor.reaches_of_read hread)
  forget h := h
  body {_ c' line fuel} h := fun x hx =>
    (h.trans (.skipLine c')).trans (reaches_readInstructions line fuel c'.skipLine x hx)

theorem readItems_fuel {n m : Nat} {c : Cursor} (hn : c.rest.length < n) (hm : c.rest.length < m) :
    readItems n c = readItems m c := by
  induction n generalizing m c with
  | zero => exact absurd hn (Nat.not_lt_zero _)
  | succ n ih =>
    cases m with
    | zero => exact absurd hm (Nat.not_lt_zero _)
    | succ m =>
      unfold readItems
      dsimp only
      split
      · rfl
      · next hkeyword =>
        have hlt := Cursor.length_readToken_lt (c := c) (by simpa using hkeyword)
        cases hitem : readItem c.readToken.1 c.readToken.2 with
        | error x => rfl
        | ok item =>
          have hreach : c.readToken.2.Reaches item.2 :=
            @gives_readItem [] _ _ (keeps_reaches c.readToken.2) c.readToken.1 (.refl _) _ hitem
          have hle := hreach.length_le
          change (readItems n item.2 >>= _) = (readItems m item.2 >>= _)
          rw [ih (m := m) (by omega) (by omega)]

end Class

end SmaliNavigator
