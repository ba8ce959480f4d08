import SmaliNavigator.Proofs.Slicer
import SmaliNavigator.Proofs.Text.Positions
import SmaliNavigator.Slicer.Member

/-!
Types, modifiers, parameter lists and members read by offsets.
-/

set_option autoImplicit false

namespace SmaliNavigator

open Text

theorem Modifier.length_readToken_lt {c : Cursor} {m : Modifier}
    (h : ofKeyword? c.readToken.1.text = some m) : c.readToken.2.rest.length < c.rest.length :=
  Cursor.length_readToken_lt fun hempty => by
    rw [hempty, ofKeyword?_empty] at h
    cases h

namespace Slicer

variable {d : Document} {c : Cursor}

/-! ### Types -/

theorem readFrom_classElement (hc : c.On d) :
    let n := c.run fun x => x != ';' && !isSpace x
    let after := c.advance (n + 1)
    classElement.readFrom d c.offset =
      if (c.rest.drop n).head? = some ';' then
        match ClassName.ofIdentifier? (c.rest.take (n + 1)) (c.spanTo after) with
        | some name => some (.ok (.object name),after.offset)
        | none =>
          let raw := String.ofList (c.rest.take (n + 1))
          some (.error ⟨c.spanTo after,.emptyClassName raw⟩,after.offset)
      else some (.error ⟨c.spanTo (c.advance n),.openClassName⟩,c.offset) := by
  obtain ⟨xs,ys,hxs,hrun,hall,hstops⟩ := c.exists_run fun x => x != ';' && !isSpace x
  have htake : c.rest.takeWhile (fun x => x != ';' && !isSpace x) = xs := by
    rw [hxs, takeWhile_append_stops hall hstops]
  have hdrop : c.rest.drop xs.length = ys := by simp [hxs]
  simp only [classElement, readFrom_bind, readFrom_offset, readFrom_rest hc, htake,
    readFrom_cut_suffix hxs, hrun, hdrop]
  split
  · next hsemi =>
    obtain ⟨zs,rfl⟩ := List.head?_eq_some_iff.mp hsemi
    have hraw : c.rest = (xs ++ [';']) ++ zs := by simpa using hxs
    have hstop : byteCount (xs ++ [';']) = byteCount xs + 1 := by simp; rfl
    have hcut : (cut c.rest 0 (byteCount xs + 1)).readFrom d c.offset =
        some (.ok (xs ++ [';']),c.offset) :=
      hstop ▸ readFrom_cut_front ⟨zs,hraw.symm⟩ c.offset
    have htakes : c.rest.take (xs.length + 1) = xs ++ [';'] := by
      rw [hraw, List.take_left' (by simp)]
    have hbehind : (c.advance (xs.length + 1)).offset = c.offset + (byteCount xs + 1) :=
      Cursor.offset_advance_succ hxs
    have hspan := hc.spanOf_eq (.advance c (xs.length + 1))
    rw [hbehind] at hspan
    simp only [readFrom_bind, hcut, htakes, readFrom_moveBy, readFrom_spanFrom, hspan, hbehind]
    cases ClassName.ofIdentifier? (xs ++ [';']) (c.spanTo (c.advance (xs.length + 1))) <;> rfl
  · simp only [readFrom_bind, readFrom_spanBetween, readFrom_fail]
    rw [← Cursor.offset_advance_length hxs, hc.spanOf_eq (.advance _ _)]

theorem follows_element : element.Follows Element.reader where
  reads {d c} hc := by
    simp only [element, readFrom_bind, readFrom_offset, follows_peekChar.reads hc, Reader.asks,
      Reader.read_total, Element.reader, Reader.read_of]
    cases hrest : c.rest with
    | nil =>
      simp only [List.head?_nil, readFrom_bind, readFrom_spanFrom, readFrom_fail,
        hc.spanOf_eq (.refl c)]
      rfl
    | cons code more =>
      have hone := Cursor.offset_advance_one hrest
      have hspan := hc.spanOf_eq (.advance c 1)
      rw [hone] at hspan
      simp only [List.head?_cons]
      cases hcode : Primitive.ofCode? code with
      | some p =>
        simp only [readFrom_bind, readFrom_moveBy, readFrom_spanFrom, readFrom_pure, hspan, hone]
      | none =>
        simp only
        split
        · rw [readFrom_classElement hc, ← hrest]
          split
          · generalize ClassName.ofIdentifier? _ _ = name
            cases name <;> rfl
          · rfl
        · simp only [readFrom_bind, readFrom_spanBetween, readFrom_fail, hspan]
  reaches c := by
    simp only [Element.reader, Reader.read_of]
    split
    · exact .refl c
    · split
      · exact .advance c _
      · split
        · split
          · split
            · exact .advance c _
            · exact .advance c _
          · exact .refl c
        · exact .refl c

theorem follows_descriptor : descriptor.Follows Descriptor.reader where
  reads {d c} hc := by
    have hskip := hc.reaches (.skipSpace c)
    have hafter := hskip.reaches (.advance _ (c.skipSpace.run (· = '[')))
    have hbrackets := (follows_skipWhile (· = '[')).reads hskip
    have hreach := follows_element.reaches (c.skipSpace.advance (c.skipSpace.run (· = '[')))
    have hlength : (c.skipSpace.rest.takeWhile (· = '[')).length = c.skipSpace.run (· = '[') := rfl
    simp only [Reader.read_moves, Cursor.skipWhile] at hbrackets
    simp only [descriptor, readFrom_bind, follows_skipSpace.reads hc, Reader.read_moves,
      readFrom_offset, readFrom_rest hskip, hbrackets, hlength, follows_element.reads hafter,
      Descriptor.reader, Reader.read_of]
    rcases heq : Element.reader.read (c.skipSpace.advance (c.skipSpace.run (· = '['))) with ⟨x | e,after⟩
    · rfl
    · rw [heq] at hreach
      dsimp only
      split
      · rfl
      · simp only [readFrom_bind, readFrom_spanFrom, readFrom_pure,
          hskip.spanOf_eq (.trans (.advance _ _) hreach)]
  reaches c := by
    have hreach := follows_element.reaches (c.skipSpace.advance (c.skipSpace.run (· = '[')))
    have hskip := (Cursor.Reaches.skipSpace c).trans (.advance _ (c.skipSpace.run (· = '[')))
    simp only [Descriptor.reader, Reader.read_of]
    split <;> next hread => exact hskip.trans (by rwa [hread] at hreach)

/-! ### Modifiers and parameters -/

theorem readFrom_modifierStep (hc : c.On d) : modifierStep.readFrom d c.offset =
    match Modifier.ofKeyword? c.readToken.1.text with
    | some m => some (.ok (some m),c.readToken.2.offset)
    | none => some (.ok none,c.offset) := by
  simp only [modifierStep, readFrom_bind, readFrom_offset, follows_readToken.reads hc,
    Reader.read_total]
  cases Modifier.ofKeyword? c.readToken.1.text <;> rfl

theorem readFrom_modifiers {n : Nat} (hc : c.On d) (hn : c.rest.length < n) :
    modifiers.readFrom d c.offset =
      some (.ok (Modifier.readUpTo n c).1,(Modifier.readUpTo n c).2.offset) := by
  induction n generalizing c with
  | zero => exact absurd hn (Nat.not_lt_zero _)
  | succ n ih =>
    rw [modifiers, readFrom_collect, readFrom_modifierStep hc, Modifier.readUpTo]
    cases hkeyword : Modifier.ofKeyword? c.readToken.1.text with
    | none => simp only [hkeyword]
    | some m =>
      have hlt := Modifier.length_readToken_lt hkeyword
      simp only [hkeyword]
      rw [← modifiers, readFrom_bind, ih (hc.reaches (.readToken c)) (by omega)]
      rfl

theorem follows_modifiers : modifiers.Follows (Reader.total Modifier.readAll) where
  reads {d c} hc := by
    rw [readFrom_modifiers hc (Nat.lt_succ_self _), Reader.read_total, Modifier.readAll,
      Modifier.readUpTo_fuel (Nat.le_succ _) (Nat.le_refl _)]
  reaches := Modifier.reaches_readAll

theorem readFrom_parameterStep (hc : c.On d) : parameterStep.readFrom d c.offset =
    match c.skipInlineSpace.rest with
    | [] => some (.error ⟨.point c.skipInlineSpace.position,.openParameters⟩,c.skipInlineSpace.offset)
    | x :: _ =>
      if x = ')' then some (.ok none,(c.skipInlineSpace.advance 1).offset)
      else if x = '\n' ∨ x = '\r' then
        some (.error ⟨.point c.skipInlineSpace.position,.openParameters⟩,c.skipInlineSpace.offset)
      else match Descriptor.reader.read c.skipInlineSpace with
        | (.ok t,after) => some (.ok (some t),after.offset)
        | (.error x,after) => some (.error x,after.offset) := by
  have hskip := hc.reaches (.skipInlineSpace c)
  simp only [parameterStep, readFrom_bind, follows_skipInlineSpace.reads hc, Reader.read_moves,
    follows_peekChar.reads hskip, Reader.asks, Reader.read_total]
  cases hrest : c.skipInlineSpace.rest with
  | nil =>
    simp only [List.head?_nil, readFrom_bind, readFrom_position, readFrom_fail, hskip.positionAt_eq]
  | cons x more =>
    have hone := Cursor.offset_advance_one hrest
    simp only [List.head?_cons]
    split
    · simp only [readFrom_bind, readFrom_moveBy, readFrom_pure, hone]
    · split
      · simp only [readFrom_bind, readFrom_position, readFrom_fail, hskip.positionAt_eq]
      · rw [readFrom_bind, follows_descriptor.reads hskip]
        rcases Descriptor.reader.read c.skipInlineSpace with ⟨x | t,after⟩ <;> rfl

theorem readFrom_parameters {n : Nat} (hc : c.On d) (hn : c.rest.length < n) :
    parameters.readFrom d c.offset = some ((Descriptor.readParametersUpTo n c).1,
      (Descriptor.readParametersUpTo n c).2.offset) := by
  induction n generalizing c with
  | zero => exact absurd hn (Nat.not_lt_zero _)
  | succ n ih =>
    rw [parameters, readFrom_collect, readFrom_parameterStep hc, Descriptor.readParametersUpTo]
    cases hrest : c.skipInlineSpace.rest with
    | nil => rfl
    | cons x more =>
      by_cases hclosing : x = ')'
      · simp only [if_pos hclosing]
      · by_cases hend : x = '\n' ∨ x = '\r'
        · simp only [if_neg hclosing, if_pos hend]
        · simp only [if_neg hclosing, if_neg hend]
          rcases hread : Descriptor.reader.read c.skipInlineSpace with ⟨x | t,after⟩
          · rfl
          · have hlt := Descriptor.length_lt_of_read hread
            have hle := (Cursor.Reaches.skipInlineSpace c).length_le
            have hafter := hc.reaches
              ((Cursor.Reaches.skipInlineSpace c).trans (Descriptor.reaches_of_read hread))
            dsimp only
            rw [← parameters, readFrom_bind, ih hafter (by omega)]
            rcases Descriptor.readParametersUpTo n after with ⟨x | ts,last⟩ <;> rfl

theorem reaches_readParametersUpTo (n : Nat) (c : Cursor) :
    c.Reaches (Descriptor.readParametersUpTo n c).2 := by
  induction n generalizing c with
  | zero => exact .refl c
  | succ n ih =>
    have hskip := Cursor.Reaches.skipInlineSpace c
    have htype := hskip.trans (follows_descriptor.reaches c.skipInlineSpace)
    rw [Descriptor.readParametersUpTo]
    split
    · exact hskip
    · split
      · exact hskip.trans (.advance _ _)
      · split
        · exact hskip
        · split
          · next hread => rwa [hread] at htype
          · next after hread =>
            rw [hread] at htype
            have hlast := htype.trans (ih after)
            split <;> next hreads => rwa [hreads] at hlast

theorem follows_parameters : parameters.Follows Descriptor.parametersReader where
  reads hc := readFrom_parameters hc (Nat.lt_succ_self _)
  reaches c := reaches_readParametersUpTo _ c

/-! ### Members -/

@[simp] theorem readFrom_lineText (line : Nat) (d : Document) (offset : Nat) :
    (lineText line).readFrom d offset = some (.ok (d.lineText line),offset) := by
  simp only [lineText, readFrom_bind, readFrom_asks]
  split
  · next hline =>
    obtain ⟨l,hl⟩ := Document.exists_line_of_lt hline
    obtain ⟨front,rest,hchars,hstart,-⟩ := Document.exists_content hl
    have hcut := cut?_append front l.content rest
    rw [← hchars, ← hstart, byteCount_append, ← hstart] at hcut
    simp only [readFrom_bind, readFrom_asks, Document.lineStart_eq hl, Document.lineStop_eq hl,
      between, cut, readFrom_of, Line.stop, hcut, Option.map_some, readFrom_pure, Document.lineText,
      hl]
  · next hline =>
    rw [readFrom_pure, Document.lineText, List.getElem?_eq_none (Nat.le_of_not_lt hline)]

theorem follows_lineSpan : lineSpan.Follows (Reader.asks fun c => c.document.lineSpan c.line) where
  reads hc := by
    simp only [lineSpan, readFrom_bind, readFrom_position, readFrom_lineText, readFrom_pure,
      hc.positionAt_eq, Reader.asks, Reader.read_total, hc.document]
    rfl
  reaches c := .refl c

theorem follows_initial : initial.Follows (Reader.total fun c =>
    match c.expectOnLine? "=" with
    | none => (none,c)
    | some after =>
      let (value,last) := after.readRestOfLine
      (if value.text.isEmpty then none else some value,last)) where
  reads {d c} hc := by
    simp only [initial, readFrom_bind, (follows_expectOnLine "=").reads hc, Reader.tries,
      Reader.read_total]
    cases hexpect : c.expectOnLine? "=" with
    | none => rfl
    | some after =>
      have hafter := hc.reaches (.expectOnLine? hexpect)
      simp only [if_true, readFrom_bind, follows_restOfLine.reads hafter, Reader.read_total,
        readFrom_pure]
  reaches := Field.reaches_initial

theorem follows_position : position.Follows (Reader.asks Cursor.position) :=
  follows_asks fun _ => rfl

theorem follows_field : field.Follows Field.reader :=
  follows_lineSpan.bind fun _ => follows_modifiers.bind fun _ => (follows_tokenUntil ':').bind fun _ =>
    follows_descriptor.bind fun _ => follows_initial.bind fun _ => follows_pure _

theorem follows_method : method.Follows Method.reader :=
  follows_lineSpan.bind fun _ => follows_modifiers.bind fun _ => (follows_tokenUntil '(').bind fun _ =>
    follows_parameters.bind fun _ => follows_descriptor.bind fun _ => follows_pure _

theorem follows_arrowBehind (owner : Descriptor) : (arrowBehind owner).Follows (.of fun c =>
    match c.expect? "->" with
    | some after => (.ok owner,after)
    | none => (.error ⟨.point c.position,.missingArrow owner.raw⟩,c)) where
  reads {d c} hc := by
    simp only [arrowBehind, readFrom_bind, (follows_expect "->").reads hc, Reader.tries,
      Reader.read_total, Reader.read_of]
    cases c.expect? "->" with
    | some after => rfl
    | none => simp [readFrom_bind, hc.positionAt_eq]
  reaches c := by
    rw [Reader.read_of]
    split
    · next hafter => exact .expect? hafter
    · exact .refl c

theorem follows_owner : owner.Follows ownerReader := by
  refine follows_descriptor.bind fun t => ?_
  split
  · exact ⟨fun _ => rfl,.refl⟩
  · exact follows_arrowBehind t

theorem follows_fieldReference : fieldReference.Follows FieldReference.reader :=
  follows_position.bind fun _ => follows_owner.bind fun _ => (follows_tokenUntil ':').bind fun _ =>
    follows_descriptor.bind fun _ => follows_position.bind fun _ => follows_pure _

theorem follows_methodReference : methodReference.Follows MethodReference.reader :=
  follows_position.bind fun _ => follows_owner.bind fun _ => (follows_tokenUntil '(').bind fun _ =>
    follows_parameters.bind fun _ => follows_descriptor.bind fun _ => follows_position.bind fun _ =>
    follows_pure _

end Slicer

end SmaliNavigator
