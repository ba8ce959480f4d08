import SmaliNavigator.Spot
import SmaliNavigator.Proofs.Class.Items

/-!
Declarations asked for by their line. The reader of a file comes to a keyword from what is in front of
it, the question for a line starts at the start of the line. Where the keyword is the first token of
its line both of them are at the same cursor behind it, and from there on they read the same.
-/

set_option autoImplicit false

namespace SmaliNavigator

open Text

variable {d : Document}

/-! ### Words of a line -/

theorem isBlank_of_isSpace {c : Char} (h : isSpace c = true) : isBlank c = true := by
  have hall : spaces.all isBlank = true := by decide
  exact List.all_eq_true.mp hall c (mem_spaces h)

/-! ### The first token of a line -/

namespace Cursor

variable {c c' : Cursor}

theorem on_lineStart (d : Document) (line : Nat) : (atPosition d ⟨line,0⟩).On d := by
  cases hl : d.lines[line]? with
  | some l =>
    obtain ⟨before,_,_,_,hat,_⟩ := at_atPosition hl (List.nil_append l.tail).symm (by simp)
    exact ⟨_,hat⟩
  | none =>
    refine ⟨d.chars,?_,?_,?_⟩ <;> simp [atPosition, hl, d.size_eq]

theorem On.atPosition_position (h : c.On d) : atPosition d c.position = c := by
  obtain ⟨_,hb⟩ := h
  exact hb.atPosition_position

theorem On.eq_of_readToken (h : c.On d) (h' : c'.On d) (heq : c.readToken.1 = c'.readToken.1) :
    c.readToken.2 = c'.readToken.2 := by
  have hstop : c.readToken.2.position = c'.readToken.2.position :=
    congrArg (fun t : Token => t.span.stop) heq
  rw [← (h.reaches (.readToken c)).atPosition_position, hstop,
    (h'.reaches (.readToken c')).atPosition_position]

/-- The characters that a cursor skips, those of the token that it reads, and what is behind. -/
theorem exists_token (c : Cursor) :
    ∃ xs ys, c.rest = xs ++ (c.peekToken.text.toList ++ ys) ∧ (∀ x ∈ xs, isSpace x = true) ∧
      c.skipSpace.rest = c.peekToken.text.toList ++ ys ∧
      c.readToken.2 = c.skipSpace.advance c.peekToken.text.toList.length ∧
      Stops (fun x => !isSpace x) ys := by
  obtain ⟨xs,r,hrest,hrun,hspace,_⟩ := c.exists_run isSpace
  have hskip : c.skipSpace.rest = r := by
    rw [skipSpace, skipWhile, hrun, rest_advance_length hrest]
  obtain ⟨word,ys,hword,hlength,_,hstops⟩ := c.skipSpace.exists_run fun x => !isSpace x
  have htext : c.peekToken.text.toList = word := by
    change (String.ofList (c.skipSpace.rest.take (c.skipSpace.run fun x => !isSpace x))).toList = _
    rw [hlength, take_length_rest hword, String.toList_ofList]
  have hafter : c.readToken.2 = c.skipSpace.advance word.length := by
    rw [← hlength]
    rfl
  exact ⟨xs,ys,by rw [hrest, htext, ← hword, hskip],hspace,by rw [htext, hword],
    by rw [htext, hafter],hstops⟩

theorem expect?_peekToken (c : Cursor) : c.expect? c.peekToken.text = some c.readToken.2 := by
  obtain ⟨_,ys,_,_,hrest,hafter,_⟩ := c.exists_token
  rw [expect?, literal?_of_rest hrest, hafter]

end Cursor

/-- Whether a token is the first one of its line. -/
def Token.OpensLine (d : Document) (t : Token) : Prop :=
  (Cursor.atPosition d ⟨t.span.start.line,0⟩).peekToken = t

instance (d : Document) (t : Token) : Decidable (t.OpensLine d) :=
  inferInstanceAs (Decidable (_ = _))

/-- The line of its first token: white space, the token, and white space or nothing behind it. -/
theorem Token.OpensLine.exists_tail {t : Token} (h : t.OpensLine d) :
    ∃ l xs ys, d.lines[t.span.start.line]? = some l ∧ l.tail = (xs ++ t.text.toList) ++ ys ∧
      '\n' ∉ xs ∧ (∀ x ∈ xs, isSpace x = true) ∧ Stops (fun x => !isSpace x) ys := by
  generalize hs : Cursor.atPosition d ⟨t.span.start.line,0⟩ = s at *
  have hpeek : s.peekToken = t := hs ▸ h
  obtain ⟨xs,ys,hrest,hspace,hskip,_,hstops⟩ := s.exists_token
  have hon : s.skipSpace.On d := hs ▸ (Cursor.on_lineStart d _).reaches (.skipSpace _)
  obtain ⟨before,hb⟩ := hon
  have hline : t.span.start.line = d.lineOf (byteCount before) := by
    rw [← hb.line_eq, ← hpeek]
    rfl
  obtain ⟨l,_,x,hl,_,_,htail,hfeed,_⟩ := Document.exists_front hb.chars
  rw [← hline] at hl
  have hstart : s.rest = l.tail := by
    obtain ⟨_,_,_,_,_,hstart⟩ :=
      Cursor.at_atPosition hl (List.nil_append l.tail).symm (by simp)
    rw [← hs]
    exact hstart
  -- what is skipped is the part of the line in front of the token
  obtain rfl : xs = x := by
    rw [hrest, ← hskip, htail] at hstart
    exact List.append_cancel_right hstart
  refine ⟨l,xs,ys,hl,?_,hfeed,hspace,hstops⟩
  rw [htail, hskip, hpeek, List.append_assoc]

/-- The first token of a line is its first word, although words end at white space of any script. -/
theorem Token.OpensLine.opensWith {t : Token} (h : t.OpensLine d) (hne : t.text ≠ "")
    (hword : ∀ x ∈ t.text.toList, isBlank x = false) :
    d.opensWith t.span.start.line t.text = true := by
  have hnil : t.text.toList ≠ [] := fun hnil => hne (by simpa using congrArg String.ofList hnil)
  have hnot {x y : Char} (hx : x ∈ t.text.toList) (hy : isBlank y = true) : x ≠ y := by
    rintro rfl
    rw [hword x hx] at hy
    cases hy
  obtain ⟨l,xs,ys,hl,htail,hfeed,hspace,hstops⟩ := h.exists_tail
  have hline : '\n' ∉ xs ++ t.text.toList := by
    rw [List.mem_append, not_or]
    exact ⟨hfeed,fun hmem => hnot hmem (by decide) rfl⟩
  have hreturn : (xs ++ t.text.toList).getLast?.all (fun x => !(x == '\r')) = true := by
    rw [List.getLast?_append]
    cases hlast : t.text.toList.getLast? with
    | none => exact absurd (List.getLast?_eq_none_iff.mp hlast) hnil
    | some x => simpa using hnot (List.mem_of_getLast? hlast) (show isBlank '\r' = true by decide)
  have hbehind : Stops (fun x => !isBlank x)
      (dropEndWhile (· == '\r') (ys.takeWhile (· ≠ '\n'))) := by
    refine (hstops.of_prefix ?_).mono fun x hx => ?_
    · exact (prefix_of_dropEndWhile _ _).trans (List.takeWhile_prefix _)
    · simpa using isBlank_of_isSpace (by simpa using hx)
  rw [Document.opensWith, Document.lineText, hl]
  dsimp only
  rw [Line.text_append htail hline hreturn, List.append_assoc,
    firstWord_append (fun x hx => isBlank_of_isSpace (hspace x hx)) hword hnil hbehind]
  exact beq_self_eq_true _

/-- Behind a keyword that opens its line, the question for the line reads what the reader of the file
reads. -/
theorem Token.OpensLine.declarationOn? {α : Type} {c : Cursor} (hc : c.On d)
    (h : c.peekToken.OpensLine d) (hne : c.peekToken.text ≠ "")
    (hall : c.peekToken.text.toList.all (fun x => !isBlank x) = true) (r : Reader α) :
    d.declarationOn? c.peekToken.text r c.peekToken.span.start.line =
      (r.value c.readToken.2).toOption := by
  have hword : ∀ x ∈ c.peekToken.text.toList, isBlank x = false := fun x hx => by
    simpa using List.all_eq_true.mp hall x hx
  have hstart := Cursor.on_lineStart d c.peekToken.span.start.line
  have hexpect := (Cursor.atPosition d ⟨c.peekToken.span.start.line,0⟩).expect?_peekToken
  rw [h, hstart.eq_of_readToken hc h] at hexpect
  simp only [Document.declarationOn?, h.opensWith hne hword, if_true, hexpect, Option.getD_some]

/-! ### Declarations -/

namespace Class

/-- What is asked for in the line of a declaration whose keyword opens it. -/
def AnsweredAt (d : Document) (p : Position) : BodyItem → Prop
  | .interface _ => True
  | .field f => d.fieldDefinitionAt? p = some f
  | .method m _ => d.methodDefinitionAt? p = some { m with body? := none }

/-- A declaration whose keyword opens its line is what the question for any column of the line
gives. -/
theorem answeredAt_of_mem {x : Header × List (Token × BodyItem)} (h : keyworded d = .ok x)
    {k : Token} {i : BodyItem} (hi : (k,i) ∈ x.2) (hk : k.OpensLine d) (col : Nat) :
    AnsweredAt d ⟨k.span.start.line,col⟩ i := by
  obtain ⟨c,hc,rfl,hread⟩ := declaredAt_keyworded h hi
  cases i with
  | interface _ => trivial
  | field f =>
    obtain ⟨hkey,hread⟩ := hread
    have hon := hk.declarationOn? hc (by rw [hkey]; decide) (by rw [hkey]; decide) Field.reader
    rw [hkey, hread] at hon
    exact hon
  | method m rs =>
    obtain ⟨hkey,hread⟩ := hread
    have hon := hk.declarationOn? hc (by rw [hkey]; decide) (by rw [hkey]; decide) Method.reader
    rw [hkey, hread] at hon
    exact hon

/-! ### The name -/

theorem gives_nameOf? (d : Document) :
    Gives (fun x => nameOf? d = some x.1.name) (readHeader (.start d)) := by
  unfold readHeader nameOf? expectKeyword
  cases (Cursor.start d).expect? ".class" with
  | none => exact .error _
  | some c₁ =>
    rcases hm : Modifier.readAll c₁ with ⟨modifiers,c₂⟩
    rcases hd : Descriptor.reader.read c₂ with ⟨named,c₃⟩
    simp only [Reader.value, hm, hd]
    refine .bind (.ok rfl : Gives (· = c₁) _) fun c hc => ?_
    rw [hc, hm]
    dsimp only
    rw [hd]
    refine Gives.self.bind fun t (ht : named = .ok t) => ?_
    rw [ht]
    cases hname : t.asClass? with
    | none => exact .error _
    | some name =>
      simp only [pure_bind, hname]
      refine .always fun _ => .always fun _ => ?_
      split <;> exact .ok rfl

theorem nameOf?_of_keyworded {x : Header × List (Token × BodyItem)} (h : keyworded d = .ok x) :
    nameOf? d = some x.1.name := by
  have hall : Gives (fun x : Header × List (Token × BodyItem) => nameOf? d = some x.1.name)
      (keyworded d) := by
    unfold keyworded
    exact .bind (gives_nameOf? d) fun _ hx => .always fun _ => .ok hx
  exact hall x h

theorem isClassKey_identifier {c : Class} (h : ofDocument d = .ok c) :
    IsClassKey c.identifier.toList := by
  obtain ⟨x,hread,rfl⟩ := exists_keyworded h
  have hname := nameOf?_of_keyworded hread
  unfold nameOf? at hname
  split at hname
  · cases hname
  · split at hname
    · next t hvalue =>
      refine Descriptor.isClassKey_of_read (Reader.read_of_value hvalue) ?_
      cases t with
      | array e n s => cases hname
      | single e =>
        cases e with
        | primitive p s => cases hname
        | object name => exact congrArg (Option.map _) hname
    · cases hname

end Class

end SmaliNavigator
