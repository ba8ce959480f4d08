import SmaliNavigator.Proofs.Class.Items

/-!
Where the names of the members of a class are. The keyword of a member is read as a word of its own,
and so are the modifiers, so that the name starts behind white space. It goes on up to its separator,
which is on the same line.
-/

set_option autoImplicit false

namespace SmaliNavigator

open Text

/-- A word of the document starts at a position. -/
def Document.StartsWord (d : Document) (p : Position) : Prop :=
  ∃ before rest, d.chars = before ++ rest ∧ p = d.positionAt (byteCount before) ∧
    before.getLast?.any isSpace = true

variable {d : Document}

namespace Cursor

variable {c : Cursor}

/-- Nothing comes next that would go on with a word. -/
structure EndsWord (d : Document) (c : Cursor) : Prop where
  on : c.On d
  stops : Stops (fun x => !isSpace x) c.rest

theorem On.endsWord_readToken (h : c.On d) : c.readToken.2.EndsWord d := by
  obtain ⟨xs,ys,hrest,hrun,_,hstops⟩ := c.skipSpace.exists_run fun x => !isSpace x
  constructor
  · exact h.reaches (.readToken c)
  · have hafter : c.readToken.2 = c.skipSpace.advance xs.length := by
      rw [← hrun]
      rfl
    rw [hafter, rest_advance_length hrest]
    exact hstops

theorem EndsWord.readModifiers (h : c.EndsWord d) (fuel : Nat) :
    (Modifier.readUpTo fuel c).2.EndsWord d := by
  induction fuel generalizing c with
  | zero => exact h
  | succ fuel ih =>
    simp only [Modifier.readUpTo]
    split
    · exact ih h.on.endsWord_readToken
    · exact h

theorem EndsWord.startsWord (h : c.EndsWord d) (hne : c.skipSpace.rest ≠ []) :
    d.StartsWord c.skipSpace.position := by
  obtain ⟨before,hb⟩ := h.on
  obtain ⟨xs,ys,hrest,hrun,hall,hstops⟩ := c.exists_run isSpace
  have hskip : c.skipSpace = c.advance xs.length := by rw [skipSpace, skipWhile, hrun]
  rw [hskip, rest_advance_length hrest] at hne
  cases hlast : xs.getLast? with
  | none =>
    have hxs : xs = [] := List.getLast?_eq_none_iff.mp hlast
    cases ys with
    | nil => exact absurd rfl hne
    | cons y ys =>
      have hword := h.stops
      rw [hrest, hxs, List.nil_append, stops_cons] at hword
      rw [stops_cons] at hstops
      simp [hstops] at hword
  | some x =>
    have hat := hb.advance xs.length
    rw [take_length_rest hrest] at hat
    rw [hskip]
    refine ⟨before ++ xs,_,hat.chars,?_,?_⟩
    · rw [position, hat.document, hat.offset]
    · simp [List.getLast?_append, hlast, hall x (List.mem_of_getLast? hlast)]

end Cursor

/-- A span has a name, and directly behind it stands the separator that ends the name. -/
structure Document.Names (d : Document) (separator : Char) (name : String) (span : Span) : Prop where
  shown : ∃ before rest, d.chars = before ++ (name.toList ++ separator :: rest) ∧
    span = d.spanOf (byteCount before) (byteCount (before ++ name.toList))
  not_mem : separator ∉ name.toList
  inline : '\n' ∉ name.toList

/-- A name as a declaration gives it. -/
structure Token.IsDeclared (d : Document) (separator : Char) (t : Token) : Prop where
  startsWord : d.StartsWord t.span.start
  names : d.Names separator t.text t.span

theorem exists_of_tokenUntil {separator : Char} {c c' : Cursor} {t : Token}
    (hread : (Reader.tokenUntil separator).read c = (.ok t,c')) :
    ∃ r, c.skipSpace.rest = t.text.toList ++ separator :: r ∧ separator ∉ t.text.toList ∧
      '\n' ∉ t.text.toList ∧ t = c.skipSpace.token t.text.toList.length := by
  simp only [Reader.tokenUntil, Reader.read_of] at hread
  split at hread
  · next hseparator =>
    cases hread
    obtain ⟨xs,ys,hrest,hnone,hinline⟩ := exists_of_mem_line (List.contains_iff_mem.mp hseparator)
    have hrun := Cursor.run_of_not_mem hrest hnone
    have htext : (c.skipSpace.token (c.skipSpace.run (· ≠ separator))).text.toList = xs := by
      rw [hrun]
      exact String.toList_ofList.trans (Cursor.take_length_rest hrest)
    rw [htext]
    exact ⟨ys,hrest,hnone,hinline,by rw [hrun]⟩
  · cases hread

theorem names_of_tokenUntil {separator : Char} {c c' : Cursor} {t : Token} (h : c.On d)
    (hread : (Reader.tokenUntil separator).read c = (.ok t,c')) :
    d.Names separator t.text t.span := by
  obtain ⟨before,hb⟩ := h.reaches (.skipSpace c)
  obtain ⟨r,hrest,hnone,hinline,ht⟩ := exists_of_tokenUntil hread
  refine ⟨⟨before,r,by rw [← hrest, hb.chars],?_⟩,hnone,hinline⟩
  have hspan := hb.spanTo_advance t.text.toList.length
  rw [Cursor.take_length_rest hrest] at hspan
  rw [← hspan]
  exact congrArg Token.span ht

theorem Cursor.EndsWord.isDeclared_of_tokenUntil {separator : Char} {c c' : Cursor} {t : Token}
    (h : c.EndsWord d) (hread : (Reader.tokenUntil separator).read c = (.ok t,c')) :
    t.IsDeclared d separator := by
  refine ⟨?_,names_of_tokenUntil h.on hread⟩
  simp only [Reader.tokenUntil, Reader.read_of] at hread
  split at hread
  · next hseparator =>
    cases hread
    refine h.startsWord fun hnil => ?_
    simp [hnil] at hseparator
  · cases hread

theorem endsWord_readAll :
    Reader.Triple (Cursor.EndsWord d) (.total Modifier.readAll) fun _ => Cursor.EndsWord d :=
  Reader.triple_total fun _ hc => hc.readModifiers _

theorem isDeclared_tokenUntil (separator : Char) :
    Reader.Triple (Cursor.EndsWord d) (.tokenUntil separator) fun t _ => t.IsDeclared d separator :=
  fun _ _ _ hc hread => hc.isDeclared_of_tokenUntil hread

theorem Field.isDeclared_reader :
    Reader.Triple (Cursor.EndsWord d) Field.reader fun f _ => f.name.IsDeclared d ':' :=
  (Reader.triple_asks _).bind fun _ => endsWord_readAll.bind fun _ =>
    (isDeclared_tokenUntil ':').bind fun _ => Reader.triple_keeps.bind fun _ =>
    Reader.triple_keeps.bind fun _ => Reader.triple_pure fun _ h => h

theorem Method.isDeclared_reader :
    Reader.Triple (Cursor.EndsWord d) Method.reader fun m _ => m.name.IsDeclared d '(' :=
  (Reader.triple_asks _).bind fun _ => endsWord_readAll.bind fun _ =>
    (isDeclared_tokenUntil '(').bind fun _ => Reader.triple_keeps.bind fun _ =>
    Reader.triple_keeps.bind fun _ => Reader.triple_pure fun _ h => h

namespace Class

variable {c : Class}

theorem isDeclared_of_mem_fields (h : ofDocument d = .ok c) {f : Field} (hf : f ∈ c.fields) :
    f.name.IsDeclared d ':' := by
  obtain ⟨x,k,hread,hitem⟩ := exists_item_of_mem_fields h hf
  obtain ⟨c,hc,-,-,hvalue⟩ := declaredAt_keyworded hread hitem
  exact Field.isDeclared_reader _ f _ hc.endsWord_readToken (Reader.read_of_value hvalue)

theorem isDeclared_of_mem_allMethods (h : ofDocument d = .ok c) {m : Method}
    (hm : m ∈ c.allMethods) : m.name.IsDeclared d '(' := by
  obtain ⟨x,k,rs,hread,hitem⟩ := exists_item_of_mem_allMethods h hm
  obtain ⟨c,hc,-,-,hvalue⟩ := declaredAt_keyworded hread hitem
  exact Method.isDeclared_reader _ { m with body? := none } _ hc.endsWord_readToken
    (Reader.read_of_value hvalue)

end Class

end SmaliNavigator
