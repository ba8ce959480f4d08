import SmaliNavigator.Proofs.Member.Reader

/-!
A written definition is read as what it was written from. The modifiers end at the first word that
is none. A name without white space is one word with its separator, and that is none, whatever the name
is; of a name with white space the first word must be none.
-/

set_option autoImplicit false

namespace SmaliNavigator

open Text

/-- White space, and then a text. -/
def Opens (cs r : List Char) : Prop := ∃ space, (∀ x ∈ space, isSpace x = true) ∧ cs = space ++ r

theorem Opens.of_eq {cs r : List Char} (h : cs = r) : Opens cs r := ⟨[],by simp,h⟩

theorem Opens.of_feed {cs r : List Char} (h : cs = '\n' :: r) : Opens cs r :=
  ⟨['\n'],by simp [isSpace],h⟩

namespace Cursor

variable {c : Cursor} {p : Char → Bool} {xs ys : List Char}

theorem skipWhile_of_rest (h : c.rest = xs ++ ys) (hx : ∀ x ∈ xs, p x = true) (hy : Stops p ys) :
    c.skipWhile p = c.advance xs.length := by
  rw [skipWhile, run_of_stops h hx hy]

theorem rest_skipSpace (h : c.rest = xs ++ ys) (hx : ∀ x ∈ xs, isSpace x = true)
    (hy : Stops isSpace ys) : c.skipSpace.rest = ys := by
  rw [skipSpace, skipWhile_of_rest h hx hy, rest_advance_length h]

theorem rest_skipInlineSpace (h : c.rest = xs ++ ys) (hx : ∀ x ∈ xs, isInlineSpace x = true)
    (hy : Stops isInlineSpace ys) : c.skipInlineSpace.rest = ys := by
  rw [skipInlineSpace, skipWhile_of_rest h hx hy, rest_advance_length h]

theorem expect?_of_opens {literal : String} {r : List Char}
    (h : Opens c.rest (literal.toList ++ r)) (hs : Stops isSpace (literal.toList ++ r)) :
    ∃ after, c.expect? literal = some after ∧ after.rest = r := by
  obtain ⟨space,hspace,hrest⟩ := h
  have hskip := rest_skipSpace hrest hspace hs
  exact ⟨_,literal?_of_rest hskip,rest_advance_length hskip⟩

theorem expectOnLine?_behind {literal : String} {space r : List Char}
    (h : c.rest = space ++ (literal.toList ++ r)) (hspace : ∀ x ∈ space, isInlineSpace x = true)
    (hs : Stops isInlineSpace (literal.toList ++ r)) :
    ∃ after, c.expectOnLine? literal = some after ∧ after.rest = r := by
  have hrest := rest_skipInlineSpace h hspace hs
  exact ⟨_,literal?_of_rest hrest,rest_advance_length hrest⟩

theorem readToken_of_rest {space word r : List Char} (h : c.rest = space ++ (word ++ r))
    (hspace : ∀ x ∈ space, isSpace x = true) (hne : word ≠ [])
    (hword : ∀ x ∈ word, isSpace x = false) (hr : Stops (fun x => !isSpace x) r) :
    c.readToken.1.text = String.ofList word ∧ c.readToken.2.rest = r := by
  have hstops : Stops isSpace (word ++ r) := by
    cases word with
    | nil => exact absurd rfl hne
    | cons x xs => exact stops_cons.mpr (hword x (by simp))
  have hrest := rest_skipSpace h hspace hstops
  have hrun : c.skipSpace.run (fun x => !isSpace x) = word.length :=
    run_of_stops hrest (fun x hx => by simp [hword x hx]) hr
  simp only [readToken, hrun, token, take_length_rest hrest, rest_advance_length hrest, and_self]

theorem stops_isInlineSpace {r : List Char} (h : Stops (· ≠ '\n') r) : Stops isInlineSpace r := by
  intro x hx
  obtain rfl : x = '\n' := by simpa using h x hx
  decide

/-- The rest of a line from the first character that is no white space to the last one. -/
theorem readRestOfLine_of_rest {v r : List Char} (h : c.rest = ' ' :: (v ++ r))
    (hline : '\n' ∉ v) (hfirst : v.head?.all (fun x => !isInlineSpace x) = true)
    (hlast : v.getLast?.all (fun x => !isBlank x) = true) (hr : Stops (· ≠ '\n') r) :
    c.readRestOfLine.1.text = String.ofList v ∧ c.readRestOfLine.2.rest = r := by
  have hstops : Stops isInlineSpace (v ++ r) := by
    cases v with
    | nil => exact stops_isInlineSpace hr
    | cons x xs => exact stops_cons.mpr (by simpa using hfirst)
  have hblank : c.rest = [' '] ++ (v ++ r) := h
  have hrest := rest_skipInlineSpace hblank (by simp [isInlineSpace]) hstops
  have htake : c.skipInlineSpace.rest.takeWhile (· ≠ '\n') = v := by
    rw [hrest]
    refine takeWhile_append_stops (fun x hx => ?_) hr
    simpa using fun heq : x = '\n' => hline (heq ▸ hx)
  have htrim : trimEnd v = v := dropEndWhile_eq_self hlast
  simp only [readRestOfLine, htake, htrim, token, take_length_rest hrest,
    rest_advance_length hrest, and_self]

end Cursor

theorem Descriptor.read_skipSpace (c : Cursor) :
    Descriptor.reader.read c.skipSpace = Descriptor.reader.read c := by
  simp only [Descriptor.reader, Reader.read_of, c.skipSpace_skipSpace]

theorem Reader.tokenUntil_skipSpace (separator : Char) (c : Cursor) :
    (tokenUntil separator).read c.skipSpace = (tokenUntil separator).read c := by
  simp only [tokenUntil, read_of, c.skipSpace_skipSpace]

/-! ### Modifiers -/

namespace Modifier

/-- The keywords with a blank in front of each. -/
def written (ms : List Modifier) : List Char :=
  ms.flatMap fun m => ' ' :: m.keyword.toList

theorem written_append (ms : List Modifier) (r : List Char) :
    written ms ++ ' ' :: r = ' ' :: ((render ms).toList ++ r) := by
  induction ms with
  | nil => simp [written, render]
  | cons m ms ih =>
    have hsplit : (render (m :: ms)).toList = m.keyword.toList ++ ' ' :: (render ms).toList := by
      simp [render]
    have hwritten : written (m :: ms) = ' ' :: m.keyword.toList ++ written ms := by
      simp [written]
    rw [hsplit, hwritten, List.append_assoc, ih]
    simp

theorem length_le_written (ms : List Modifier) : ms.length ≤ (written ms).length := by
  induction ms with
  | nil => simp
  | cons m ms ih =>
    simp only [written, List.flatMap_cons, List.length_append, List.length_cons] at ih ⊢
    omega

theorem keyword_ne_nil (m : Modifier) : m.keyword.toList ≠ [] := by
  cases m <;> decide

theorem not_isSpace_of_mem_keyword (m : Modifier) : ∀ x ∈ m.keyword.toList, isSpace x = false := by
  have hall : (m.keyword.toList.all fun x => !isSpace x) = true := by cases m <;> decide
  simpa using hall

theorem keyword_of_ofKeyword? {word : String} {m : Modifier} (h : ofKeyword? word = some m) :
    m.keyword = word := by
  have hfound := List.find?_some h
  simpa using hfound

/-- Whether the first word of a text is no modifier. -/
def Ends (cs : List Char) : Prop :=
  ∃ word r, cs = word ++ r ∧ word ≠ [] ∧ (∀ x ∈ word, isSpace x = false) ∧
    Stops (fun x => !isSpace x) r ∧ ∀ m : Modifier, m.keyword.toList ≠ word

theorem Ends.stops {cs : List Char} (h : Ends cs) : Stops isSpace cs := by
  obtain ⟨word,r,rfl,hne,hword,-,-⟩ := h
  cases word with
  | nil => exact absurd rfl hne
  | cons x xs => exact stops_cons.mpr (hword x (by simp))

theorem ends_of_mem {xs r : List Char} {x : Char} (hxs : ∀ y ∈ xs, isSpace y = false)
    (hx : isSpace x = false) (hkeyword : ∀ m : Modifier, x ∉ m.keyword.toList) :
    Ends (xs ++ x :: r) := by
  refine ⟨xs ++ x :: r.takeWhile fun y => !isSpace y,r.dropWhile fun y => !isSpace y,by simp,
    by simp,fun y hy => ?_,stops_dropWhile _ r,fun m hm => hkeyword m (by rw [hm]; simp)⟩
  rcases List.mem_append.mp hy with hy | hy
  · exact hxs y hy
  · rcases List.mem_cons.mp hy with rfl | hy
    · exact hx
    · simpa using of_mem_takeWhile hy

theorem Ends.of_separator {separator : Char} (hspace : isSpace separator = false)
    (hkeyword : ∀ m : Modifier, separator ∉ m.keyword.toList) {name r : List Char}
    (h : Ends (name ++ separator :: r)) (r' : List Char) : Ends (name ++ separator :: r') := by
  cases hfind : name.find? isSpace with
  | none => exact ends_of_mem (by simpa using List.find?_eq_none.mp hfind) hspace hkeyword
  | some y =>
    -- the first word ends in the name, and there it is the same
    obtain ⟨hy,xs,ys,rfl,hxs⟩ := List.find?_eq_some_iff_append.mp hfind
    obtain ⟨word,t,heq,hne,hword,ht,hnone⟩ := h
    have hstops (u : List Char) : Stops (fun x => !isSpace x) (y :: (ys ++ u)) :=
      stops_cons.mpr (by simp [hy])
    obtain rfl : xs = word := by
      have hfirst := takeWhile_append_stops hxs (hstops (separator :: r))
      rw [← List.cons_append, ← List.append_assoc, heq] at hfirst
      exact hfirst.symm.trans (takeWhile_append_stops (by simpa using hword) ht)
    exact ⟨xs,y :: (ys ++ separator :: r'),by simp,hne,hword,hstops _,hnone⟩

theorem readUpTo_of_written {ms : List Modifier} {fuel : Nat} {c : Cursor} {r : List Char}
    (h : c.rest = written ms ++ ' ' :: r) (hr : Ends r) (hfuel : ms.length ≤ fuel) :
    ∃ c', readUpTo fuel c = (ms,c') ∧ c'.rest = ' ' :: r := by
  induction ms generalizing fuel c with
  | nil =>
    cases fuel with
    | zero => exact ⟨c,rfl,h⟩
    | succ fuel =>
      obtain ⟨word,t,rfl,hne,hword,ht,hkeyword⟩ := hr
      have hblank : c.rest = [' '] ++ (word ++ t) := h
      obtain ⟨htext,_⟩ := Cursor.readToken_of_rest hblank (by simp [isSpace]) hne hword ht
      have hnone : ofKeyword? c.readToken.1.text = none := by
        rw [htext, Option.eq_none_iff_forall_ne_some]
        intro m hm
        exact hkeyword m (by rw [keyword_of_ofKeyword? hm, String.toList_ofList])
      refine ⟨c,?_,h⟩
      simp only [readUpTo, hnone]
  | cons m ms ih =>
    obtain ⟨fuel,rfl⟩ : ∃ n, fuel = n + 1 := ⟨fuel - 1,by simp at hfuel; omega⟩
    have hblank : c.rest = [' '] ++ (m.keyword.toList ++ (written ms ++ ' ' :: r)) := by
      simpa [written] using h
    have hnext : Stops (fun x => !isSpace x) (written ms ++ ' ' :: r) := by
      cases ms with
      | nil => exact stops_cons.mpr (by decide)
      | cons k ks => exact stops_cons.mpr (by decide)
    obtain ⟨htext,hafter⟩ := Cursor.readToken_of_rest hblank (by simp [isSpace]) (keyword_ne_nil m)
      (not_isSpace_of_mem_keyword m) hnext
    rw [String.ofList_toList] at htext
    obtain ⟨c',hread,hrest⟩ := ih hafter (by simpa using hfuel)
    refine ⟨c',?_,hrest⟩
    simp only [readUpTo, htext, ofKeyword?_keyword, hread]

theorem readAll_of_written {ms : List Modifier} {c : Cursor} {r : List Char}
    (h : c.rest = written ms ++ ' ' :: r) (hr : Ends r) :
    ∃ c', readAll c = (ms,c') ∧ c'.rest = ' ' :: r := by
  refine readUpTo_of_written h hr ?_
  rw [h, List.length_append]
  exact Nat.le_trans (length_le_written ms) (Nat.le_add_right _ _)

theorem not_mem_keyword {x : Char} (hx : x ∈ [':','(','L']) (m : Modifier) :
    x ∉ m.keyword.toList := by
  simp only [List.mem_cons, List.not_mem_nil, or_false] at hx
  rcases hx with rfl | rfl | rfl
  all_goals cases m <;> decide

end Modifier

/-! ### Definitions -/

/-- Whether a name is read as a whole in front of a separator, whatever is behind. -/
structure IsReadableBefore (separator : Char) (name : String) : Prop where
  line : ∀ x ∈ name.toList, x ≠ separator ∧ x ≠ '\n'
  ends : ∀ r, Modifier.Ends (name.toList ++ separator :: r)

theorem IsNameBefore.isReadable {separator : Char} (hseparator : separator = ':' ∨ separator = '(')
    {name : String} (h : IsNameBefore separator name) : IsReadableBefore separator name where
  line x hx := by
    refine ⟨(h x hx).1,?_⟩
    rintro rfl
    exact absurd (h '\n' hx).2 (by decide)
  ends r := by
    have hspace : isSpace separator = false := by rcases hseparator with rfl | rfl <;> decide
    refine Modifier.ends_of_mem (fun y hy => (h y hy).2) hspace (Modifier.not_mem_keyword ?_)
    rcases hseparator with rfl | rfl <;> decide

theorem read_name {separator : Char} {ms : List Modifier} {name : String} {c : Cursor}
    {r : List Char} (hseparator : separator = ':' ∨ separator = '(')
    (hname : IsReadableBefore separator name)
    (h : c.rest = Modifier.written ms ++ ' ' :: (name.toList ++ separator :: r)) :
    ∃ c₁ t c₂, Modifier.readAll c = (ms,c₁) ∧
      (Reader.tokenUntil separator).read c₁ = (.ok t,c₂) ∧ t.text = name ∧ c₂.rest = r := by
  have hfeed : separator ≠ '\n' := by rcases hseparator with rfl | rfl <;> decide
  obtain ⟨c₁,hread,hrest⟩ := Modifier.readAll_of_written h (hname.ends r)
  have hstops := (hname.ends r).stops
  have hblank : c₁.rest = [' '] ++ (name.toList ++ separator :: r) := hrest
  have hskip := Cursor.rest_skipSpace hblank (by simp [isSpace]) hstops
  have htoken := Reader.read_tokenUntil hskip hname.line hfeed (by rw [hskip]; exact hstops)
  rw [Reader.tokenUntil_skipSpace] at htoken
  refine ⟨c₁,_,_,hread,htoken,?_,Cursor.rest_advance_length (by simpa using hskip)⟩
  rw [Cursor.token, Cursor.take_length_rest hskip, String.ofList_toList]

/-- What may follow the type of a field. -/
def FieldSketch.initialChars (f : FieldSketch) : List Char :=
  match f.initial? with
  | some value => " = ".toList ++ value.toList
  | none => []

theorem FieldSketch.toList_render (f : FieldSketch) (r : List Char) :
    ' ' :: (f.render.toList ++ r) = Modifier.written f.modifiers ++
      ' ' :: (f.name.toList ++ ':' :: (f.type.chars ++ (f.initialChars ++ r))) := by
  rw [Modifier.written_append]
  unfold render initialChars
  cases f.initial? <;> simp [TypeShape.chars]

/-- Whether a field can be written with any name and type that can be read. -/
def FieldSketch.IsReadable (f : FieldSketch) : Prop :=
  IsReadableBefore ':' f.name ∧ f.type.IsReadable ∧ ∀ value ∈ f.initial?, IsValue value

theorem FieldSketch.IsWritable.isReadable {f : FieldSketch} (h : f.IsWritable) : f.IsReadable :=
  ⟨h.1.isReadable (.inl rfl),h.2.1.isReadable,h.2.2⟩

theorem Field.read_of_render {f : FieldSketch} (hf : f.IsReadable) {c : Cursor} {r : List Char}
    (h : c.rest = ' ' :: (f.render.toList ++ r)) (hr : Stops (· ≠ '\n') r) :
    ∃ x c', Field.reader.read c = (.ok x,c') ∧ x.sketch = f ∧ c'.rest = r := by
  obtain ⟨hname,htype,hinitial⟩ := hf
  rw [f.toList_render] at h
  obtain ⟨c₁,name,c₂,hmodifiers,hnamed,htext,hrest₂⟩ := read_name (.inl rfl) hname h
  obtain ⟨type,hread,hshape⟩ := Descriptor.read_of_chars htype hrest₂
  have hrest₃ := Cursor.rest_advance_length hrest₂
  generalize c₂.advance f.type.chars.length = c₃ at hread hrest₃
  unfold FieldSketch.initialChars at hrest₃
  cases hvalue : f.initial? with
  | none =>
    rw [hvalue] at hrest₃
    rw [List.nil_append] at hrest₃
    have hequal : c₃.expectOnLine? "=" = none := by
      have hstops : Stops isInlineSpace c₃.rest := hrest₃ ▸ Cursor.stops_isInlineSpace hr
      rw [Cursor.expectOnLine?, Cursor.skipInlineSpace, Cursor.skipWhile_of_stops hstops,
        Cursor.literal?, hrest₃]
      cases r with
      | nil => rfl
      | cons x xs =>
        obtain rfl : x = '\n' := by simpa using stops_cons.mp hr
        rfl
    unfold Field.reader
    simp only [Reader.read_bind, Reader.asks, Reader.total, Reader.read_of, hmodifiers, hnamed,
      hread, hequal, Reader.read_pure]
    exact ⟨_,_,rfl,by simp [sketch, htext, hshape, ← hvalue],hrest₃⟩
  | some value =>
    obtain ⟨hline,hne,hfirst,hlast⟩ := hinitial value hvalue
    rw [hvalue] at hrest₃
    have hblank : c₃.rest = [' '] ++ ("=".toList ++ ' ' :: (value.toList ++ r)) := by
      simpa using hrest₃
    obtain ⟨c₄,hequal,hrest₄⟩ := Cursor.expectOnLine?_behind hblank (by simp [isInlineSpace])
      (stops_cons.mpr (by decide))
    obtain ⟨hwritten,hlast'⟩ := Cursor.readRestOfLine_of_rest hrest₄ hline hfirst hlast hr
    rw [String.ofList_toList] at hwritten
    have hfull : value.isEmpty = false := by simpa using hne
    unfold Field.reader
    simp only [Reader.read_bind, Reader.asks, Reader.total, Reader.read_of, hmodifiers, hnamed,
      hread, hequal, hwritten, hfull, Reader.read_pure]
    exact ⟨_,_,rfl,by simp [sketch, htext, hshape, hwritten, ← hvalue],hlast'⟩

theorem MethodSketch.toList_render (m : MethodSketch) (r : List Char) :
    ' ' :: (m.render.toList ++ r) = Modifier.written m.modifiers ++
      ' ' :: (m.name.toList ++ '(' ::
        (m.parameters.flatMap TypeShape.chars ++ ')' :: (m.returnType.chars ++ r))) := by
  rw [Modifier.written_append]
  have hchars : String.toList ∘ TypeShape.raw = TypeShape.chars := rfl
  simp [render, TypeShape.chars, List.flatMap, hchars]

/-- Whether a method can be written with any name and types that can be read. -/
def MethodSketch.IsReadable (m : MethodSketch) : Prop :=
  IsReadableBefore '(' m.name ∧ (∀ t ∈ m.parameters, t.IsReadable) ∧ m.returnType.IsReadable

theorem MethodSketch.IsWritable.isReadable {m : MethodSketch} (h : m.IsWritable) : m.IsReadable :=
  ⟨h.1.isReadable (.inr rfl),fun t ht => (h.2.1 t ht).isReadable,h.2.2.isReadable⟩

theorem Method.read_of_render {m : MethodSketch} (hm : m.IsReadable) {c : Cursor} {r : List Char}
    (h : c.rest = ' ' :: (m.render.toList ++ r)) :
    ∃ x c', Method.reader.read c = (.ok x,c') ∧ x.sketch = m ∧ c'.rest = r := by
  obtain ⟨hname,hparameters,hreturned⟩ := hm
  rw [m.toList_render] at h
  obtain ⟨c₁,name,c₂,hmodifiers,hnamed,htext,hrest₂⟩ := read_name (.inr rfl) hname h
  obtain ⟨ts,hreads,hshapes⟩ := Descriptor.read_parameters hparameters hrest₂
  have hrest₃ : (c₂.advance (m.parameters.flatMap TypeShape.chars ++ [')']).length).rest =
      m.returnType.chars ++ r := Cursor.rest_advance_length (by simpa using hrest₂)
  obtain ⟨t,hread,hshape⟩ := Descriptor.read_of_chars hreturned hrest₃
  unfold Method.reader
  simp only [Reader.read_bind, Reader.asks, Reader.total, Reader.read_of, hmodifiers, hnamed,
    hreads, hread, Reader.read_pure]
  exact ⟨_,_,rfl,by simp [sketch, htext, hshapes, hshape],Cursor.rest_advance_length hrest₃⟩

end SmaliNavigator
