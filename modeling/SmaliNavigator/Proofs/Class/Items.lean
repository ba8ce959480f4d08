import SmaliNavigator.Proofs.Class.References

/-!
The items of a file with their keywords. The reader of a file does not keep its keywords; here the same
items are read along with them, and each item is what its reader gives behind the keyword.
-/

set_option autoImplicit false

namespace SmaliNavigator

variable {d : Document}

namespace Class

/-- The items up to the end of the text, each with its keyword. -/
def keywordItems : (fuel : Nat) → Cursor → Except Diagnostic (List (Token × BodyItem))
  | 0, _ => .ok []
  | fuel + 1, c =>
    let (keyword,c) := c.readToken
    if keyword.text.isEmpty then .ok []
    else do
      let (item?,c) ← readItem keyword c
      let items ← keywordItems fuel c
      return item?.toList.map (keyword,·) ++ items

theorem readItems_eq_keywordItems (fuel : Nat) (c : Cursor) :
    readItems fuel c = (·.map Prod.snd) <$> keywordItems fuel c := by
  induction fuel generalizing c with
  | zero => rfl
  | succ fuel ih =>
    simp only [readItems, keywordItems]
    split
    · rfl
    · cases readItem c.readToken.1 c.readToken.2 with
      | error e => rfl
      | ok x =>
        obtain ⟨item?,c'⟩ := x
        simp only [bind, Except.bind, ih]
        cases keywordItems fuel c' with
        | error e => rfl
        | ok items =>
          simp [pure, Except.pure, Functor.map, Except.map, Function.comp_def]

/-- The head and the items of a file, each item with its keyword. -/
def keyworded (d : Document) : Except Diagnostic (Header × List (Token × BodyItem)) := do
  let (header,c) ← readHeader (.start d)
  let items ← keywordItems (c.rest.length + 1) c
  return (header,items)

theorem ofDocument_eq_keyworded (d : Document) :
    ofDocument d = (fun x => assemble d x.1 (x.2.map Prod.snd)) <$> keyworded d := by
  unfold ofDocument keyworded
  cases readHeader (.start d) with
  | error e => rfl
  | ok x =>
    obtain ⟨header,c⟩ := x
    simp only [bind, Except.bind, readItems_eq_keywordItems]
    cases keywordItems (c.rest.length + 1) c <;> rfl

/-- How a declaration is read behind its keyword. The reader of a method's signature knows no
body. -/
def DeclaredAt (keyword : Token) (c : Cursor) : BodyItem → Prop
  | .interface _ => True
  | .field f => keyword.text = ".field" ∧ Field.reader.value c = .ok f
  | .method m _ =>
    keyword.text = ".method" ∧ Method.reader.value c = .ok { m with body? := none }

theorem body?_of_reader :
    Reader.Triple (fun _ => True) Method.reader fun m _ => m.body? = none :=
  (Reader.triple_asks _).bind fun _ => Reader.triple_keeps.bind fun _ =>
    Reader.triple_keeps.bind fun _ => Reader.triple_keeps.bind fun _ =>
    Reader.triple_keeps.bind fun _ => Reader.triple_pure fun _ _ => rfl

theorem declaredAt_readMethod {keyword : Token} {c : Cursor} (hk : keyword.text = ".method") :
    Gives (fun x => DeclaredAt keyword c x.1) (readMethod keyword.span.start.line c) := by
  unfold readMethod
  rcases hd : Method.reader.read c with ⟨signature,c₁⟩
  cases signature with
  | error e => exact .error e
  | ok m =>
    have hbody : ∀ body, { { m with body? := body } with body? := none } = m := by
      intro body
      rw [← body?_of_reader c m c₁ trivial hd]
    refine .bind (.ok rfl : Gives (· = m) _) fun x hx => .always fun _ => .ok ?_
    exact ⟨hk,by rw [hx, hbody, Reader.value, hd]⟩

theorem declaredAt_readItem (keyword : Token) (c : Cursor) :
    Gives (fun x => ∀ i ∈ x.1, DeclaredAt keyword c i) (readItem keyword c) := by
  unfold readItem
  split
  · rcases Descriptor.reader.read c with ⟨type,c₁⟩
    exact .always fun t => .ok (by simp [DeclaredAt])
  · exact .always fun _ => .ok (by simp)
  · next hk =>
    rcases hd : Field.reader.read c with ⟨field,c₁⟩
    cases field with
    | error e => exact .error e
    | ok f => exact .ok (by simp [DeclaredAt, hk, Reader.value, hd])
  · next hk =>
    exact .bind (declaredAt_readMethod hk) fun x hx => .ok (by simpa using hx)
  · exact .ok (by simp)

theorem readItem_of_mem_keywordItems {c : Cursor} (fuel : Nat) (h : c.Past d []) :
    Gives (fun items => ∀ x ∈ items, ∃ c' after : Cursor, c'.On d ∧ c'.peekToken = x.1 ∧
      readItem x.1 c'.readToken.2 = .ok (some x.2,after)) (keywordItems fuel c) := by
  induction fuel generalizing c with
  | zero => exact .ok (by simp)
  | succ fuel ih =>
    simp only [keywordItems]
    split
    · exact .ok (by simp)
    · have hpast := gives_readItem (keeps_past d) c.readToken.1 (h.reaches (.readToken c))
      refine Gives.bind (fun x hx => And.intro hx (hpast x hx).forget) fun x hx => ?_
      refine .bind (ih hx.2) fun items hitems => .ok fun y hy => ?_
      rcases List.mem_append.mp hy with hy | hy
      · obtain ⟨i,hi,rfl⟩ := List.mem_map.mp hy
        refine ⟨c,x.2,h.on,rfl,?_⟩
        rw [hx.1, ← Option.mem_toList.mp hi]
      · exact hitems y hy

theorem readItem_of_mem_keyworded {x : Header × List (Token × BodyItem)} (h : keyworded d = .ok x)
    {k : Token} {i : BodyItem} (hi : (k,i) ∈ x.2) :
    ∃ c after : Cursor, c.On d ∧ c.peekToken = k ∧ readItem k c.readToken.2 = .ok (some i,after) := by
  have hall : Gives (fun x : Header × List (Token × BodyItem) => ∀ y ∈ x.2, ∃ c after : Cursor,
      c.On d ∧ c.peekToken = y.1 ∧ readItem y.1 c.readToken.2 = .ok (some y.2,after))
      (keyworded d) := by
    unfold keyworded
    refine .bind (gives_readHeader (keeps_past d) (.start d)) fun x hx => ?_
    exact .bind (readItem_of_mem_keywordItems _ hx.forget) fun items hitems => .ok hitems
  exact hall x h (k,i) hi

theorem declaredAt_keyworded {x : Header × List (Token × BodyItem)} (h : keyworded d = .ok x)
    {k : Token} {i : BodyItem} (hi : (k,i) ∈ x.2) :
    ∃ c : Cursor, c.On d ∧ c.peekToken = k ∧ DeclaredAt k c.readToken.2 i := by
  obtain ⟨c,after,hc,hpeek,hread⟩ := readItem_of_mem_keyworded h hi
  exact ⟨c,hc,hpeek,declaredAt_readItem k c.readToken.2 _ hread i rfl⟩

theorem exists_keyworded {c : Class} (h : ofDocument d = .ok c) :
    ∃ x, keyworded d = .ok x ∧ c = assemble d x.1 (x.2.map Prod.snd) := by
  rw [ofDocument_eq_keyworded] at h
  cases hx : keyworded d with
  | error e =>
    rw [hx] at h
    cases h
  | ok x =>
    rw [hx] at h
    cases h
    exact ⟨x,rfl,rfl⟩

theorem exists_item_of_mem_fields {c : Class} (h : ofDocument d = .ok c) {f : Field}
    (hf : f ∈ c.fields) : ∃ x k, keyworded d = .ok x ∧ (k,.field f) ∈ x.2 := by
  obtain ⟨x,hread,rfl⟩ := exists_keyworded h
  obtain ⟨i,hi,hfield⟩ := List.mem_filterMap.mp hf
  obtain ⟨⟨k,i⟩,hitem,rfl⟩ := List.mem_map.mp hi
  obtain rfl : i = .field f := by
    cases i <;> simp_all [BodyItem.field?]
  exact ⟨x,k,hread,hitem⟩

theorem exists_item_of_mem_allMethods {c : Class} (h : ofDocument d = .ok c) {m : Method}
    (hm : m ∈ c.allMethods) : ∃ x k rs, keyworded d = .ok x ∧ (k,.method m rs) ∈ x.2 := by
  obtain ⟨x,hread,rfl⟩ := exists_keyworded h
  have hitems : m ∈ (x.2.map Prod.snd).filterMap BodyItem.method? := by
    rcases List.mem_append.mp hm with hm | hm <;> exact (List.mem_filter.mp hm).1
  obtain ⟨i,hi,hmethod⟩ := List.mem_filterMap.mp hitems
  obtain ⟨⟨k,i⟩,hitem,rfl⟩ := List.mem_map.mp hi
  obtain ⟨rs,rfl⟩ : ∃ rs, i = .method m rs := by
    cases i <;> simp_all [BodyItem.method?]
  exact ⟨x,k,rs,hread,hitem⟩

end Class

end SmaliNavigator
