import SmaliNavigator.Member.Reader
import SmaliNavigator.Proofs.Cursor
import SmaliNavigator.Proofs.Symbol.Pattern

/-!
A written reference is read as what it was matched as: from its start the reader takes up the match
and nothing else, and cannot fail.
-/

set_option autoImplicit false

namespace SmaliNavigator

open Text

/-! ### Characters that are no white space -/

/-- White space as a list. -/
def spaces : List Char := [' ','\t','\n','\r','\x0b','\x0c']

theorem mem_spaces {c : Char} (h : isSpace c = true) : c ∈ spaces := by
  simpa [isSpace, spaces, or_assoc] using h

theorem not_isSpace_of {p : Char → Bool} {c : Char} (hc : p c = true)
    (h : spaces.all (fun s => !p s) = true) : isSpace c = false := by
  refine Bool.eq_false_iff.mpr fun hs => ?_
  have hno := List.all_eq_true.mp h c (mem_spaces hs)
  rw [hc] at hno
  cases hno

theorem not_isSpace_of_isClassNameChar {c : Char} (h : Pattern.isClassNameChar c = true) :
    isSpace c = false :=
  not_isSpace_of h (by decide)

theorem not_isSpace_of_isMemberNameChar {c : Char} (h : Pattern.isMemberNameChar c = true) :
    isSpace c = false :=
  not_isSpace_of h (by decide)

/-! ### Types -/

/-- Whether the reader of types takes the written form up as a whole. -/
def TypeShape.IsReadable (t : TypeShape) : Prop :=
  match t.element with
  | .primitive _ => True
  | .object n => n ≠ "" ∧ ∀ c ∈ n.toList, c ≠ ';' ∧ isSpace c = false

theorem TypeShape.IsWritable.isReadable {t : TypeShape} (h : t.IsWritable) : t.IsReadable := by
  unfold IsWritable at h
  unfold IsReadable
  split
  · trivial
  · next n hn =>
    rw [hn] at h
    refine ⟨h.1,fun x hx => ⟨?_,not_isSpace_of_isClassNameChar (h.2 x hx)⟩⟩
    rintro rfl
    exact absurd (h.2 ';' hx) (by decide)

theorem ElementShape.stops_isSpace_raw {e : ElementShape} (r : List Char) :
    Stops isSpace (e.raw.toList ++ r) := by
  cases e with
  | primitive p =>
    rw [ElementShape.toList_raw_primitive]
    refine stops_cons.mpr ?_
    cases p <;> decide
  | object n =>
    rw [ElementShape.toList_raw_object]
    exact stops_cons.mpr (by decide)

theorem TypeShape.stops_isSpace_chars (t : TypeShape) (r : List Char) :
    Stops isSpace (t.chars ++ r) := by
  rw [TypeShape.chars_eq, List.append_assoc]
  cases t.dimensions with
  | zero => exact ElementShape.stops_isSpace_raw r
  | succ n => exact stops_cons.mpr (by decide)

theorem ClassName.ofIdentifier?_raw {n : String} (h : n ≠ "") (span : Span) :
    ofIdentifier? (ElementShape.object n).raw.toList span = some ⟨n,span⟩ := by
  rw [ElementShape.toList_raw_object]
  cases hn : n.toList with
  | nil => exact absurd (by simpa using congrArg String.ofList hn) h
  | cons x xs =>
    have hback : String.ofList (x :: xs) = n := by rw [← hn, String.ofList_toList]
    have hlast : (x :: (xs ++ [';'])).getLast? = some ';' := by
      rw [← List.cons_append, List.getLast?_concat]
    have hfront : (x :: (xs ++ [';'])).dropLast = x :: xs := by
      rw [← List.cons_append, List.dropLast_concat]
    rw [List.cons_append, ofIdentifier?, if_pos ⟨hlast,by simp⟩, hfront, hback]

theorem Element.read_of_raw {c : Cursor} {e : ElementShape} {r : List Char}
    (he : TypeShape.IsReadable ⟨0,e⟩) (h : c.rest = e.raw.toList ++ r) :
    ∃ x, Element.reader.read c = (.ok x,c.advance e.raw.toList.length) ∧ x.shape = e := by
  cases e with
  | primitive p =>
    rw [ElementShape.toList_raw_primitive] at h ⊢
    refine ⟨.primitive p (c.spanTo (c.advance 1)),?_,rfl⟩
    simp [Element.reader, h, Primitive.ofCode?_code]
  | object n =>
    obtain ⟨hne,hall⟩ := he
    refine ⟨.object ⟨n,c.spanTo (c.advance (ElementShape.object n).raw.toList.length)⟩,?_,rfl⟩
    have hrest : c.rest = ('L' :: n.toList) ++ ';' :: r := by
      rw [h, ElementShape.toList_raw_object]
      simp
    have hrun : c.run (fun x => x != ';' && !isSpace x) = ('L' :: n.toList).length := by
      refine Cursor.run_of_stops hrest ?_ (stops_cons.mpr (by decide))
      intro x hx
      rcases List.mem_cons.mp hx with rfl | hx
      · decide
      · simp [hall x hx]
    have hlength : (ElementShape.object n).raw.toList.length = ('L' :: n.toList).length + 1 := by
      rw [ElementShape.toList_raw_object]
      simp
    have htake : c.rest.take (('L' :: n.toList).length + 1) = (ElementShape.object n).raw.toList := by
      rw [← hlength, Cursor.take_length_rest h]
    have hsemi : (c.rest.drop ('L' :: n.toList).length).head? = some ';' := by
      rw [hrest, List.drop_left]
      rfl
    have hcode : c.rest = 'L' :: (n.toList ++ ';' :: r) := hrest
    simp only [Element.reader, Reader.read_of]
    rw [hlength]
    split
    · next hnil => simp [hcode] at hnil
    · next code rest hcons =>
      obtain rfl : code = 'L' := by
        rw [hcode] at hcons
        exact (List.cons.inj hcons).1.symm
      have hnone : Primitive.ofCode? 'L' = none := rfl
      simp only [hnone, if_true, hrun, hsemi, htake, ClassName.ofIdentifier?_raw hne]

theorem Descriptor.read_of_chars {c : Cursor} {t : TypeShape} {r : List Char} (ht : t.IsReadable)
    (h : c.rest = t.chars ++ r) :
    ∃ x, Descriptor.reader.read c = (.ok x,c.advance t.chars.length) ∧ x.shape = t := by
  have hspace : c.skipSpace = c := by
    refine Cursor.skipSpace_of_stops ?_
    rw [h]
    exact t.stops_isSpace_chars r
  have hrest : c.rest = List.replicate t.dimensions '[' ++ (t.element.raw.toList ++ r) := by
    rw [h, TypeShape.chars_eq, List.append_assoc]
  have hrun : c.run (· = '[') = t.dimensions := by
    have hstops : Stops (fun x => decide (x = '[')) (t.element.raw.toList ++ r) := by
      intro x hx
      simpa using Pattern.stops_raw t.element r x hx
    simpa using Cursor.run_of_stops hrest (by simp) hstops
  have hafter : (c.advance t.dimensions).rest = t.element.raw.toList ++ r := by
    rw [Cursor.rest_advance, hrest]
    simp
  obtain ⟨x,hread,hshape⟩ := Element.read_of_raw ht hafter
  have hlength : t.chars.length = t.dimensions + t.element.raw.toList.length := by
    simp [TypeShape.chars_eq]
  rw [Cursor.advance_advance, ← hlength] at hread
  simp only [Descriptor.reader, Reader.read_of, hspace, hrun, hread]
  refine ⟨_,rfl,?_⟩
  split
  · next hzero => simp [shape, Descriptor.dimensions, Descriptor.element, hshape, ← hzero]
  · simp [shape, Descriptor.dimensions, Descriptor.element, hshape]

theorem Reader.read_tokenUntil {c : Cursor} {separator : Char} {name r : List Char}
    (h : c.rest = name ++ separator :: r) (hname : ∀ x ∈ name, x ≠ separator ∧ x ≠ '\n')
    (hseparator : separator ≠ '\n') (hs : Stops isSpace c.rest) :
    (tokenUntil separator).read c =
      (.ok (c.token name.length),c.advance (name ++ [separator]).length) := by
  have hrun : c.run (· ≠ separator) = name.length :=
    Cursor.run_of_stops h (fun x hx => by simpa using (hname x hx).1) (stops_cons.mpr (by simp))
  have hline : (c.rest.takeWhile (· ≠ '\n')).contains separator = true := by
    have hall : ∀ x ∈ name ++ [separator], decide (x ≠ '\n') = true := by
      intro x hx
      rcases List.mem_append.mp hx with hx | hx
      · simpa using (hname x hx).2
      · simpa [List.mem_singleton.mp hx] using hseparator
    rw [h, show name ++ separator :: r = (name ++ [separator]) ++ r by simp,
      List.takeWhile_append_of_pos hall]
    simp
  simp only [tokenUntil, read_of, Cursor.skipSpace_of_stops hs, hline, if_true, hrun,
    List.length_append, List.length_singleton]

/-! ### Lists of parameters -/

theorem TypeShape.chars_ne_closing (t : TypeShape) (r : List Char) :
    ∃ x xs, t.chars ++ r = x :: xs ∧ x ≠ ')' ∧ isSpace x = false := by
  rw [TypeShape.chars_eq, List.append_assoc]
  cases t.dimensions with
  | succ n => exact ⟨_,_,rfl,by decide,by decide⟩
  | zero =>
    cases t.element with
    | primitive p =>
      rw [ElementShape.toList_raw_primitive]
      refine ⟨_,_,rfl,?_,?_⟩ <;> cases p <;> decide
    | object n =>
      rw [ElementShape.toList_raw_object]
      exact ⟨_,_,rfl,by decide,by decide⟩

theorem Descriptor.readParametersUpTo_of_chars {c : Cursor} {ts : List TypeShape} {fuel : Nat}
    {r : List Char} (hts : ∀ t ∈ ts, t.IsReadable) (hfuel : ts.length < fuel)
    (h : c.rest = ts.flatMap TypeShape.chars ++ ')' :: r) :
    ∃ xs, readParametersUpTo fuel c =
        (.ok xs,c.advance ((ts.flatMap TypeShape.chars).length + 1)) ∧
      xs.map Descriptor.shape = ts := by
  induction ts generalizing c fuel with
  | nil =>
    obtain ⟨fuel,rfl⟩ : ∃ n, fuel = n + 1 := ⟨fuel - 1,by simp at hfuel; omega⟩
    have hrest : c.rest = ')' :: r := h
    have hspace : c.skipInlineSpace = c := by
      refine Cursor.skipInlineSpace_of_stops ?_
      rw [hrest]
      exact stops_cons.mpr (by decide)
    refine ⟨[],?_,rfl⟩
    simp [readParametersUpTo, hspace, hrest]
  | cons t ts ih =>
    obtain ⟨fuel,rfl⟩ : ∃ n, fuel = n + 1 := ⟨fuel - 1,by simp at hfuel; omega⟩
    have hrest : c.rest = t.chars ++ (ts.flatMap TypeShape.chars ++ ')' :: r) := by
      rw [h, List.flatMap_cons, List.append_assoc]
    obtain ⟨y,ys,hhead,hclosing,hblank⟩ :=
      t.chars_ne_closing (ts.flatMap TypeShape.chars ++ ')' :: r)
    have hspace : c.skipInlineSpace = c := by
      refine Cursor.skipInlineSpace_of_stops ?_
      rw [hrest, hhead]
      exact stops_cons.mpr hblank
    obtain ⟨x,hread,hshape⟩ := Descriptor.read_of_chars (hts t (by simp)) hrest
    have hless : ts.length < fuel := by simpa using hfuel
    obtain ⟨xs,hreads,hshapes⟩ := ih (c := c.advance t.chars.length)
      (fun u hu => hts u (by simp [hu])) hless (Cursor.rest_advance_length hrest)
    refine ⟨x :: xs,?_,by simp [hshape, hshapes]⟩
    rw [Cursor.advance_advance] at hreads
    have hline : ¬(y = '\n' ∨ y = '\r') := by
      rintro (rfl | rfl) <;> exact absurd hblank (by decide)
    rw [hhead] at hrest
    simp only [readParametersUpTo, hspace, hrest, hclosing, hline, if_false, hread, hreads]
    rw [List.flatMap_cons, List.length_append, Nat.add_assoc]

theorem Descriptor.read_parameters {c : Cursor} {ts : List TypeShape} {r : List Char}
    (hts : ∀ t ∈ ts, t.IsReadable) (h : c.rest = ts.flatMap TypeShape.chars ++ ')' :: r) :
    ∃ xs, parametersReader.read c =
        (.ok xs,c.advance (ts.flatMap TypeShape.chars ++ [')']).length) ∧
      xs.map Descriptor.shape = ts := by
  rw [List.length_append]
  refine readParametersUpTo_of_chars hts ?_ h
  have hlength := Pattern.length_le_flatMap ts
  rw [h, List.length_append]
  omega

/-! ### References -/

theorem Descriptor.map_raw {xs : List Descriptor} {ts : List TypeShape}
    (h : xs.map Descriptor.shape = ts) : xs.map Descriptor.raw = ts.map TypeShape.raw := by
  rw [← h, List.map_map]
  exact List.map_congr_left fun x _ => x.raw_shape.symm

theorem TypeShape.IsOwner.isSome_className? {t : TypeShape} (h : t.IsOwner) {x : Descriptor}
    (hx : x.shape = t) : x.className?.isNone = false := by
  obtain ⟨_,n,hn⟩ := h
  rw [← hx] at hn
  unfold Descriptor.className?
  change x.element.shape = .object n at hn
  cases he : x.element with
  | primitive p s => simp [he, Element.shape] at hn
  | object m => rfl

theorem read_ownerReader {c : Cursor} {t : TypeShape} {r : List Char} (ht : t.IsOwner)
    (h : c.rest = t.chars ++ ("->".toList ++ r)) :
    ∃ x, ownerReader.read c = (.ok x,c.advance (t.chars ++ "->".toList).length) ∧ x.shape = t := by
  obtain ⟨x,hread,hshape⟩ := Descriptor.read_of_chars ht.1.isReadable h
  refine ⟨x,?_,hshape⟩
  have harrow := Cursor.rest_advance_length h
  have hspace : Stops isSpace (c.advance t.chars.length).rest := by
    rw [harrow]
    exact stops_cons.mpr (by decide)
  unfold ownerReader
  rw [Reader.read_bind, hread]
  simp only [ht.isSome_className? hshape]
  rw [List.length_append, ← Cursor.advance_advance]
  simp [Cursor.expect?_of_rest harrow hspace]

theorem IsMemberName.not_separator {name : List Char} (h : IsMemberName name) {separator : Char}
    (hs : Pattern.isMemberNameChar separator = false) :
    ∀ x ∈ name, x ≠ separator ∧ x ≠ '\n' := by
  intro x hx
  have hchar := h.2 x hx
  constructor
  · rintro rfl
    rw [hs] at hchar
    cases hchar
  · rintro rfl
    exact absurd hchar (by decide)

theorem IsMemberName.stops {name : List Char} (h : IsMemberName name) (r : List Char) :
    Stops isSpace (name ++ r) := by
  obtain ⟨hne,hname⟩ := h
  cases name with
  | nil => simp at hne
  | cons x xs => exact stops_cons.mpr (not_isSpace_of_isMemberNameChar (hname x (by simp)))

theorem read_ownerAndName {c : Cursor} {owner : TypeShape} {name r : List Char} {separator : Char}
    (howner : owner.IsOwner) (hname : ∀ x ∈ name, x ≠ separator ∧ x ≠ '\n')
    (hstops : Stops isSpace (name ++ separator :: r)) (hseparator : separator ≠ '\n')
    (h : c.rest = owner.chars ++ ("->".toList ++ (name ++ separator :: r))) :
    ∃ x c₁ t c₂, ownerReader.read c = (.ok x,c₁) ∧
      (Reader.tokenUntil separator).read c₁ = (.ok t,c₂) ∧ x.shape = owner ∧
      t.text = String.ofList name ∧ c₂.rest = r ∧
      c₂ = c.advance (owner.chars ++ "->".toList ++ (name ++ [separator])).length := by
  obtain ⟨x,hx,hshape⟩ := read_ownerReader howner h
  have hrest₁ : (c.advance (owner.chars ++ "->".toList).length).rest = name ++ separator :: r :=
    Cursor.rest_advance_length (by simpa using h)
  have hread := Reader.read_tokenUntil hrest₁ hname hseparator (by rw [hrest₁]; exact hstops)
  refine ⟨x,_,_,_,hx,hread,hshape,?_,Cursor.rest_advance_length (by simpa using hrest₁),?_⟩
  · rw [Cursor.token, Cursor.take_length_rest hrest₁]
  · rw [Cursor.advance_append]

/-- Where a line has a reference to a field, that reference is read and nothing more. -/
theorem FieldReference.read_of_isFieldReference {c : Cursor} {key r : List Char}
    (hkey : IsFieldReference key) (h : c.rest = key ++ r) :
    ∃ x, FieldReference.reader.read c = (.ok x,c.advance key.length) ∧
      x.field.span = c.spanTo (c.advance key.length) ∧ x.key = String.ofList key := by
  obtain ⟨owner,type,name,howner,htype,hname,rfl⟩ := hkey
  have hwhole : c.rest = owner.chars ++ ("->".toList ++ (name ++ ':' :: (type.chars ++ r))) := by
    simpa using h
  obtain ⟨x,c₁,t,c₂,hx,ht,hxs,htext,hrest,hc₂⟩ := read_ownerAndName howner
    (hname.not_separator (by decide)) (hname.stops _) (by decide) hwhole
  obtain ⟨y,hy,hys⟩ := Descriptor.read_of_chars htype.isReadable hrest
  have hend : c₂.advance type.chars.length =
      c.advance (owner.chars ++ "->".toList ++ name ++ ':' :: type.chars).length := by
    rw [hc₂, Cursor.advance_append]
    simp only [List.append_assoc, List.singleton_append]
  rw [hend] at hy
  unfold FieldReference.reader
  simp only [Reader.read_bind, Reader.asks, Reader.total, Reader.read_of, hx, ht, hy,
    Reader.read_pure]
  refine ⟨_,rfl,rfl,?_⟩
  rw [FieldReference.key, Field.key, Field.descriptor, htext, ← x.raw_shape, ← y.raw_shape, hxs, hys]
  apply String.toList_inj.mp
  simp [referenceKey, TypeShape.chars]

theorem IsMethodName.not_separator {name : List Char} (h : IsMethodName name) :
    ∀ x ∈ name, x ≠ '(' ∧ x ≠ '\n' := by
  have hfixed {name : List Char} (h : name.all (fun x => x != '(' && x != '\n') = true) :
      ∀ x ∈ name, x ≠ '(' ∧ x ≠ '\n' := by
    intro x hx
    simpa using List.all_eq_true.mp h x hx
  rcases h with h | rfl | rfl
  · exact h.not_separator (by decide)
  · exact hfixed (by decide)
  · exact hfixed (by decide)

theorem IsMethodName.stops {name : List Char} (h : IsMethodName name) (r : List Char) :
    Stops isSpace (name ++ r) := by
  rcases h with h | rfl | rfl
  · exact h.stops r
  · exact stops_cons.mpr (by decide)
  · exact stops_cons.mpr (by decide)

/-- Where a line has a reference to a method, that reference is read and nothing more. -/
theorem MethodReference.read_of_isMethodReference {c : Cursor} {key r : List Char}
    (hkey : IsMethodReference key) (h : c.rest = key ++ r) :
    ∃ x, MethodReference.reader.read c = (.ok x,c.advance key.length) ∧
      x.method.span = c.spanTo (c.advance key.length) ∧ x.key = String.ofList key := by
  obtain ⟨owner,returned,ts,name,howner,hreturned,hts,hname,rfl⟩ := hkey
  have hwhole : c.rest = owner.chars ++ ("->".toList ++ (name ++
      '(' :: (ts.flatMap TypeShape.chars ++ ')' :: (returned.chars ++ r)))) := by
    simpa using h
  obtain ⟨x,c₁,t,c₂,hx,ht,hxs,htext,hrest,hc₂⟩ := read_ownerAndName howner hname.not_separator
    (hname.stops _) (by decide) hwhole
  obtain ⟨ys,hys,hyss⟩ := Descriptor.read_parameters (fun t ht => (hts t ht).isReadable) hrest
  -- the place behind the closing parenthesis
  generalize hc₃ : c₂.advance (ts.flatMap TypeShape.chars ++ [')']).length = c₃ at hys
  have hrest₃ : c₃.rest = returned.chars ++ r := by
    rw [← hc₃]
    exact Cursor.rest_advance_length (by simpa using hrest)
  obtain ⟨z,hz,hzs⟩ := Descriptor.read_of_chars hreturned.isReadable hrest₃
  have hend : c₃.advance returned.chars.length =
      c.advance (owner.chars ++ "->".toList ++ name ++
        '(' :: (ts.flatMap TypeShape.chars ++ ')' :: returned.chars)).length := by
    rw [← hc₃, hc₂, Cursor.advance_append, Cursor.advance_append]
    simp only [List.append_assoc, List.cons_append, List.nil_append]
  rw [hend] at hz
  unfold MethodReference.reader
  simp only [Reader.read_bind, Reader.asks, Reader.total, Reader.read_of, hx, ht, hys, hz,
    Reader.read_pure]
  refine ⟨_,rfl,rfl,?_⟩
  rw [MethodReference.key, Method.key, Method.descriptor, htext, ← x.raw_shape, ← z.raw_shape, hxs,
    hzs, Descriptor.map_raw hyss]
  apply String.toList_inj.mp
  simp only [referenceKey, TypeShape.chars, String.toList_append, String.toList_join,
    String.toList_ofList, List.map_map, List.flatMap, String.reduceToList]
  simp only [List.append_assoc, List.cons_append, List.nil_append]
  rfl

end SmaliNavigator
