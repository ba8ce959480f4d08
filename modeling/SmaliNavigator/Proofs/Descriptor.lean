import SmaliNavigator.Class.Sketch
import SmaliNavigator.Proofs.Class.References

/-!
Descriptors and their written forms. The written form tells the type, and a document is read as a type
exactly if the whole of its text is taken as one, where the text has no white space: one of the two
readers looks for the semicolon at the end, and the other one for the first.
-/

set_option autoImplicit false

namespace SmaliNavigator

open Text

/-! ### Written forms -/

theorem ElementShape.raw_inj {d e : ElementShape} : d.raw = e.raw ↔ d = e := by
  refine ⟨fun h => ?_,fun h => h ▸ rfl⟩
  have hchars := congrArg String.toList h
  cases d with
  | primitive p =>
    cases e with
    | primitive q =>
      rw [toList_raw_primitive, toList_raw_primitive] at hchars
      have hcode := congrArg Primitive.ofCode? (List.singleton_inj.mp hchars)
      rw [Primitive.ofCode?_code, Primitive.ofCode?_code] at hcode
      exact congrArg primitive (Option.some.inj hcode)
    | object n =>
      rw [toList_raw_primitive, toList_raw_object] at hchars
      simp at hchars
  | object m =>
    cases e with
    | primitive q =>
      rw [toList_raw_object, toList_raw_primitive] at hchars
      simp at hchars
    | object n =>
      rw [toList_raw_object, toList_raw_object] at hchars
      have hname := List.append_cancel_right (List.cons.inj hchars).2
      exact congrArg object (String.toList_inj.mp hname)

/-- A written form has its dimensions in front, and no element goes on with one more. -/
theorem TypeShape.raw_inj {t u : TypeShape} : t.raw = u.raw ↔ t = u := by
  refine ⟨fun h => ?_,fun h => h ▸ rfl⟩
  have hchars : t.chars = u.chars := congrArg String.toList h
  rw [chars_eq, chars_eq] at hchars
  have hrun (n : Nat) (e : ElementShape) :
      (List.replicate n '[' ++ e.raw.toList).takeWhile (· == '[') = List.replicate n '[' := by
    have hstops := Pattern.stops_raw e []
    rw [List.append_nil] at hstops
    exact takeWhile_append_stops (by simp) hstops
  have hfront := congrArg (List.takeWhile (· == '[')) hchars
  rw [hrun, hrun] at hfront
  have hdimensions : t.dimensions = u.dimensions := by simpa using congrArg List.length hfront
  rw [hfront] at hchars
  have helement := ElementShape.raw_inj.mp (String.toList_inj.mp (List.append_cancel_left hchars))
  cases t
  cases u
  exact (TypeShape.mk.injEq ..).mpr ⟨hdimensions,helement⟩

/-! ### The same type -/

theorem Element.same_congr {d e : Element} (h : d.same e = true) (t : Element) :
    t.same d = t.same e := by
  rw [Bool.eq_iff_iff, same_iff, same_iff, (same_iff d e).mp h]

namespace Descriptor

/-- An array that has a dimension, or a type that is no array. -/
def IsProper : Descriptor → Prop
  | single _ => True
  | array _ n _ => 0 < n

section Same

variable {d e : Descriptor}

theorem shape_congr (h : d.same e = true) : d.shape = e.shape := by
  cases d with
  | single d =>
    cases e with
    | single e => exact congrArg (TypeShape.mk 0) ((Element.same_iff d e).mp h)
    | array e n _ => cases h
  | array d m _ =>
    cases e with
    | single e => cases h
    | array e n _ =>
      obtain ⟨hdimensions,helement⟩ := Bool.and_eq_true_iff.mp h
      exact (TypeShape.mk.injEq ..).mpr ⟨eq_of_beq hdimensions,(Element.same_iff d e).mp helement⟩

theorem raw_congr (h : d.same e = true) : d.raw = e.raw := by
  rw [← raw_shape, ← raw_shape, shape_congr h]

theorem same_congr (h : d.same e = true) (t : Descriptor) : t.same d = t.same e := by
  cases d with
  | single d =>
    cases e with
    | single e => cases t <;> simp only [same, Element.same_congr h]
    | array e n _ => cases h
  | array d m _ =>
    cases e with
    | single e => cases h
    | array e n _ =>
      obtain ⟨hdimensions,helement⟩ := Bool.and_eq_true_iff.mp h
      obtain rfl := eq_of_beq hdimensions
      cases t <;> simp only [same, Element.same_congr helement]

theorem IsProper.same_of_shape (hd : d.IsProper) (he : e.IsProper) (h : d.shape = e.shape) :
    d.same e = true := by
  obtain ⟨hdimensions,helement⟩ := TypeShape.mk.inj h
  cases d with
  | single d =>
    cases e with
    | single e => exact (Element.same_iff d e).mpr helement
    | array e n _ => exact absurd hdimensions (Nat.ne_of_lt he)
  | array d m _ =>
    cases e with
    | single e => exact absurd hdimensions (Nat.ne_of_gt hd)
    | array e n _ =>
      exact Bool.and_eq_true_iff.mpr ⟨beq_iff_eq.mpr hdimensions,(Element.same_iff d e).mpr helement⟩

theorem IsProper.same_iff (hd : d.IsProper) (he : e.IsProper) : d.same e = true ↔ d.raw = e.raw := by
  refine ⟨raw_congr,fun h => hd.same_of_shape he ?_⟩
  rw [← raw_shape, ← raw_shape] at h
  exact TypeShape.raw_inj.mp h

end Same

/-! ### Lists of types -/

theorem isEqv_congr {ds es : List Descriptor} (h : ds.isEqv es same = true)
    (ts : List Descriptor) : ts.isEqv ds same = ts.isEqv es same := by
  induction ts generalizing ds es with
  | nil => cases ds <;> cases es <;> first | rfl | cases h
  | cons t ts ih =>
    cases ds with
    | nil =>
      cases es with
      | nil => rfl
      | cons e es => cases h
    | cons d ds =>
      cases es with
      | nil => cases h
      | cons e es =>
        obtain ⟨hfirst,hrest⟩ := Bool.and_eq_true_iff.mp h
        simp only [List.isEqv, same_congr hfirst, ih hrest]

theorem map_shape_congr {ds es : List Descriptor} (h : ds.isEqv es same = true) :
    ds.map shape = es.map shape := by
  induction ds generalizing es with
  | nil =>
    cases es with
    | nil => rfl
    | cons e es => cases h
  | cons d ds ih =>
    cases es with
    | nil => cases h
    | cons e es =>
      obtain ⟨hfirst,hrest⟩ := Bool.and_eq_true_iff.mp h
      rw [List.map_cons, List.map_cons, shape_congr hfirst, ih hrest]

theorem isEqv_of_map_shape {ds es : List Descriptor} (hd : ∀ d ∈ ds, d.IsProper)
    (he : ∀ e ∈ es, e.IsProper) (h : ds.map shape = es.map shape) : ds.isEqv es same = true := by
  induction ds generalizing es with
  | nil =>
    obtain rfl : es = [] := by simpa using h.symm
    rfl
  | cons d ds ih =>
    obtain ⟨e,es,rfl,hfirst,hrest⟩ := List.map_eq_cons_iff.mp h.symm
    have hsame := (hd d (by simp)).same_of_shape (he e (by simp)) hfirst.symm
    have hsames := ih (fun d hd' => hd d (by simp [hd'])) (fun e he' => he e (by simp [he'])) hrest.symm
    exact Bool.and_eq_true_iff.mpr ⟨hsame,hsames⟩

end Descriptor

/-! ### A text as a whole -/

/-- Whether the class of a type, if it has one, has a name without a semicolon. -/
def TypeShape.IsDelimited (t : TypeShape) : Prop :=
  match t.element with
  | .primitive _ => True
  | .object n => n ≠ "" ∧ ';' ∉ n.toList

/-- The part of the whole-text reader behind the dimensions. -/
def Element.ofChars? : List Char → Option Element
  | [] => none
  | [c] => (Primitive.ofCode? c).map (primitive · .origin)
  | rest =>
    if rest.dropLast.contains ';' then none
    else (ClassName.ofIdentifier? rest .origin).map object

theorem Element.of_ofChars? {cs : List Char} {e : Element} (h : ofChars? cs = some e) :
    e.shape.raw.toList = cs ∧ TypeShape.IsDelimited ⟨0,e.shape⟩ := by
  unfold ofChars? at h
  split at h
  · cases h
  · next c =>
    obtain ⟨p,hp,rfl⟩ := Option.map_eq_some_iff.mp h
    rw [Element.shape, ElementShape.toList_raw_primitive, Primitive.code_of_ofCode? hp]
    exact ⟨rfl,trivial⟩
  · split at h
    · cases h
    · next hsemi =>
      obtain ⟨n,hn,rfl⟩ := Option.map_eq_some_iff.mp h
      obtain ⟨hid,-,body,hne,rfl⟩ := ClassName.of_ofIdentifier? hn
      obtain rfl : n.internal.toList = body := by simpa [ClassName.identifier] using hid
      refine ⟨ElementShape.toList_raw_object _,fun hempty => hne (by simp [hempty]),?_⟩
      rw [← List.cons_append, List.dropLast_concat] at hsemi
      simpa using hsemi

theorem Element.ofChars?_raw {e : ElementShape} (h : TypeShape.IsDelimited ⟨0,e⟩) :
    ∃ x, ofChars? e.raw.toList = some x ∧ x.shape = e := by
  cases e with
  | primitive p =>
    rw [ElementShape.toList_raw_primitive]
    exact ⟨.primitive p .origin,by simp [ofChars?, Primitive.ofCode?_code],rfl⟩
  | object n =>
    refine ⟨.object ⟨n,.origin⟩,?_,rfl⟩
    have hsemi : (ElementShape.object n).raw.toList.dropLast.contains ';' = false := by
      rw [ElementShape.toList_raw_object, ← List.cons_append, List.dropLast_concat]
      simpa using h.2
    have hname := ClassName.ofIdentifier?_raw h.1 .origin
    have hlength : 1 < (ElementShape.object n).raw.toList.length := by
      simp [ElementShape.toList_raw_object]
    unfold ofChars?
    split
    · next hnil => simp [hnil] at hlength
    · next hone => simp [hone] at hlength
    · rw [hsemi, hname]
      rfl

namespace Descriptor

section Dimensions

variable (e : Element) (n : Nat) (span : Span)

theorem isProper_ite : (if n = 0 then single e else array e n span).IsProper := by
  split
  · trivial
  · next hne => exact Nat.pos_of_ne_zero hne

theorem shape_ite : (if n = 0 then single e else array e n span).shape = ⟨n,e.shape⟩ := by
  split
  · next hzero =>
    subst hzero
    rfl
  · rfl

end Dimensions

theorem exists_dimensions (cs : List Char) :
    ∃ n rest, cs = List.replicate n '[' ++ rest ∧ Stops (· = '[') rest := by
  have hall : ∀ c ∈ cs.takeWhile (· = '['), c = '[' := fun c hc => by
    simpa using of_mem_takeWhile hc
  refine ⟨(cs.takeWhile (· = '[')).length,cs.dropWhile (· = '['),?_,stops_dropWhile _ cs⟩
  rw [← List.eq_replicate_of_mem hall, List.takeWhile_append_dropWhile]

theorem ofChars?_append {n : Nat} {rest : List Char} (h : Stops (· = '[') rest) :
    ofChars? (List.replicate n '[' ++ rest) = (Element.ofChars? rest).map fun e =>
      if n = 0 then single e else array e n .origin := by
  have hfront : (List.replicate n '[' ++ rest).takeWhile (· = '[') = List.replicate n '[' :=
    takeWhile_append_stops (by simp) h
  have hback : (List.replicate n '[' ++ rest).drop n = rest := List.drop_left' (by simp)
  simp only [ofChars?, hfront, List.length_replicate, hback]
  rfl

theorem exists_of_ofChars? {cs : List Char} {t : Descriptor} (h : ofChars? cs = some t) :
    t.IsProper ∧ t.shape.chars = cs ∧ t.shape.IsDelimited := by
  obtain ⟨n,rest,rfl,hrest⟩ := exists_dimensions cs
  rw [ofChars?_append hrest] at h
  obtain ⟨e,he,rfl⟩ := Option.map_eq_some_iff.mp h
  obtain ⟨hchars,hdelimited⟩ := Element.of_ofChars? he
  refine ⟨isProper_ite e n .origin,?_,?_⟩
  · rw [shape_ite, TypeShape.chars_eq, hchars]
  · rw [shape_ite]
    exact hdelimited

theorem ofChars?_chars {t : TypeShape} (h : t.IsDelimited) :
    ∃ x, ofChars? t.chars = some x ∧ x.shape = t := by
  obtain ⟨n,e⟩ := t
  obtain ⟨x,hx,hshape⟩ := Element.ofChars?_raw h
  have hstops : Stops (· = '[') e.raw.toList := fun c hc => by
    simpa using Pattern.stops_raw e [] c (by simpa using hc)
  refine ⟨_,?_,shape_ite x n .origin |>.trans (by rw [hshape])⟩
  rw [TypeShape.chars_eq, ofChars?_append hstops, hx]
  rfl

/-! ### Both readers -/

variable {c c' : Cursor} {t : Descriptor}

theorem isProper_of_read (h : reader.read c = (.ok t,c')) : t.IsProper := by
  simp only [reader, Reader.read_of] at h
  split at h
  · cases h
    exact isProper_ite ..
  · cases h

theorem isReadable_of_read (h : reader.read c = (.ok t,c')) : t.shape.IsReadable := by
  unfold TypeShape.IsReadable
  split
  · trivial
  · next n hn =>
    obtain ⟨name,hname,rfl⟩ : ∃ name, t.element = .object name ∧ name.internal = n := by
      change t.element.shape = .object n at hn
      cases he : t.element with
      | primitive p s => simp [he, Element.shape] at hn
      | object name => exact ⟨name,rfl,by simpa [he, Element.shape] using hn⟩
    have hid : t.classIdentifier? = some name.identifier := by
      simp [classIdentifier?, className?, hname, Element.className?]
    obtain ⟨body,hne,hbody,hkey⟩ := isClassKey_of_read h hid
    obtain rfl : name.internal.toList = body := by simpa [ClassName.identifier] using hkey
    exact ⟨fun hempty => hne (by simp [hempty]),hbody⟩

/-- Whether a type is one that a reader gives. -/
def IsRead (t : Descriptor) : Prop :=
  (∃ s, ofString? s = some t) ∨ ∃ c c', reader.read c = (.ok t,c')

theorem IsRead.isProper (h : t.IsRead) : t.IsProper := by
  rcases h with ⟨s,hs⟩ | ⟨c,c',hread⟩
  · exact (exists_of_ofChars? hs).1
  · exact isProper_of_read hread

end Descriptor

theorem TypeShape.IsReadable.isDelimited {t : TypeShape} (h : t.IsReadable) : t.IsDelimited := by
  unfold IsReadable at h
  unfold IsDelimited
  split
  · trivial
  · next n hn =>
    rw [hn] at h
    exact ⟨h.1,fun hmem => (h.2 ';' hmem).1 rfl⟩

/-- In a text without white space a semicolon is all that ends the name of a class. -/
theorem TypeShape.IsDelimited.isReadable {t : TypeShape} (h : t.IsDelimited)
    (hspace : ∀ c ∈ t.chars, isSpace c = false) : t.IsReadable := by
  unfold IsDelimited at h
  unfold IsReadable
  split
  · trivial
  · next n hn =>
    rw [hn] at h
    refine ⟨h.1,fun c hc => ⟨fun heq => h.2 (heq ▸ hc),hspace c ?_⟩⟩
    rw [chars_eq, hn, ElementShape.toList_raw_object]
    simp [hc]

namespace Descriptor

section Agreement

variable {s : String} {t u : Descriptor} {c : Cursor}

theorem chars_shape (t : Descriptor) : t.shape.chars = t.raw.toList := by
  rw [TypeShape.chars, t.raw_shape]

theorem raw_of_ofString? (h : ofString? s = some t) : t.raw = s := by
  obtain ⟨-,hchars,-⟩ := exists_of_ofChars? h
  rw [chars_shape] at hchars
  exact String.toList_inj.mp hchars

variable (hs : ∀ x ∈ s.toList, isSpace x = false)
include hs

theorem skipSpace_start : (Cursor.start (.ofString s)).skipSpace = .start (.ofString s) :=
  Cursor.skipSpace_of_stops fun x hx => hs x (List.mem_of_mem_head? hx)

theorem exists_read_of_ofString? (h : ofString? s = some t) :
    ∃ u c, reader.read (.start (.ofString s)) = (.ok u,c) ∧ c.atEnd = true := by
  obtain ⟨-,hchars,hdelimited⟩ := exists_of_ofChars? h
  have hreadable := hdelimited.isReadable (by rwa [hchars])
  have hrest : (Cursor.start (.ofString s)).rest = t.shape.chars ++ [] := by
    rw [hchars, List.append_nil]
    rfl
  obtain ⟨u,hread,-⟩ := read_of_chars hreadable hrest
  exact ⟨u,_,hread,by rw [Cursor.atEnd, Cursor.rest_advance_length hrest]; rfl⟩

theorem whole_of_read (h : reader.read (.start (.ofString s)) = (.ok u,c)) (hend : c.atEnd = true) :
    u.raw = s ∧ u.span = (Document.ofString s).wholeSpan := by
  obtain ⟨hrest,-,rfl,hspan⟩ := written_of_read h
  rw [skipSpace_start hs] at hrest hspan hend
  rw [List.isEmpty_iff.mp hend, List.append_nil] at hrest
  refine ⟨(String.toList_inj.mp hrest).symm,?_⟩
  rw [hspan, (Cursor.at_start _).spanTo_advance, hrest, List.take_length, ← hrest]
  rfl

theorem exists_ofString?_of_read (h : reader.read (.start (.ofString s)) = (.ok u,c))
    (hend : c.atEnd = true) : ∃ t, ofString? s = some t := by
  obtain ⟨t,ht,-⟩ := ofChars?_chars (isReadable_of_read h).isDelimited
  rw [chars_shape, (whole_of_read hs h hend).1] at ht
  exact ⟨t,ht⟩

end Agreement

/-- The two readers agree. Where a text has no white space, it is taken as a type exactly if the
reader of a document takes it up to its end, and then it is the written form of both types. The types
that they give are the same exactly if they are written the same. -/
theorem readers_agree :
    (∀ s : String, (∀ x ∈ s.toList, isSpace x = false) →
      ((∃ t, ofString? s = some t) ↔
        ∃ u c, reader.read (.start (.ofString s)) = (.ok u,c) ∧ c.atEnd = true) ∧
      ∀ t u c, ofString? s = some t → reader.read (.start (.ofString s)) = (.ok u,c) →
        t.same u = true ∧ t.raw = s ∧ u.raw = s ∧ u.span = (Document.ofString s).wholeSpan) ∧
    ∀ t u : Descriptor, t.IsRead → u.IsRead → (t.same u = true ↔ t.raw = u.raw) := by
  refine ⟨fun s hs => ⟨⟨?_,?_⟩,fun t u c ht hu => ?_⟩,fun t u ht hu => ?_⟩
  · rintro ⟨t,ht⟩
    exact exists_read_of_ofString? hs ht
  · rintro ⟨u,c,hu,hend⟩
    exact exists_ofString?_of_read hs hu hend
  · obtain ⟨u',c',hread,hend⟩ := exists_read_of_ofString? hs ht
    obtain ⟨hok,rfl⟩ := Prod.mk.inj (hu.symm.trans hread)
    obtain rfl := Except.ok.inj hok
    obtain ⟨hraw,hspan⟩ := whole_of_read hs hu hend
    have hraws := (raw_of_ofString? ht).trans hraw.symm
    have hsame := ((exists_of_ofChars? ht).1.same_iff (isProper_of_read hu)).mpr hraws
    exact ⟨hsame,raw_of_ofString? ht,hraw,hspan⟩
  · exact ht.isProper.same_iff hu.isProper

/-- An array of arrays, with letters of several bytes in the name. -/
theorem readers_agree_array :
    let s := "[[Lö/→;"
    (∀ x ∈ s.toList, isSpace x = false) ∧ ∃ t u c, ofString? s = some t ∧
      reader.read (.start (.ofString s)) = (.ok u,c) ∧ c.atEnd = true ∧
      t.same u = true ∧ t.raw = s ∧ u.raw = s ∧ u.span = .within 0 0 10 ∧
      t.IsRead ∧ u.IsRead ∧ (u.same t = true ↔ u.raw = t.raw) := by
  intro s
  have hs : ∀ x ∈ s.toList, isSpace x = false := not_isSpace_of_all (by decide +kernel)
  have hsome : (ofString? s).isSome = true := by decide +kernel
  obtain ⟨t,ht⟩ := Option.isSome_iff_exists.mp hsome
  obtain ⟨hiff,hboth⟩ := readers_agree.1 s hs
  obtain ⟨u,c,hu,hend⟩ := hiff.mp ⟨t,ht⟩
  obtain ⟨hsame,hraw,hraw',hspan⟩ := hboth t u c ht hu
  have hwhole : (Document.ofString s).wholeSpan = .within 0 0 10 := by decide +kernel
  have htread : t.IsRead := .inl ⟨s,ht⟩
  have huread : u.IsRead := .inr ⟨_,c,hu⟩
  exact ⟨hs,t,u,c,ht,hu,hend,hsame,hraw,hraw',hspan.trans hwhole,htread,huread,
    readers_agree.2 u t huread htread⟩

end Descriptor

end SmaliNavigator
