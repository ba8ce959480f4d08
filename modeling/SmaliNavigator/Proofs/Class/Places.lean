import SmaliNavigator.Proofs.Class.References

/-!
What a place in the references of a class tells. The key is the text at the place, a reader that
starts there reads it back, and the places of one key are in the order of the text and do not
overlap.

The key is taken from a match in a line or put together from a name, and the place from where a
reader stopped. That the two agree is `Laid`, which every step of the reader keeps.
-/

set_option autoImplicit false

namespace SmaliNavigator

open Text

/-- Whether a member reference with a key is read from the start of a span to its end. -/
def Document.ReadsBack (d : Document) (key : String) (s : Span) : Prop :=
  (∃ r, FieldReference.reader.value (.atPosition d s.start) = .ok r ∧ r.key = key ∧
    r.field.span = s) ∨
  ∃ r, MethodReference.reader.value (.atPosition d s.start) = .ok r ∧ r.key = key ∧
    r.method.span = s

namespace Document.Shows

variable {d : Document} {before : List Char} {key : String} {s : Span}

theorem isSingleLine (h : d.Shows before key.toList s) (hkey : '\n' ∉ key.toList) :
    s.isSingleLine = true := by
  obtain ⟨r,hr⟩ := h.occurs
  rw [h.span_eq]
  exact isSingleLine_spanOf (by simpa using hr.symm) hkey

theorem slice (h : d.Shows before key.toList s) : d.slice s = key := by
  obtain ⟨r,hr⟩ := h.occurs
  rw [h.span_eq, slice_spanOf (by simpa using hr.symm), String.ofList_toList]

theorem exists_cursor (h : d.Shows before key.toList s) :
    ∃ r, (Cursor.atPosition d s.start).rest = key.toList ++ r ∧
      (Cursor.atPosition d s.start).spanTo
        ((Cursor.atPosition d s.start).advance key.toList.length) = s := by
  obtain ⟨r,hr⟩ := h.occurs
  have hat : (⟨d,byteCount before,key.toList ++ r⟩ : Cursor).At d before :=
    ⟨rfl,by rw [← hr, List.append_assoc],rfl⟩
  have hcursor : Cursor.atPosition d s.start = ⟨d,byteCount before,key.toList ++ r⟩ := by
    rw [h.start_eq]
    exact hat.atPosition_position
  rw [hcursor]
  refine ⟨r,rfl,?_⟩
  rw [hat.spanTo_advance, Cursor.take_length_rest rfl, h.span_eq]

theorem readsBack (h : d.Shows before key.toList s)
    (hkey : IsFieldReference key.toList ∨ IsMethodReference key.toList) : d.ReadsBack key s := by
  obtain ⟨r,hrest,hspan⟩ := h.exists_cursor
  rcases hkey with hkey | hkey
  · obtain ⟨x,hread,hx,hxkey⟩ := FieldReference.read_of_isFieldReference hkey hrest
    rw [String.ofList_toList] at hxkey
    exact .inl ⟨x,by rw [Reader.value, hread],hxkey,hx.trans hspan⟩
  · obtain ⟨x,hread,hx,hxkey⟩ := MethodReference.read_of_isMethodReference hkey hrest
    rw [String.ofList_toList] at hxkey
    exact .inr ⟨x,by rw [Reader.value, hread],hxkey,hx.trans hspan⟩

end Document.Shows

namespace Laid

variable {d : Document} {rs : List Reference} {offset : Nat}

theorem pairwise_filter (h : Laid d rs offset) (key : String) :
    ((rs.filter (·.key == key)).map (·.span)).Pairwise fun s t =>
      s.start < t.start ∧ s.stop ≤ t.start := by
  refine List.pairwise_map.mpr ?_
  refine (List.Pairwise.filter _ h.apart).imp_of_mem fun {a b} ha hb hapart => ?_
  obtain ⟨ha,hakey⟩ := List.mem_filter.mp ha
  obtain ⟨hb,hbkey⟩ := List.mem_filter.mp hb
  have hle := hapart ((eq_of_beq hakey).trans (eq_of_beq hbkey).symm)
  obtain ⟨before,hshows⟩ := h.isIn a ha
  exact ⟨Position.lt_of_lt_of_le hshows.start_lt_stop hle,hle⟩

end Laid

/-- Every place that a class records for a key is on one line and has the key as its text. The key is
the name of a class, or a member reference that is read there with that key and that span. And the
places of a key increase. -/
theorem Class.places_of_mem_references {text : String} {c : Class}
    (h : Class.ofString text = .ok c) {key : String} {spans : List Span}
    (hmem : (key,spans) ∈ c.references.entries) :
    (∀ s ∈ spans, s.isSingleLine = true ∧ (Document.ofString text).slice s = key ∧
      (IsClassKey key.toList ∨ (Document.ofString text).ReadsBack key s)) ∧
    spans.Pairwise fun s t => s.start < t.start ∧ s.stop ≤ t.start := by
  obtain ⟨_,rs,offset,hlaid,hall⟩ := exists_laid h
  have hspans : spans = (rs.filter (·.key == key)).map (·.span) := by
    rw [← hall, referencesTo, (c.references.get?_eq_some_iff key spans).mpr hmem, Option.getD_some]
  rw [hspans]
  refine ⟨fun s hs => ?_,hlaid.pairwise_filter key⟩
  obtain ⟨r,hr,rfl⟩ := List.mem_map.mp hs
  obtain ⟨hrs,hkey⟩ := List.mem_filter.mp hr
  obtain rfl := eq_of_beq hkey
  obtain ⟨before,hshows⟩ := hlaid.isIn r hrs
  have hkind := hlaid.isKey r hrs
  refine ⟨hshows.isSingleLine hkind.not_mem,hshows.slice,?_⟩
  rcases hkind with hclass | hmember
  · exact .inl hclass
  · exact .inr (hshows.readsBack hmember)

/-- The type of a field that is accessed twice, and in between the type of an array, on the line
behind its instruction. -/
theorem Class.places_of_mem_references_operand :
    let text := ".class La;\n.super Lb;\n.method é()V\n    iget v0, p0, La;->é:Lb;\n" ++
      "    const-class v1,\n    [Lb;\n    iput v1, p0, La;->é:Lb; # é\n.end method\n"
    let spans : List Span := [.within 1 7 10,.within 3 25 28,.within 5 5 8,.within 6 25 28]
    ∃ c, Class.ofString text = .ok c ∧ ("Lb;",spans) ∈ c.references.entries ∧
      (∀ s ∈ spans, s.isSingleLine = true ∧ (Document.ofString text).slice s = "Lb;" ∧
        (IsClassKey "Lb;".toList ∨ (Document.ofString text).ReadsBack "Lb;" s)) ∧
      spans.Pairwise fun s t => s.start < t.start ∧ s.stop ≤ t.start := by
  intro text spans
  have hentry : (Class.ofString text).toOption.any
      (fun c => decide (("Lb;",spans) ∈ c.references.entries)) = true := by decide +kernel
  cases hc : Class.ofString text with
  | error e => simp [hc, Except.toOption] at hentry
  | ok c =>
    have hmem : ("Lb;",spans) ∈ c.references.entries := by
      rw [hc] at hentry
      exact of_decide_eq_true hentry
    exact ⟨c,rfl,hmem,places_of_mem_references hc hmem⟩

end SmaliNavigator
