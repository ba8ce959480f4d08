import SmaliNavigator.Navigation.Rename
import SmaliNavigator.Proofs.Class.Names
import SmaliNavigator.Proofs.Index.Occurrence

/-!
The keys of a field in a text. What is in front of the arrow of a key can be told from the place of the
name behind it, but a key may be the end of a longer one: two classes with plain names are told apart
where neither is part of a longer symbol.
-/

set_option autoImplicit false

namespace SmaliNavigator

open Text

/-- The place of the name in a reference that starts at a position. -/
def Field.nameSpan (f : Field) (owner : String) (start : Position) : Span :=
  let start := start.right (owner.utf8ByteSize + 2)
  ⟨start,start.right f.name.text.utf8ByteSize⟩

/-- Whether the character in front of a position is one that goes on into a symbol. -/
def Document.continuesAt (d : Document) (p : Position) : Bool :=
  ((takeBytes? (d.offsetAt p) d.chars).getD []).getLast?.any continuesSymbol

theorem Document.continuesAt_positionAt {d : Document} {before rest : List Char}
    (h : d.chars = before ++ rest) :
    d.continuesAt (d.positionAt (byteCount before)) = before.getLast?.any continuesSymbol := by
  rw [continuesAt, offsetAt_positionAt h, h, takeBytes?_byteCount, Option.getD_some]

/-! ### Plain names -/

/-- A class whose name has no character that could end a symbol. -/
def IsPlain (identifier : String) : Prop :=
  ∃ cs, identifier.toList = 'L' :: (cs ++ [';']) ∧ ∀ c ∈ cs, continuesSymbol c = true

instance (identifier : String) : Decidable (IsPlain identifier) :=
  let cs := identifier.toList.tail.dropLast
  decidable_of_iff (identifier.toList = 'L' :: (cs ++ [';']) ∧ cs.all continuesSymbol = true) <| by
    rw [List.all_eq_true]
    refine ⟨fun h => ⟨cs,h⟩,?_⟩
    rintro ⟨ds,hds,hall⟩
    have heq : cs = ds := by simp [cs, hds]
    exact heq ▸ ⟨hds,hall⟩

namespace IsPlain

variable {x y : String}

theorem mem_cases (h : IsPlain x) {c : Char} (hc : c ∈ x.toList) : continuesSymbol c = true ∨ c = ';' := by
  obtain ⟨cs,hx,hcs⟩ := h
  rw [hx, List.mem_cons, List.mem_append, List.mem_singleton] at hc
  rcases hc with rfl | hc | rfl
  · exact .inl (by decide)
  · exact .inl (hcs c hc)
  · exact .inr rfl

theorem not_mem (h : IsPlain x) {c : Char} (hc : continuesSymbol c = false) (hsemicolon : c ≠ ';') :
    c ∉ x.toList := by
  intro hmem
  rcases h.mem_cases hmem with hcontinues | rfl
  · rw [hc] at hcontinues
    cases hcontinues
  · exact hsemicolon rfl

/-- In front of the end of a plain name there is nothing else that could end a symbol. -/
theorem eq_nil_of_append (h : IsPlain x) {u : List Char} {ys : List Char} (hne : ys ≠ [])
    (hx : x.toList = u ++ ys) (hlast : u.getLast?.any continuesSymbol = false) : u = [] := by
  obtain ⟨cs,hcs,hall⟩ := h
  cases hu : u.getLast? with
  | none => exact List.getLast?_eq_none_iff.mp hu
  | some c =>
    obtain ⟨v,rfl⟩ := List.getLast?_eq_some_iff.mp hu
    obtain ⟨zs,z,rfl⟩ : ∃ zs z, ys = zs ++ [z] := ⟨_,_,(List.dropLast_concat_getLast hne).symm⟩
    have hfront : 'L' :: cs = v ++ [c] ++ zs := by
      have heq : ('L' :: cs) ++ [';'] = (v ++ [c] ++ zs) ++ [z] := by
        rw [List.cons_append, ← hcs, hx]
        simp
      exact (List.append_inj' heq rfl).1
    have hc : c ∈ 'L' :: cs := by simp [hfront]
    have hcontinues : continuesSymbol c = true := by
      rcases List.mem_cons.mp hc with rfl | hc
      · decide
      · exact hall c hc
    simp [hcontinues] at hlast

/-- Plain names that end at the same place are the same, if neither is part of a longer symbol. -/
theorem eq_of_append_eq (hx : IsPlain x) (hy : IsPlain y) {before before' : List Char}
    (h : before ++ x.toList = before' ++ y.toList)
    (hbefore : before.getLast?.any continuesSymbol = false)
    (hbefore' : before'.getLast?.any continuesSymbol = false) : x = y := by
  have hne {z : String} (hz : IsPlain z) : z.toList ≠ [] := by
    obtain ⟨cs,hcs,_⟩ := hz
    simp [hcs]
  have hempty {u front : List Char} {z : String} {zs : List Char} (hz : IsPlain z) (hzs : zs ≠ [])
      (hu : z.toList = u ++ zs) (hfront : (front ++ u).getLast?.any continuesSymbol = false) :
      u = [] := by
    refine hz.eq_nil_of_append hzs hu ?_
    cases hlast : u.getLast? with
    | none => rfl
    | some c => simpa [List.getLast?_append, hlast] using hfront
  rcases List.append_eq_append_iff.mp h with ⟨u,rfl,hu⟩ | ⟨u,rfl,hu⟩
  · obtain rfl := hempty hx (hne hy) hu hbefore'
    exact String.toList_injective hu
  · obtain rfl := hempty hy (hne hx) hu hbefore
    exact String.toList_injective hu.symm

end IsPlain

/-! ### Keys in a text -/

/-- A document has a key of the field at a position. -/
structure Field.KeyAt (f : Field) (d : Document) (owner : String) (start : Position)
    (before : List Char) : Prop where
  occurs : before ++ (f.key owner).toList <+: d.chars
  start_eq : start = d.positionAt (byteCount before)
  inline : '\n' ∉ owner.toList

namespace Field.KeyAt

variable {f : Field} {d : Document} {owner owner' : String} {start start' : Position}
  {before before' : List Char}

theorem continuesAt (h : f.KeyAt d owner start before) :
    d.continuesAt start = before.getLast?.any continuesSymbol := by
  obtain ⟨rest,hrest⟩ := h.occurs
  rw [h.start_eq, Document.continuesAt_positionAt (by rw [← hrest, List.append_assoc])]

theorem exists_rest (h : f.KeyAt d owner start before) :
    ∃ rest, d.chars = before ++ owner.toList ++ "->".toList ++ rest ∧
      (f.nameSpan owner start).start =
        d.positionAt (byteCount (before ++ owner.toList ++ "->".toList)) := by
  obtain ⟨rest,hrest⟩ := h.occurs
  have hchars : d.chars = before ++ (owner.toList ++ "->".toList ++ (f.descriptor.toList ++ rest)) := by
    rw [← hrest, key, referenceKey, String.toList_append, String.toList_append]
    simp
  have hfeed : '\n' ∉ owner.toList ++ "->".toList := by simp [h.inline]
  refine ⟨f.descriptor.toList ++ rest,by rw [hchars]; simp,?_⟩
  rw [List.append_assoc, Document.positionAt_append hchars hfeed, byteCount_append,
    byteCount_toList, ← h.start_eq]
  rfl

theorem append_eq (h : f.KeyAt d owner start before) (h' : f.KeyAt d owner' start' before')
    (hname : f.nameSpan owner start = f.nameSpan owner' start') :
    before ++ owner.toList = before' ++ owner'.toList := by
  obtain ⟨rest,hrest,hstart⟩ := h.exists_rest
  obtain ⟨rest',hrest',hstart'⟩ := h'.exists_rest
  rw [hname, hstart'] at hstart
  exact (List.append_cancel_right (Document.eq_of_positionAt hrest' hrest hstart)).symm

theorem not_startsWord (h : f.KeyAt d owner start before) :
    ¬d.StartsWord (f.nameSpan owner start).start := by
  rintro ⟨front,rest',hfront,hword,hspace⟩
  obtain ⟨rest,hrest,hstart⟩ := h.exists_rest
  have heq := Document.eq_of_positionAt hfront hrest (hword.symm.trans hstart)
  have hlast : front.getLast? = some '>' := by rw [heq]; simp [List.getLast?_append]
  rw [hlast] at hspace
  exact absurd hspace (by decide)

end Field.KeyAt

end SmaliNavigator
