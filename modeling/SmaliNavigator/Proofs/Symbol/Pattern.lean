import SmaliNavigator.Class.Draft
import SmaliNavigator.Proofs.Text.Runs

/-!
What the patterns for references fit. A pattern takes a written form and nothing else, and takes it
whatever comes behind.
-/

set_option autoImplicit false

namespace SmaliNavigator

open Text

namespace TypeShape

/-- The characters of the written form. -/
def chars (t : TypeShape) : List Char := t.raw.toList

/-- Whether the type is a class or an array of one. -/
def IsOwner (t : TypeShape) : Prop := t.IsWritable ∧ ∃ n, t.element = .object n

end TypeShape

theorem ElementShape.toList_raw_primitive (p : Primitive) :
    (ElementShape.primitive p).raw.toList = [p.code] := by
  simp [raw]

theorem ElementShape.toList_raw_object (n : String) :
    (ElementShape.object n).raw.toList = 'L' :: (n.toList ++ [';']) := by
  simp [raw]

theorem TypeShape.chars_eq (t : TypeShape) :
    t.chars = List.replicate t.dimensions '[' ++ t.element.raw.toList := by
  simp [chars, raw]

namespace Pattern

theorem literal_eq_some_iff {s : String} {cs r : List Char} :
    literal s cs = some r ↔ cs = s.toList ++ r := by
  unfold literal
  constructor
  · intro h
    split at h
    · next hp =>
      obtain ⟨t,rfl⟩ := List.isPrefixOf_iff_prefix.mp hp
      simpa using h
    · cases h
  · rintro rfl
    simp

theorem seq_eq_some_iff {p q : Pattern} {cs r : List Char} :
    p.seq q cs = some r ↔ ∃ m, p cs = some m ∧ q m = some r := by
  simp [seq, Option.bind_eq_some_iff]

theorem some1_eq_some_iff {p : Char → Bool} {cs r : List Char} :
    some1 p cs = some r ↔
      ∃ xs, xs ≠ [] ∧ (∀ x ∈ xs, p x = true) ∧ cs = xs ++ r ∧ Stops p r := by
  constructor
  · intro h
    cases cs with
    | nil => simp [some1] at h
    | cons c cs =>
      unfold some1 at h
      dsimp only at h
      split at h
      · next hc =>
        cases h
        refine ⟨c :: cs.takeWhile p,by simp,?_,by simp,stops_dropWhile p cs⟩
        intro x hx
        rcases List.mem_cons.mp hx with rfl | hx
        · exact hc
        · exact of_mem_takeWhile hx
      · cases h
  · rintro ⟨xs,hne,hall,rfl,hr⟩
    cases xs with
    | nil => simp at hne
    | cons x xs =>
      have hx : p x = true := hall x (by simp)
      have hxs : ∀ y ∈ xs, p y = true := fun y hy => hall y (by simp [hy])
      unfold some1
      dsimp only [List.cons_append]
      rw [if_pos hx, dropWhile_append_stops hxs hr]

theorem dimensions_eq_some_iff {cs r : List Char} :
    dimensions cs = some r ↔ ∃ n, cs = List.replicate n '[' ++ r ∧ Stops (· == '[') r := by
  unfold dimensions
  constructor
  · intro h
    cases h
    refine ⟨(cs.takeWhile (· == '[')).length,?_,stops_dropWhile _ cs⟩
    have hall : ∀ c ∈ cs.takeWhile (· == '['), c = '[' := fun c hc => by
      simpa using of_mem_takeWhile hc
    rw [← List.eq_replicate_of_mem hall, List.takeWhile_append_dropWhile]
  · rintro ⟨n,rfl,hr⟩
    rw [dropWhile_append_stops (by simp) hr]

theorem not_isClassNameChar_semicolon : isClassNameChar ';' = false := by decide

theorem className_eq_some_iff {cs r : List Char} :
    className cs = some r ↔
      ∃ n, IsInternalName n ∧ cs = (ElementShape.object n).raw.toList ++ r := by
  simp only [className, seq_eq_some_iff, literal_eq_some_iff, some1_eq_some_iff,
    ElementShape.toList_raw_object]
  constructor
  · rintro ⟨_,rfl,_,⟨xs,hne,hall,rfl,_⟩,rfl⟩
    refine ⟨String.ofList xs,⟨?_,by simpa using hall⟩,by simp⟩
    intro h
    exact hne (by simpa using congrArg String.toList h)
  · rintro ⟨n,⟨hne,hall⟩,rfl⟩
    refine ⟨n.toList ++ ';' :: r,by simp,';' :: r,⟨n.toList,?_,hall,rfl,?_⟩,by simp⟩
    · intro h
      exact hne (by simpa using congrArg String.ofList h)
    · exact stops_cons.mpr not_isClassNameChar_semicolon

theorem primitiveCode_eq_some_iff {cs r : List Char} :
    primitiveCode cs = some r ↔ ∃ p : Primitive, cs = (ElementShape.primitive p).raw.toList ++ r := by
  simp only [ElementShape.toList_raw_primitive]
  constructor
  · intro h
    cases cs with
    | nil => simp [primitiveCode] at h
    | cons c cs =>
      unfold primitiveCode at h
      dsimp only at h
      split at h
      · next hc =>
        cases h
        obtain ⟨p,hp⟩ := Option.isSome_iff_exists.mp hc
        exact ⟨p,by rw [Primitive.code_of_ofCode? hp]; rfl⟩
      · cases h
  · rintro ⟨p,rfl⟩
    simp [primitiveCode, Primitive.ofCode?_code]

theorem element_eq_some_iff {cs r : List Char} :
    primitiveCode.alt className cs = some r ↔
      ∃ e, TypeShape.IsWritable ⟨0,e⟩ ∧ cs = e.raw.toList ++ r := by
  unfold alt
  rw [Option.or_eq_some_iff, primitiveCode_eq_some_iff, className_eq_some_iff]
  constructor
  · rintro (⟨p,rfl⟩ | ⟨_,n,hn,rfl⟩)
    · exact ⟨.primitive p,trivial,rfl⟩
    · exact ⟨.object n,hn,rfl⟩
  · rintro ⟨e,he,rfl⟩
    cases e with
    | primitive p => exact .inl ⟨p,rfl⟩
    | object n =>
      -- no primitive type has the code L, so the first pattern leaves the name to the second
      refine .inr ⟨?_,n,he,rfl⟩
      rw [ElementShape.toList_raw_object]
      rfl

theorem stops_raw (e : ElementShape) (r : List Char) :
    Stops (· == '[') (e.raw.toList ++ r) := by
  cases e with
  | primitive p =>
    rw [ElementShape.toList_raw_primitive]
    refine stops_cons.mpr ?_
    cases p <;> decide
  | object n =>
    rw [ElementShape.toList_raw_object]
    exact stops_cons.mpr (by decide)

theorem type_eq_some_iff {cs r : List Char} :
    type cs = some r ↔ ∃ t : TypeShape, t.IsWritable ∧ cs = t.chars ++ r := by
  unfold type
  simp only [seq_eq_some_iff, dimensions_eq_some_iff, element_eq_some_iff]
  constructor
  · rintro ⟨_,⟨n,rfl,_⟩,e,he,rfl⟩
    exact ⟨⟨n,e⟩,he,by simp [TypeShape.chars_eq]⟩
  · rintro ⟨t,ht,rfl⟩
    refine ⟨t.element.raw.toList ++ r,⟨t.dimensions,?_,stops_raw t.element r⟩,t.element,ht,rfl⟩
    simp [TypeShape.chars_eq]

theorem owner_eq_some_iff {cs r : List Char} :
    owner cs = some r ↔ ∃ t : TypeShape, t.IsOwner ∧ cs = t.chars ++ r := by
  unfold owner
  simp only [seq_eq_some_iff, dimensions_eq_some_iff, className_eq_some_iff]
  constructor
  · rintro ⟨_,⟨n,rfl,_⟩,name,hname,rfl⟩
    exact ⟨⟨n,.object name⟩,⟨hname,name,rfl⟩,by simp [TypeShape.chars_eq]⟩
  · rintro ⟨⟨n,_⟩,⟨hname,name,rfl⟩,rfl⟩
    exact ⟨_,⟨n,by simp [TypeShape.chars_eq],stops_raw (.object name) r⟩,name,hname,rfl⟩

end Pattern

/-- Whether a text is the name of a field, or of a method that is no constructor. -/
def IsMemberName (name : List Char) : Prop :=
  name ≠ [] ∧ ∀ c ∈ name, Pattern.isMemberNameChar c = true

/-- Whether a text is `Owner->name:Type`. -/
def IsFieldReference (key : List Char) : Prop :=
  ∃ (owner type : TypeShape) (name : List Char), owner.IsOwner ∧ type.IsWritable ∧
    IsMemberName name ∧ key = owner.chars ++ "->".toList ++ name ++ ':' :: type.chars

/-- Whether a text is the name of a method. -/
def IsMethodName (name : List Char) : Prop :=
  IsMemberName name ∨ name = constructorName.toList ∨ name = staticInitializerName.toList

/-- Whether a text is `Owner->name(Parameters)Return`. -/
def IsMethodReference (key : List Char) : Prop :=
  ∃ (owner returned : TypeShape) (parameters : List TypeShape) (name : List Char),
    owner.IsOwner ∧ returned.IsWritable ∧ (∀ t ∈ parameters, t.IsWritable) ∧ IsMethodName name ∧
    key = owner.chars ++ "->".toList ++ name ++
      '(' :: (parameters.flatMap TypeShape.chars ++ ')' :: returned.chars)

namespace Pattern

theorem fieldReference_eq_some_iff {cs r : List Char} :
    fieldReference cs = some r ↔ ∃ key, IsFieldReference key ∧ cs = key ++ r := by
  unfold fieldReference
  simp only [seq_eq_some_iff, owner_eq_some_iff, literal_eq_some_iff, some1_eq_some_iff,
    type_eq_some_iff]
  constructor
  · rintro ⟨_,⟨owner,howner,rfl⟩,_,rfl,_,⟨name,hne,hall,rfl,_⟩,_,rfl,type,htype,rfl⟩
    exact ⟨_,⟨owner,type,name,howner,htype,⟨hne,hall⟩,rfl⟩,by simp⟩
  · rintro ⟨_,⟨owner,type,name,howner,htype,⟨hne,hall⟩,rfl⟩,rfl⟩
    refine ⟨"->".toList ++ (name ++ ':' :: (type.chars ++ r)),⟨owner,howner,by simp⟩,_,rfl,
      ':' :: (type.chars ++ r),⟨name,hne,hall,rfl,?_⟩,type.chars ++ r,rfl,type,htype,rfl⟩
    exact stops_cons.mpr (by decide)

/-! ### Lists of types -/

theorem exists_of_manyUpTo_type {fuel : Nat} {cs r : List Char}
    (h : manyUpTo type fuel cs = some r) :
    ∃ ts : List TypeShape, (∀ t ∈ ts, t.IsWritable) ∧ cs = ts.flatMap TypeShape.chars ++ r := by
  induction fuel generalizing cs with
  | zero =>
    cases h
    exact ⟨[],by simp,rfl⟩
  | succ fuel ih =>
    unfold manyUpTo at h
    cases ht : type cs with
    | none =>
      rw [ht] at h
      cases h
      exact ⟨[],by simp,rfl⟩
    | some m =>
      rw [ht] at h
      obtain ⟨t,hw,rfl⟩ := type_eq_some_iff.mp ht
      obtain ⟨ts,hws,rfl⟩ := ih h
      exact ⟨t :: ts,by simpa using ⟨hw,hws⟩,by simp⟩

theorem manyUpTo_type {ts : List TypeShape} {fuel : Nat} {r : List Char}
    (hts : ∀ t ∈ ts, t.IsWritable) (hr : type r = none) (hfuel : ts.length ≤ fuel) :
    manyUpTo type fuel (ts.flatMap TypeShape.chars ++ r) = some r := by
  induction ts generalizing fuel with
  | nil => cases fuel <;> simp [manyUpTo, hr]
  | cons t ts ih =>
    obtain ⟨fuel,rfl⟩ : ∃ n, fuel = n + 1 := ⟨fuel - 1,by simp at hfuel; omega⟩
    have ht : type (t.chars ++ (ts.flatMap TypeShape.chars ++ r)) =
        some (ts.flatMap TypeShape.chars ++ r) := type_eq_some_iff.mpr ⟨t,hts t (by simp),rfl⟩
    rw [List.flatMap_cons, List.append_assoc, manyUpTo, ht]
    exact ih (fun u hu => hts u (by simp [hu])) (by simpa using hfuel)

theorem type_closing (r : List Char) : type (')' :: r) = none := rfl

theorem length_le_flatMap (ts : List TypeShape) :
    ts.length ≤ (ts.flatMap TypeShape.chars).length := by
  induction ts with
  | nil => simp
  | cons t ts ih =>
    have ht : 0 < t.chars.length := by
      rw [TypeShape.chars_eq]
      cases t.element with
      | primitive p => simp [ElementShape.toList_raw_primitive]
      | object n =>
        simp only [ElementShape.toList_raw_object, List.length_append, List.length_cons]
        omega
    simp only [List.length_cons, List.flatMap_cons, List.length_append]
    omega

/-! ### References to methods -/

theorem isMethodName_of_methodName {cs r : List Char} (h : methodName cs = some r) :
    ∃ name, IsMethodName name ∧ cs = name ++ r := by
  unfold methodName alt at h
  rw [Option.or_eq_some_iff, Option.or_eq_some_iff] at h
  simp only [some1_eq_some_iff, literal_eq_some_iff] at h
  rcases h with ⟨name,hne,hall,rfl,_⟩ | ⟨_,rfl | ⟨_,rfl⟩⟩
  · exact ⟨name,.inl ⟨hne,hall⟩,rfl⟩
  · exact ⟨_,.inr (.inl rfl),rfl⟩
  · exact ⟨_,.inr (.inr rfl),rfl⟩

theorem methodName_append {name r : List Char} (hname : IsMethodName name)
    (hr : Stops isMemberNameChar r) : methodName (name ++ r) = some r := by
  rcases hname with ⟨hne,hall⟩ | rfl | rfl
  · have h := some1_eq_some_iff.mpr ⟨name,hne,hall,rfl,hr⟩
    simp [methodName, alt, h]
  · rfl
  · rfl

theorem methodReference_eq_some_iff {cs r : List Char} :
    methodReference cs = some r ↔ ∃ key, IsMethodReference key ∧ cs = key ++ r := by
  unfold methodReference
  simp only [seq_eq_some_iff, owner_eq_some_iff, literal_eq_some_iff, type_eq_some_iff]
  constructor
  · rintro ⟨_,⟨owner,howner,rfl⟩,_,rfl,_,hnamed,_,rfl,_,hmany,_,rfl,returned,hreturned,rfl⟩
    obtain ⟨name,hname,rfl⟩ := isMethodName_of_methodName hnamed
    obtain ⟨ts,hts,rfl⟩ := exists_of_manyUpTo_type hmany
    exact ⟨_,⟨owner,returned,ts,name,howner,hreturned,hts,hname,rfl⟩,by simp⟩
  · rintro ⟨_,⟨owner,returned,ts,name,howner,hreturned,hts,hname,rfl⟩,rfl⟩
    have hopen : Stops isMemberNameChar
        ('(' :: (ts.flatMap TypeShape.chars ++ ')' :: (returned.chars ++ r))) :=
      stops_cons.mpr (by decide)
    have hlength : ts.length ≤
        (ts.flatMap TypeShape.chars ++ ')' :: (returned.chars ++ r)).length := by
      have h := length_le_flatMap ts
      simp only [List.length_append]
      omega
    exact ⟨_,⟨owner,howner,by simp⟩,_,rfl,_,methodName_append hname hopen,_,rfl,_,
      manyUpTo_type hts (type_closing _) hlength,_,rfl,returned,hreturned,rfl⟩

/-! ### The first match of a line -/

/-- A pattern that takes texts of a kind, whatever comes behind them. -/
def Takes (p : Pattern) (kind : List Char → Prop) : Prop :=
  ∀ cs r, p cs = some r ↔ ∃ key, kind key ∧ cs = key ++ r

theorem takes_fieldReference : Takes fieldReference IsFieldReference :=
  fun _ _ => fieldReference_eq_some_iff

theorem takes_methodReference : Takes methodReference IsMethodReference :=
  fun _ _ => methodReference_eq_some_iff

/-- The first match of a line is a text of the kind, and nowhere further left there is one. -/
theorem Takes.of_head?_findFrom {p : Pattern} {kind : List Char → Prop} (hp : Takes p kind)
    {col : Nat} {cs : List Char} {m : Match} (h : (p.findFrom 0 col cs).head? = some m) :
    ∃ before after, cs = before ++ (m.chars ++ after) ∧ kind m.chars ∧
      m.start = col + byteCount before ∧
      ∀ xs ys, before = xs ++ ys → ys ≠ [] → p (ys ++ (m.chars ++ after)) = none := by
  induction cs generalizing col with
  | nil => simp [findFrom] at h
  | cons c cs ih =>
    unfold findFrom at h
    dsimp only at h
    cases hc : p (c :: cs) with
    | some r =>
      rw [hc] at h
      obtain ⟨key,hkey,heq⟩ := (hp _ _).mp hc
      have htaken : (c :: cs).take ((c :: cs).length - r.length) = key := by
        rw [heq]
        simp
      dsimp only at h
      rw [htaken] at h
      cases h
      refine ⟨[],r,heq,hkey,rfl,?_⟩
      intro xs ys hnil hys
      exact absurd (List.append_eq_nil_iff.mp hnil.symm).2 hys
    | none =>
      rw [hc] at h
      obtain ⟨before,after,rfl,hkind,hstart,hleft⟩ := ih h
      refine ⟨c :: before,after,rfl,hkind,by rw [hstart, byteCount_cons]; omega,?_⟩
      intro xs ys hsplit hys
      cases xs with
      | nil =>
        obtain rfl : ys = c :: before := by simpa using hsplit.symm
        exact hc
      | cons x xs =>
        obtain ⟨-,rfl⟩ := List.cons.inj hsplit
        exact hleft xs ys rfl hys

theorem Takes.of_findFirst? {p : Pattern} {kind : List Char → Prop} (hp : Takes p kind)
    {cs : List Char} {m : Match} (h : p.findFirst? cs = some m) :
    ∃ before after, cs = before ++ (m.chars ++ after) ∧ kind m.chars ∧
      m.start = byteCount before ∧
      ∀ xs ys, before = xs ++ ys → ys ≠ [] → ¬ m.chars <+: ys ++ (m.chars ++ after) := by
  obtain ⟨before,after,hcs,hkind,hstart,hleft⟩ := hp.of_head?_findFrom h
  refine ⟨before,after,hcs,hkind,by simpa using hstart,fun xs ys hsplit hys => ?_⟩
  rintro ⟨r,hr⟩
  have hnone := hleft xs ys hsplit hys
  have hsome := (hp _ r).mpr ⟨m.chars,hkind,hr.symm⟩
  rw [hnone] at hsome
  cases hsome

end Pattern

end SmaliNavigator
