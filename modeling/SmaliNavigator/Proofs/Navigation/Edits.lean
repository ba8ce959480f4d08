import Mathlib.Data.List.Nodup
import SmaliNavigator.Navigation.Rename
import SmaliNavigator.Proofs.Index.Occurrence

/-!
Where a rename writes. The edits are kept for each file, in order and without repeats, and all of
them are there that were put in, and no others.
-/

set_option autoImplicit false

namespace SmaliNavigator

open Text

/-! ### The order of edits -/

namespace Span

theorem le_iff {s t : Span} :
    s.le t = true ↔ s.start < t.start ∨ s.start = t.start ∧ s.stop ≤ t.stop := by
  simp [le]

theorem le_total (s t : Span) : s.le t = true ∨ t.le s = true := by
  obtain ⟨⟨_,_⟩,⟨_,_⟩⟩ := s
  obtain ⟨⟨_,_⟩,⟨_,_⟩⟩ := t
  simp only [le_iff, Position.lt_def, Position.le_def, Position.mk.injEq]
  omega

theorem le_trans {s t u : Span} (h : s.le t = true) (h' : t.le u = true) : s.le u = true := by
  obtain ⟨⟨_,_⟩,⟨_,_⟩⟩ := s
  obtain ⟨⟨_,_⟩,⟨_,_⟩⟩ := t
  obtain ⟨⟨_,_⟩,⟨_,_⟩⟩ := u
  simp only [le_iff, Position.lt_def, Position.le_def, Position.mk.injEq] at *
  omega

theorem le_antisymm {s t : Span} (h : s.le t = true) (h' : t.le s = true) : s = t := by
  obtain ⟨⟨_,_⟩,⟨_,_⟩⟩ := s
  obtain ⟨⟨_,_⟩,⟨_,_⟩⟩ := t
  simp only [le_iff, Position.lt_def, Position.le_def, Position.mk.injEq, Span.mk.injEq] at *
  omega

end Span

namespace TextEdit

theorem le_iff {a b : TextEdit} : a.le b = true ↔
    a.span.le b.span = true ∧ (a.span = b.span → (compare a.text b.text).isLE = true) := by
  unfold le
  by_cases h : a.span = b.span
  · have hself : b.span.le b.span = true := (b.span.le_total b.span).elim id id
    simp [h, hself]
  · simp [h]

theorem le_total (a b : TextEdit) : (a.le b || b.le a) = true := by
  rw [Bool.or_eq_true, le_iff, le_iff]
  by_cases h : a.span = b.span
  · have hself : b.span.le b.span = true := (b.span.le_total b.span).elim id id
    rw [h]
    simp only [hself, true_and, forall_const]
    have hswap : compare b.text a.text = (compare a.text b.text).swap := Std.OrientedCmp.eq_swap
    rw [hswap]
    cases compare a.text b.text <;> simp
  · simpa [h, Ne.symm h] using a.span.le_total b.span

theorem le_trans (a b c : TextEdit) (h : a.le b = true) (h' : b.le c = true) : a.le c = true := by
  rw [le_iff] at *
  refine ⟨Span.le_trans h.1 h'.1,fun heq => ?_⟩
  have hab : a.span = b.span := Span.le_antisymm h.1 (heq ▸ h'.1)
  exact Std.TransOrd.isLE_trans (h.2 hab) (h'.2 (hab ▸ heq))

theorem le_antisymm {a b : TextEdit} (h : a.le b = true) (h' : b.le a = true) : a = b := by
  rw [le_iff] at *
  have hspan := Span.le_antisymm h.1 h'.1
  have htext : a.text = b.text :=
    Std.LawfulEqOrd.eq_of_compare (Std.OrientedCmp.isLE_antisymm (h.2 hspan) (h'.2 hspan.symm))
  cases a
  cases b
  simp_all

end TextEdit

/-! ### Lists without repeats -/

theorem mem_dropRepeats {α : Type} [BEq α] [LawfulBEq α] {xs : List α} {x : α} :
    x ∈ dropRepeats (· == ·) xs ↔ x ∈ xs := by
  fun_induction dropRepeats (· == ·) xs with
  | case1 => rfl
  | case2 a => rfl
  | case3 a b rest hsame ih =>
    obtain rfl := eq_of_beq hsame
    rw [ih]
    simp
  | case4 a b rest _ ih =>
    rw [List.mem_cons, ih, ← List.mem_cons]

theorem nodup_dropRepeats {α : Type} [BEq α] [LawfulBEq α] {r : α → α → Prop}
    (hanti : ∀ a b, r a b → r b a → a = b) {xs : List α} (h : xs.Pairwise r) :
    (dropRepeats (· == ·) xs).Nodup := by
  fun_induction dropRepeats (· == ·) xs with
  | case1 => exact List.nodup_nil
  | case2 a => exact List.nodup_singleton a
  | case3 a b rest hsame ih =>
    obtain rfl := eq_of_beq hsame
    exact ih (List.pairwise_cons.mp h).2
  | case4 a b rest hdiffer ih =>
    obtain ⟨hfirst,hrest⟩ := List.pairwise_cons.mp h
    refine List.nodup_cons.mpr ⟨fun hmem => hdiffer ?_,ih hrest⟩
    rcases List.mem_cons.mp (mem_dropRepeats.mp hmem) with rfl | hmem
    · exact beq_self_eq_true a
    · exact beq_iff_eq.mpr (hanti a b (hfirst b List.mem_cons_self) ((List.pairwise_cons.mp hrest).1 a hmem))

theorem dropRepeats_sublist {α : Type} (same : α → α → Bool) (xs : List α) :
    (dropRepeats same xs).Sublist xs := by
  fun_induction dropRepeats same xs with
  | case1 => exact .slnil
  | case2 a => exact .refl _
  | case3 a b rest _ ih => exact ih.trans (.cons_cons a (.cons b (.refl _)))
  | case4 a b rest _ ih => exact .cons_cons a ih

/-- Lists with the same edits in them are the same, once they are in order and without repeats. -/
theorem TextEdit.arrange_congr {xs ys : List TextEdit} (h : ∀ e, e ∈ xs ↔ e ∈ ys) :
    dropRepeats (· == ·) (xs.mergeSort TextEdit.le) =
      dropRepeats (· == ·) (ys.mergeSort TextEdit.le) := by
  have hordered (xs : List TextEdit) : (xs.mergeSort TextEdit.le).Pairwise (fun a b => a.le b = true) :=
    List.pairwise_mergeSort TextEdit.le_trans TextEdit.le_total xs
  have hnodup (xs : List TextEdit) : (dropRepeats (· == ·) (xs.mergeSort TextEdit.le)).Nodup :=
    nodup_dropRepeats (fun _ _ => TextEdit.le_antisymm) (hordered xs)
  have hperm : (dropRepeats (· == ·) (xs.mergeSort TextEdit.le)).Perm
      (dropRepeats (· == ·) (ys.mergeSort TextEdit.le)) :=
    (List.perm_ext_iff_of_nodup (hnodup xs) (hnodup ys)).mpr fun e => by
      simp [mem_dropRepeats, h]
  exact hperm.eq_of_pairwise (fun _ _ _ _ => TextEdit.le_antisymm)
    ((hordered xs).sublist (dropRepeats_sublist _ _)) ((hordered ys).sublist (dropRepeats_sublist _ _))

namespace RenameEdits

/-- The text that comes to stand at a place of a file is the new name. -/
def Writes (r : RenameEdits) (new : String) (file : Path) (span : Span) : Prop :=
  ⟨span,new⟩ ∈ (r.edits.get? file).getD []

/-- The edits of a file are gathered behind those that it has, however its path is written. -/
theorem get?_foldl_insert (es : List (Path × TextEdit)) (m : PathMap (List TextEdit)) (file : Path) :
    (es.foldl (fun m x => m.insert x.1 ((m.get? x.1).getD [] ++ [x.2])) m).get? file =
      if (es.filter (·.1.same file)).isEmpty then m.get? file
      else some ((m.get? file).getD [] ++ (es.filter (·.1.same file)).map (·.2)) := by
  induction es generalizing m with
  | nil => simp
  | cons e es ih =>
    rw [List.foldl_cons, ih, PathMap.get?_insert, Path.same_comm]
    cases hsame : e.1.same file with
    | false =>
      rw [List.filter_cons_of_neg (by simp [hsame])]
      rfl
    | true =>
      rw [List.filter_cons_of_pos (by simp [hsame]), m.get?_same hsame]
      cases es.filter (·.1.same file) <;> simp

theorem get?_edits_ofEdits (es : List (Path × TextEdit)) (moves : List (Path × Path)) (file : Path) :
    (ofEdits es moves).edits.get? file =
      if (es.filter (·.1.same file)).isEmpty then none
      else some (dropRepeats (· == ·)
        (((es.filter (·.1.same file)).map (·.2)).mergeSort TextEdit.le)) := by
  have hgathered := get?_foldl_insert es ∅ file
  unfold ofEdits
  dsimp only
  rw [PathMap.get?_mapValues, hgathered]
  split <;> rfl

theorem writes_ofEdits {es : List (Path × TextEdit)} {moves : List (Path × Path)} {new : String}
    {file : Path} {span : Span} : (ofEdits es moves).Writes new file span ↔
      ∃ g, g.same file = true ∧ (g,⟨span,new⟩) ∈ es := by
  have hmem : (ofEdits es moves).Writes new file span ↔
      ⟨span,new⟩ ∈ (es.filter (·.1.same file)).map (·.2) := by
    rw [Writes, get?_edits_ofEdits]
    cases hhere : es.filter (·.1.same file) with
    | nil => simp
    | cons e es => simp [mem_dropRepeats]
  rw [hmem, List.mem_map]
  constructor
  · rintro ⟨⟨g,e⟩,hmem,rfl⟩
    obtain ⟨hes,hsame⟩ := List.mem_filter.mp hmem
    exact ⟨g,hsame,hes⟩
  · rintro ⟨g,hsame,hes⟩
    exact ⟨_,List.mem_filter.mpr ⟨hes,hsame⟩,rfl⟩

/-- Nothing but the places and the texts counts for the edits that come of them. -/
theorem get?_edits_congr {es es' : List (Path × TextEdit)} {moves : List (Path × Path)}
    (h : ∀ x, x ∈ es ↔ x ∈ es') (file : Path) :
    (ofEdits es moves).edits.get? file = (ofEdits es' moves).edits.get? file := by
  have hhere (x : Path × TextEdit) :
      x ∈ es.filter (·.1.same file) ↔ x ∈ es'.filter (·.1.same file) := by
    simp [h]
  have hnone : (es.filter (·.1.same file)).isEmpty = (es'.filter (·.1.same file)).isEmpty := by
    rw [Bool.eq_iff_iff]
    simp only [List.isEmpty_iff, List.eq_nil_iff_forall_not_mem, hhere]
  have hedits (e : TextEdit) : e ∈ (es.filter (·.1.same file)).map (·.2) ↔
      e ∈ (es'.filter (·.1.same file)).map (·.2) := by
    simp only [List.mem_map, hhere]
  rw [get?_edits_ofEdits, get?_edits_ofEdits, hnone, TextEdit.arrange_congr hedits]

/-- A member is renamed behind the arrow of each place of its keys, and where it is declared. -/
theorem writes_ofMember {symbols : List String} {texts : List (Path × Document)}
    {declarations : List Location} {old new : String} {file : Path} {span : Span} :
    (ofMember (occurrencesIn symbols texts) declarations old new).Writes new file span ↔
      (∃ key ∈ symbols, ∃ col, nameColumn? key = some col ∧ ∃ g d, (g,d) ∈ texts ∧
        ∃ l ∈ symbolLocations key g d, l.file.same file = true ∧
          span = ⟨l.span.start.right col,(l.span.start.right col).right old.utf8ByteSize⟩) ∨
      ∃ l ∈ declarations, l.file.same file = true ∧ l.span = span := by
  unfold ofMember occurrencesIn
  rw [writes_ofEdits]
  constructor
  · rintro ⟨g,hsame,hmem⟩
    rcases List.mem_append.mp hmem with hmem | hmem
    · obtain ⟨x,hx,hedit⟩ := List.mem_flatMap.mp hmem
      obtain ⟨key,hkey,rfl⟩ := List.mem_map.mp hx
      dsimp only at hedit
      cases hcol : nameColumn? key with
      | none => simp [hcol] at hedit
      | some col =>
        rw [hcol] at hedit
        obtain ⟨l,hl,heq⟩ := List.mem_map.mp hedit
        obtain ⟨y,hy,hly⟩ := List.mem_flatMap.mp hl
        cases heq
        exact .inl ⟨key,List.mem_eraseDups.mp hkey,col,hcol,y.1,y.2,hy,l,hly,hsame,rfl⟩
    · obtain ⟨l,hl,heq⟩ := List.mem_map.mp hmem
      cases heq
      exact .inr ⟨l,hl,hsame,rfl⟩
  · rintro (⟨key,hkey,col,hcol,g,d,hgd,l,hl,hsame,rfl⟩ | ⟨l,hl,hsame,rfl⟩)
    · refine ⟨l.file,hsame,List.mem_append_left _ (List.mem_flatMap.mpr ?_)⟩
      refine ⟨_,List.mem_map.mpr ⟨key,List.mem_eraseDups.mpr hkey,rfl⟩,?_⟩
      dsimp only
      rw [hcol]
      exact List.mem_map.mpr ⟨l,List.mem_flatMap.mpr ⟨_,hgd,hl⟩,rfl⟩
    · exact ⟨l.file,hsame,List.mem_append_right _ (List.mem_map.mpr ⟨l,hl,rfl⟩)⟩

/-- Nor does it count for a member in which order its keys and its declarations are given. -/
theorem get?_edits_ofMember_congr {symbols symbols' : List String} {texts : List (Path × Document)}
    {declarations declarations' : List Location} {old new : String}
    (hsymbols : ∀ key, key ∈ symbols ↔ key ∈ symbols')
    (hdeclarations : ∀ l, l ∈ declarations ↔ l ∈ declarations') (file : Path) :
    (ofMember (occurrencesIn symbols texts) declarations old new).edits.get? file =
      (ofMember (occurrencesIn symbols' texts) declarations' old new).edits.get? file := by
  refine get?_edits_congr (fun x => ?_) file
  simp only [occurrencesIn, List.mem_append, List.mem_flatMap, List.mem_map, List.mem_eraseDups,
    hsymbols, hdeclarations]

/-! ### The arrow of a key -/

theorem splitAtFirst?_append {needle xs ys before after : List Char} (hne : needle ≠ [])
    (h : splitAtFirst? needle (xs ++ (needle ++ ys)) = some (before,after)) :
    before <+: xs ∧ xs ++ (needle ++ ys) = before ++ (needle ++ after) := by
  induction xs generalizing before with
  | nil =>
    obtain ⟨n,ns,rfl⟩ := List.exists_cons_of_ne_nil hne
    have hhere : (n :: ns).isPrefixOf (n :: (ns ++ ys)) = true :=
      List.isPrefixOf_iff_prefix.mpr (List.prefix_append (n :: ns) ys)
    simp only [List.nil_append, List.cons_append, splitAtFirst?, hhere, if_true, Option.some.injEq,
      Prod.mk.injEq] at h
    obtain ⟨rfl,rfl⟩ := h
    simp
  | cons x xs ih =>
    rw [List.cons_append, splitAtFirst?] at h
    split at h
    · next hhere =>
      obtain ⟨rfl,rfl⟩ := Prod.mk.inj (Option.some.inj h)
      obtain ⟨r,hr⟩ := List.isPrefixOf_iff_prefix.mp hhere
      refine ⟨List.nil_prefix,?_⟩
      rw [List.nil_append, List.cons_append, ← hr, List.drop_left]
    · obtain ⟨⟨before',after'⟩,hlater,heq⟩ := Option.map_eq_some_iff.mp h
      obtain ⟨rfl,rfl⟩ := Prod.mk.inj heq
      obtain ⟨hstarts,hsplit⟩ := ih hlater
      exact ⟨List.cons_prefix_cons.mpr ⟨rfl,hstarts⟩,by simp [hsplit]⟩

/-- The name is looked for behind an arrow that is not behind the one of the owner. -/
theorem exists_of_nameColumn? {owner descriptor : String} {col : Nat}
    (h : nameColumn? (referenceKey owner descriptor) = some col) :
    ∃ front behind, front <+: owner.toList ∧ col = byteCount (front ++ "->".toList) ∧
      (referenceKey owner descriptor).toList = front ++ ("->".toList ++ behind) := by
  obtain ⟨⟨front,behind⟩,hsplit,rfl⟩ := Option.map_eq_some_iff.mp h
  have hkey : (referenceKey owner descriptor).toList =
      owner.toList ++ ("->".toList ++ descriptor.toList) := by
    simp [referenceKey]
  rw [hkey] at hsplit
  obtain ⟨hstarts,heq⟩ := splitAtFirst?_append (by decide) hsplit
  exact ⟨front,behind,hstarts,by rw [byteCount_append]; rfl,hkey.trans heq⟩

theorem splitAtFirst?_arrow {owner rest : List Char} (h : '>' ∉ owner) :
    splitAtFirst? "->".toList (owner ++ "->".toList ++ rest) = some (owner,rest) := by
  induction owner with
  | nil => simp [splitAtFirst?]
  | cons c cs ih =>
    have hrest : '>' ∉ cs := fun hmem => h (List.mem_cons_of_mem _ hmem)
    have hno : "->".toList.isPrefixOf (c :: (cs ++ "->".toList ++ rest)) = false := by
      cases cs with
      | nil => simp [List.isPrefixOf]
      | cons d ds =>
        have hd : '>' ≠ d := fun heq => hrest (heq ▸ List.mem_cons_self)
        simp [List.isPrefixOf, hd]
    rw [List.cons_append, List.cons_append, splitAtFirst?, hno, ih hrest]
    rfl

theorem nameColumn?_key {owner : String} (h : '>' ∉ owner.toList) (f : Field) :
    nameColumn? (f.key owner) = some (owner.utf8ByteSize + 2) := by
  unfold nameColumn? Field.key referenceKey
  rw [String.toList_append, String.toList_append, splitAtFirst?_arrow h, Option.map_some,
    ← byteCount_toList]

end RenameEdits

theorem Query.exists_ok_of_any {ε α : Type} {answer : Option (Except ε α)} {P : α → Bool}
    (h : (answer.bind Except.toOption).any P = true) : ∃ x, answer = some (.ok x) ∧ P x = true := by
  obtain ⟨x,hx,hP⟩ := (Option.any_eq_true _ _).mp h
  obtain ⟨result,rfl,hresult⟩ := Option.bind_eq_some_iff.mp hx
  cases result with
  | error e => cases hresult
  | ok y =>
    obtain rfl : y = x := Option.some.inj hresult
    exact ⟨y,rfl,hP⟩

end SmaliNavigator
