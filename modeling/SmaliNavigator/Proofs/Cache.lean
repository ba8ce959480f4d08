import SmaliNavigator.Cache
import SmaliNavigator.Proofs.PathMap

/-!
What the cache has of a file after it was asked, filled or cleared of one. Room is made by dropping
entries, so that what is still found is what was stored, and the bytes of what is kept fit.
-/

set_option autoImplicit false

namespace SmaliNavigator.Cache

theorem fst_get (c : Cache) (file : Path) : (c.get file).1 = (c.find? file).map (·.2) := by
  unfold get
  cases c.find? file <;> rfl

@[simp] theorem get_new (capacity : Nat) (file : Path) : ((new capacity).get file).1 = none := rfl

theorem get_of_none {c : Cache} {file : Path} (h : (c.get file).1 = none) :
    c.get file = (none,c) := by
  unfold get at h ⊢
  cases hf : c.find? file with
  | none => rfl
  | some e => simp [hf] at h

theorem find?_same (c : Cache) {f g : Path} (h : f.same g = true) : c.find? f = c.find? g := by
  unfold find?
  congr 1
  funext e
  exact Path.same_right h e.1

theorem find?_others (c : Cache) (f g : Path) :
    (c.others f).find? (·.1.same g) = if g.same f then none else c.find? g := by
  unfold others find?
  rw [List.find?_filter]
  by_cases h : g.same f = true
  · rw [if_pos h, List.find?_eq_none]
    intro e _
    simp [Path.same_right h]
  · rw [if_neg h]
    congr 1
    funext e
    cases he : e.1.same g with
    | false => simp
    | true =>
      have hne : e.1.same f = false := by rw [Path.same_left he]; simpa using h
      simp [hne]

theorem get_get (c : Cache) (f g : Path) : ((c.get f).2.get g).1 = (c.get g).1 := by
  rw [fst_get, fst_get]
  unfold get
  cases hf : c.find? f with
  | none => rfl
  | some e =>
    have he : e.1.same f = true := by
      have := List.find?_some hf
      simpa using this
    change ((e :: c.others f).find? (·.1.same g)).map (·.2) = _
    rw [List.find?_cons, find?_others]
    by_cases h : g.same f = true
    · have hg : e.1.same g = true := by rw [Path.same_left he, Path.same_comm]; exact h
      simp [hg, find?_same c h, hf]
    · have hg : e.1.same g = false := by
        rw [Path.same_left he, Path.same_comm]
        simpa using h
      simp [hg, h]

theorem get_remove (c : Cache) (f g : Path) :
    ((c.remove f).2.get g).1 = if g.same f then none else (c.get g).1 := by
  rw [fst_get, fst_get]
  unfold remove
  cases hf : c.find? f with
  | none =>
    by_cases h : g.same f = true
    · simp [find?_same c h, hf, h]
    · simp [h]
  | some e =>
    change ((c.others f).find? (·.1.same g)).map (·.2) = _
    rw [find?_others]
    split <;> rfl

theorem evict_suffix (capacity bytes : Nat) (es : List (Path × Class)) :
    (evict capacity bytes es).2.1 <:+ es := by
  induction es generalizing bytes with
  | nil => exact List.suffix_refl _
  | cons e es ih =>
    unfold evict
    split
    · exact List.suffix_refl _
    · exact (ih _).trans (List.suffix_cons e es)

theorem same_spelled (c : Cache) (file : Path) :
    (((c.find? file).map (·.1)).getD file).same file = true := by
  cases hf : c.find? file with
  | none => simp
  | some e =>
    have he := List.find?_some hf
    simpa using he

/-- What is found of a file that a class was stored for is that class, and of another file what was
found before. -/
theorem get_insert {c : Cache} {f g : Path} {stored found : Class}
    (h : ((c.insert f stored).2.get g).1 = some found) :
    if g.same f then found = stored else (c.get g).1 = some found := by
  unfold insert at h
  split at h
  · rw [get_remove] at h
    split at h
    · simp at h
    · simp_all
  · generalize hspelled : ((c.find? f).map (·.1)).getD f = spelled at h
    have hsame : spelled.same f = true := hspelled ▸ c.same_spelled f
    -- what is dropped is at the end, and what is found among the rest is found first of all
    have hprefix := List.reverse_prefix.mpr (evict_suffix c.capacity
      ((c.remove f).2.bytes + stored.byteSize) ((spelled,stored) :: (c.remove f).2.entries).reverse)
    rw [fst_get, Option.map_eq_some_iff] at h
    obtain ⟨e,he,rfl⟩ := h
    have hall := hprefix.find?_eq_some he
    rw [List.reverse_reverse, List.find?_cons] at hall
    by_cases hg : g.same f = true
    · have hfirst : spelled.same g = true := by rw [Path.same_left hsame, Path.same_comm]; exact hg
      simp only [hfirst, Option.some.injEq] at hall
      simp [hg, ← hall]
    · have hfirst : spelled.same g = false := by
        rw [Path.same_left hsame, Path.same_comm]
        simpa using hg
      have hold := get_remove c f g
      rw [fst_get, if_neg hg] at hold
      simp only [hfirst] at hall
      rw [if_neg hg, ← hold]
      exact congrArg (Option.map (·.2)) hall

/-! ### The bytes of what is kept -/

/-- The bytes of the classes of some entries. -/
def bytesOf : List (Path × Class) → Nat
  | [] => 0
  | e :: es => e.2.byteSize + bytesOf es

@[simp] theorem bytesOf_nil : bytesOf [] = 0 := rfl

@[simp] theorem bytesOf_cons (e : Path × Class) (es : List (Path × Class)) :
    bytesOf (e :: es) = e.2.byteSize + bytesOf es := rfl

theorem bytesOf_perm {es es' : List (Path × Class)} (h : es.Perm es') :
    bytesOf es = bytesOf es' := by
  induction h with
  | nil => rfl
  | cons e _ ih => simp [ih]
  | swap e f _ => simp [Nat.add_left_comm]
  | trans _ _ ih ih' => exact ih.trans ih'

/-- Each file has one entry at most, and the bytes are those of the entries and fit. -/
structure Valid (c : Cache) : Prop where
  apart : c.entries.Pairwise fun a b => a.1.same b.1 = false
  bytes : c.bytes = bytesOf c.entries
  fits : c.bytes ≤ c.capacity

theorem valid_new (capacity : Nat) : (new capacity).Valid := ⟨.nil,rfl,Nat.zero_le _⟩

theorem perm_others {es : List (Path × Class)} (h : es.Pairwise fun a b => a.1.same b.1 = false)
    {file : Path} {e : Path × Class} (he : es.find? (·.1.same file) = some e) :
    es.Perm (e :: es.filter (!·.1.same file)) := by
  induction es with
  | nil => simp at he
  | cons a es ih =>
    obtain ⟨hfirst,hrest⟩ := List.pairwise_cons.mp h
    by_cases ha : a.1.same file = true
    · obtain rfl : a = e := by simpa [ha] using he
      have hothers : es.filter (!·.1.same file) = es := by
        refine List.filter_eq_self.mpr fun b hb => ?_
        have hab := hfirst b hb
        rw [Path.same_left ha, Path.same_comm] at hab
        simp [hab]
      simp [ha, hothers]
    · have hfound : es.find? (·.1.same file) = some e := by simpa [ha] using he
      have hperm := (ih hrest hfound).cons a
      simpa [ha] using hperm.trans (.swap e a _)

theorem bytesOf_others {es : List (Path × Class)}
    (h : es.Pairwise fun a b => a.1.same b.1 = false) {file : Path} {e : Path × Class}
    (he : es.find? (·.1.same file) = some e) :
    bytesOf es = e.2.byteSize + bytesOf (es.filter (!·.1.same file)) := by
  rw [bytesOf_perm (perm_others h he), bytesOf_cons]

theorem apart_others {es : List (Path × Class)}
    (h : es.Pairwise fun a b => a.1.same b.1 = false) {f file : Path} (hf : f.same file = true)
    (stored : Class) :
    ((f,stored) :: es.filter (!·.1.same file)).Pairwise fun a b => a.1.same b.1 = false := by
  refine List.pairwise_cons.mpr ⟨fun b hb => ?_,h.filter _⟩
  have hb := (List.mem_filter.mp hb).2
  rw [Path.same_left hf, Path.same_comm]
  simpa using hb

theorem Valid.get {c : Cache} (h : c.Valid) (file : Path) : (c.get file).2.Valid := by
  unfold Cache.get
  cases he : c.find? file with
  | none => exact h
  | some e =>
    have hbytes := bytesOf_others h.apart he
    have hsame : e.1.same file = true := by simpa using List.find?_some he
    refine ⟨apart_others h.apart hsame e.2,?_,h.fits⟩
    simpa [others, ← hbytes] using h.bytes

theorem Valid.remove {c : Cache} (h : c.Valid) (file : Path) : (c.remove file).2.Valid := by
  unfold Cache.remove
  cases he : c.find? file with
  | none => exact h
  | some e =>
    have hbytes := bytesOf_others h.apart he
    have hall := h.bytes
    have hfits := h.fits
    refine ⟨h.apart.filter _,?_,?_⟩ <;> simp only [others] <;> omega

theorem bytes_evict (capacity : Nat) (es : List (Path × Class)) :
    (evict capacity (bytesOf es) es).2.2 = bytesOf (evict capacity (bytesOf es) es).2.1 ∧
      (evict capacity (bytesOf es) es).2.2 ≤ capacity := by
  induction es with
  | nil => simp [evict]
  | cons e es ih =>
    unfold evict
    split
    · next hfits => exact ⟨rfl,hfits⟩
    · simpa using ih

theorem evict_concat {capacity : Nat} {e : Path × Class} (h : e.2.byteSize ≤ capacity)
    (es : List (Path × Class)) :
    ∃ kept, (evict capacity (bytesOf (es ++ [e])) (es ++ [e])).2.1 = kept ++ [e] := by
  induction es with
  | nil => exact ⟨[],by simp [evict, h]⟩
  | cons a es ih =>
    unfold evict
    dsimp only [List.cons_append]
    split
    · exact ⟨a :: es,rfl⟩
    · simpa using ih

theorem remove_eq_others (c : Cache) (file : Path) :
    (c.remove file).2.entries = c.others file := by
  unfold Cache.remove
  cases he : c.find? file with
  | some e => rfl
  | none =>
    refine (List.filter_eq_self.mpr fun b hb => ?_).symm
    simpa using List.find?_eq_none.mp he b hb

@[simp] theorem capacity_get (c : Cache) (file : Path) : (c.get file).2.capacity = c.capacity := by
  unfold Cache.get
  split <;> rfl

@[simp] theorem capacity_remove (c : Cache) (file : Path) :
    (c.remove file).2.capacity = c.capacity := by
  unfold Cache.remove
  split <;> rfl

@[simp] theorem capacity_insert (c : Cache) (file : Path) (stored : Class) :
    (c.insert file stored).2.capacity = c.capacity := by
  unfold Cache.insert
  split <;> simp

theorem bytesOf_toInsert {c : Cache} (h : c.Valid) (file f : Path) (stored : Class) :
    (c.remove file).2.bytes + stored.byteSize =
      bytesOf ((f,stored) :: (c.remove file).2.entries).reverse := by
  rw [bytesOf_perm (List.reverse_perm _), bytesOf_cons, (h.remove file).bytes, Nat.add_comm]

theorem Valid.insert {c : Cache} (h : c.Valid) (file : Path) (stored : Class) :
    (c.insert file stored).2.Valid := by
  unfold Cache.insert
  split
  · exact h.remove file
  · generalize hspelled : ((c.find? file).map (·.1)).getD file = spelled
    have hsame : spelled.same file = true := hspelled ▸ c.same_spelled file
    have hbytes := bytesOf_toInsert h file spelled stored
    have hleft := bytes_evict c.capacity ((spelled,stored) :: (c.remove file).2.entries).reverse
    have hprefix := List.reverse_prefix.mpr (evict_suffix c.capacity
      ((c.remove file).2.bytes + stored.byteSize) ((spelled,stored) :: (c.remove file).2.entries).reverse)
    rw [← hbytes] at hleft
    refine ⟨?_,hleft.1.trans (bytesOf_perm (List.reverse_perm _).symm),hleft.2⟩
    have hall : ((spelled,stored) :: (c.remove file).2.entries).Pairwise
        fun a b => a.1.same b.1 = false := by
      rw [remove_eq_others]
      exact apart_others h.apart hsame stored
    rw [List.reverse_reverse] at hprefix
    exact hall.sublist hprefix.sublist

theorem get_insert_self {c : Cache} (h : c.Valid) (file : Path) {stored : Class}
    (hfits : stored.byteSize ≤ c.capacity) :
    ((c.insert file stored).2.get file).1 = some stored := by
  unfold Cache.insert
  rw [if_neg (by omega)]
  generalize hspelled : ((c.find? file).map (·.1)).getD file = spelled
  have hsame : spelled.same file = true := hspelled ▸ c.same_spelled file
  have hbytes := bytesOf_toInsert h file spelled stored
  obtain ⟨kept,hkept⟩ := evict_concat (e := (spelled,stored)) hfits (c.remove file).2.entries.reverse
  rw [← List.reverse_cons, ← hbytes] at hkept
  rw [fst_get, find?]
  dsimp only
  rw [hkept]
  simp [hsame]

theorem Valid.byteSize_le {c : Cache} (h : c.Valid) {file : Path} {found : Class}
    (hf : (c.get file).1 = some found) : found.byteSize ≤ c.capacity := by
  rw [fst_get, Option.map_eq_some_iff] at hf
  obtain ⟨e,he,rfl⟩ := hf
  have hbytes := bytesOf_others h.apart he
  have hall := h.bytes
  have hfits := h.fits
  omega

end SmaliNavigator.Cache
