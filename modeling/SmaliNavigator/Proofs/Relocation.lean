import SmaliNavigator.Path

/-!
Where files go. What comes of a path counts, but for how it is written, only by what the path is
compared by: the same file moves to the same place.
-/

set_option autoImplicit false

namespace SmaliNavigator

namespace Text

variable {α : Type} {p : α → Bool}

theorem splitWhere_ne_nil (cs : List α) : splitWhere p cs ≠ [] := by
  cases cs with
  | nil => simp [splitWhere]
  | cons c cs =>
    unfold splitWhere
    split
    · simp
    · split <;> simp

theorem splitWhere_append_cons {c : α} (hc : p c = true) (as bs : List α) :
    splitWhere p (as ++ c :: bs) = splitWhere p as ++ splitWhere p bs := by
  induction as with
  | nil => simp [splitWhere, hc]
  | cons a as ih =>
    rw [List.cons_append, splitWhere, splitWhere, ih]
    cases ha : p a with
    | true => rfl
    | false =>
      cases hs : splitWhere p as with
      | nil => exact absurd hs (splitWhere_ne_nil as)
      | cons part parts => rfl

/-- A text is one part, or its first part ends where there is a first item of the kind. -/
theorem splitWhere_cases (cs : List α) : splitWhere p cs = [cs] ∨
    ∃ first c rest, cs = first ++ c :: rest ∧ p c = true ∧ splitWhere p first = [first] := by
  induction cs with
  | nil => exact .inl rfl
  | cons c cs ih =>
    cases hc : p c with
    | true => exact .inr ⟨[],c,cs,rfl,hc,rfl⟩
    | false =>
      rcases ih with hone | ⟨first,d,rest,rfl,hd,hfirst⟩
      · exact .inl (by simp [splitWhere, hc, hone])
      · exact .inr ⟨c :: first,d,rest,rfl,hd,by simp [splitWhere, hc, hfirst]⟩

end Text

namespace Path

open Text

theorem pieces_slash (as bs : List UInt8) : splitWhere (· == slash) (as ++ slash :: bs) =
    splitWhere (· == slash) as ++ splitWhere (· == slash) bs :=
  splitWhere_append_cons (p := (· == slash)) (beq_self_eq_true slash) as bs

theorem pieces_cases (bs : List UInt8) : splitWhere (· == slash) bs = [bs] ∨ ∃ first rest,
    bs = first ++ slash :: rest ∧ splitWhere (· == slash) first = [first] ∧
      splitWhere (· == slash) bs = first :: splitWhere (· == slash) rest := by
  rcases splitWhere_cases (p := (· == slash)) bs with hone | ⟨first,c,rest,rfl,hc,hfirst⟩
  · exact .inl hone
  · obtain rfl : c = slash := by simpa using hc
    refine .inr ⟨first,rest,rfl,hfirst,?_⟩
    rw [pieces_slash, hfirst, List.singleton_append]

/-- The components of pieces between slashes. -/
def componentsOf (isFirst : Bool) : List EntryName → List Component
  | [] => []
  | piece :: pieces => (component? isFirst piece).toList ++ componentsOf false pieces

theorem map_component_partsFrom (place : Nat) (ps : List EntryName) :
    (partsFrom place ps).map (·.component) = componentsOf (place == 0) ps := by
  induction ps generalizing place with
  | nil => rfl
  | cons piece ps ih =>
    rw [partsFrom, componentsOf, List.map_append, ih]
    cases component? (place == 0) piece <;> rfl

theorem componentsOf_append (isFirst : Bool) {ps : List EntryName} (hps : ps ≠ []) (qs : List EntryName) :
    componentsOf isFirst (ps ++ qs) = componentsOf isFirst ps ++ componentsOf false qs := by
  induction ps generalizing isFirst with
  | nil => exact absurd rfl hps
  | cons piece ps ih =>
    cases ps with
    | nil => simp [componentsOf]
    | cons piece' ps =>
      rw [List.cons_append, componentsOf, ih false (by simp)]
      simp [componentsOf]

theorem key_eq (p : Path) : p.key =
    (if p.isAbsolute then [.root] else []) ++ componentsOf true p.pieces := by
  unfold key parts isAbsolute
  simp only [decide_eq_true_eq]
  split <;> simp [map_component_partsFrom]

theorem component?_eq_none {isFirst : Bool} {piece : EntryName} (h : component? isFirst piece = none) :
    piece = [] ∨ isFirst = false := by
  unfold component? at h
  split at h
  · exact .inl ‹_›
  · split at h
    · cases isFirst with
      | false => exact .inr rfl
      | true => simp at h
    · split at h <;> cases h

theorem key_eq_nil_iff (p : Path) : p.key = [] ↔ p.bytes = [] := by
  constructor
  · intro h
    rw [key_eq, List.append_eq_nil_iff] at h
    obtain ⟨habs,hnone⟩ := h
    have hfirst {piece : EntryName} {ps : List EntryName} (hps : p.pieces = piece :: ps) : piece = [] := by
      rw [hps, componentsOf, List.append_eq_nil_iff, Option.toList_eq_nil_iff] at hnone
      rcases component?_eq_none hnone.1 with hnil | hfalse
      · exact hnil
      · cases hfalse
    rcases pieces_cases p.bytes with hone | ⟨first,rest,hbytes,-,hps⟩
    · exact hfirst hone
    · obtain rfl := hfirst hps
      simp [isAbsolute, hbytes] at habs
  · intro h
    simp [key, parts, pieces, h, splitWhere, partsFrom, component?]

theorem partsFrom_take {bs : List UInt8} {place : Nat} {before : List PathPart} {part : PathPart}
    {after : List PathPart}
    (h : partsFrom place (splitWhere (· == slash) bs) = before ++ part :: after) :
    ∃ n > 0, part.stop = place + n ∧
      partsFrom place (splitWhere (· == slash) (bs.take n)) = before ++ [part] := by
  induction hn : bs.length using Nat.strongRecOn generalizing bs place before with
  | _ n ih =>
  -- the first piece makes a part or none
  have hstep (first : List UInt8) (ps : List EntryName) (hps : splitWhere (· == slash) bs = first :: ps)
      (hone : splitWhere (· == slash) first = [first]) (htake : bs.take first.length = first)
      (hrest : ∀ l1, partsFrom (place + first.length + 1) ps = l1 ++ part :: after →
        ∃ n > 0, part.stop = place + n ∧ partsFrom place (splitWhere (· == slash) (bs.take n)) =
          ((component? (place == 0) first).map fun c => ⟨c,place,place + first.length⟩).toList ++
            (l1 ++ [part])) :
      ∃ n > 0, part.stop = place + n ∧
        partsFrom place (splitWhere (· == slash) (bs.take n)) = before ++ [part] := by
    rw [hps, partsFrom] at h
    cases hc : component? (place == 0) first with
    | none =>
      rw [hc] at h hrest
      exact hrest before h
    | some c =>
      rw [hc] at h hrest
      cases before with
      | nil =>
        obtain ⟨rfl,-⟩ := List.cons.inj h
        refine ⟨first.length,?_,rfl,?_⟩
        · cases first with
          | nil => simp [component?] at hc
          | cons b bs => simp
        · rw [htake, hone, partsFrom, hc]
          rfl
      | cons x before =>
        obtain ⟨rfl,htail⟩ := List.cons.inj h
        exact hrest before htail
  rcases pieces_cases bs with hone | ⟨first,rest,rfl,hone,hps⟩
  · refine hstep bs [] hone hone List.take_length fun l1 hl1 => ?_
    exact absurd hl1 (by simp [partsFrom])
  · refine hstep first _ hps hone (by simp) fun l1 hl1 => ?_
    obtain ⟨k,hk,hstop,hparts⟩ := ih rest.length (by simp at hn; omega) hl1 rfl
    refine ⟨first.length + 1 + k,by omega,by omega,?_⟩
    have htake : (first ++ slash :: rest).take (first.length + 1 + k) = first ++ slash :: rest.take k := by
      rw [Nat.add_assoc, List.take_length_add_append, Nat.add_comm 1 k, List.take_succ_cons]
    rw [htake, pieces_slash, hone, List.singleton_append, partsFrom, hparts]

theorem key_between {p : Path} {before : List PathPart} {part : PathPart} {after : List PathPart}
    (h : p.parts = before ++ part :: after) :
    (p.between 0 part.stop).key = before.map (·.component) ++ [part.component] := by
  have hhead {n : Nat} (hn : 0 < n) : (p.bytes.take n).head? = p.bytes.head? := by
    rw [List.head?_take, if_neg (by omega)]
  have hnamed {before : List PathPart} (h : partsFrom 0 p.pieces = before ++ part :: after) :
      0 < part.stop ∧ partsFrom 0 (p.between 0 part.stop).pieces = before ++ [part] := by
    obtain ⟨n,hn,hstop,hparts⟩ := partsFrom_take h
    obtain rfl : part.stop = n := by omega
    exact ⟨hn,hparts⟩
  by_cases habs : p.bytes.head? = some slash
  · rw [parts, if_pos habs] at h
    cases before with
    | nil =>
      obtain ⟨rfl,-⟩ := List.cons.inj h
      obtain ⟨bs,hbytes⟩ := List.head?_eq_some_iff.mp habs
      simp [key, parts, between, hbytes, pieces, splitWhere, partsFrom, component?]
    | cons x before =>
      obtain ⟨rfl,htail⟩ := List.cons.inj h
      obtain ⟨hpos,hparts⟩ := hnamed htail
      have hroot : (p.between 0 part.stop).bytes.head? = some slash := (hhead hpos).trans habs
      rw [key, parts, if_pos hroot, hparts]
      simp
  · rw [parts, if_neg habs] at h
    obtain ⟨hpos,hparts⟩ := hnamed h
    have hroot : (p.between 0 part.stop).bytes.head? ≠ some slash := by
      rw [show (p.between 0 part.stop).bytes.head? = p.bytes.head? from hhead hpos]
      exact habs
    rw [key, parts, if_neg hroot, hparts]
    simp

/-- A path without its last part, unless that is the root, has the components before it. -/
theorem key_pop (p : Path) :
    p.pop.key = if p.key.getLast? = some .root then p.key else p.key.dropLast := by
  unfold pop parent?
  cases hrev : p.parts.reverse with
  | nil =>
    have hparts : p.parts = [] := List.reverse_eq_nil_iff.mp hrev
    simp [key, hparts]
  | cons last before =>
    have hparts : p.parts = before.reverse ++ [last] := by
      rw [← List.reverse_reverse p.parts, hrev, List.reverse_cons]
    have hkey : p.key = before.reverse.map (·.component) ++ [last.component] := by
      rw [key, hparts, List.map_append]
      rfl
    rw [hkey]
    simp only [List.getLast?_append, List.getLast?_singleton, Option.some_or, Option.some.injEq,
      List.dropLast_concat]
    split
    · exact hkey
    · cases before with
      | nil => rfl
      | cons x before =>
        have hsplit : p.parts = before.reverse ++ x :: [last] := by
          rw [hparts, List.reverse_cons, List.append_assoc]
          rfl
        simpa using key_between hsplit

theorem key_join {p q : Path} (hp : p.key ≠ []) (hq : q.isAbsolute = false) :
    (p.join q).key = p.key ++ componentsOf false q.pieces := by
  have hbytes : p.bytes ≠ [] := fun h => hp ((key_eq_nil_iff p).mpr h)
  have hkey (as : List UInt8) (hhead : (as ++ slash :: q.bytes).head? = p.bytes.head?)
      (hcomponents : componentsOf true (splitWhere (· == slash) as) = componentsOf true p.pieces) :
      (Path.mk (as ++ slash :: q.bytes)).key = p.key ++ componentsOf false q.pieces := by
    rw [key_eq, key_eq p, pieces, pieces_slash, componentsOf_append true (splitWhere_ne_nil as),
      hcomponents, isAbsolute, isAbsolute, hhead, List.append_assoc]
    rfl
  unfold join
  rw [if_neg (by simp [hq])]
  split
  · next h =>
    obtain ⟨as,has⟩ := List.getLast?_eq_some_iff.mp (h.resolve_left (by simpa using hbytes))
    have hall : p.bytes ++ q.bytes = as ++ slash :: q.bytes := by rw [has]; simp
    rw [hall]
    refine hkey as ?_ ?_
    · rw [has]
      cases as <;> rfl
    · rw [pieces, has, pieces_slash, componentsOf_append true (splitWhere_ne_nil as)]
      simp [splitWhere, componentsOf, component?]
  · refine hkey p.bytes ?_ rfl
    obtain ⟨b,bs,hb⟩ := List.exists_cons_of_ne_nil hbytes
    rw [hb]
    rfl

theorem key_join_congr {p q : Path} (h : p.key = q.key) (r : Path) : (p.join r).key = (q.join r).key := by
  cases hr : r.isAbsolute with
  | true => rw [join, join, if_pos hr, if_pos hr]
  | false =>
    by_cases hp : p.key = []
    · have hbytes : p.bytes = q.bytes := by
        rw [(key_eq_nil_iff p).mp hp, (key_eq_nil_iff q).mp (h ▸ hp)]
      obtain rfl : p = q := congrArg Path.mk hbytes
      rfl
    · rw [key_join hp hr, key_join (h ▸ hp) hr, h]

theorem key_pop_congr {p q : Path} (h : p.key = q.key) : p.pop.key = q.pop.key := by
  rw [key_pop, key_pop, h]

theorem key_repeat_pop {p q : Path} (h : p.key = q.key) (n : Nat) :
    (Nat.repeat pop n p).key = (Nat.repeat pop n q).key := by
  induction n with
  | zero => exact h
  | succ n ih => exact key_pop_congr ih

theorem same_relocated {p q : Path} (h : p.same q = true) (old new : Path) :
    (p.relocated old new).same (q.relocated old new) = true := by
  have hkey := (same_iff p q).mp h
  rw [same_iff]
  unfold relocated withFileName endsWith fileName?
  rw [hkey]
  split
  · exact key_join_congr (key_repeat_pop hkey _) new
  · refine key_join_congr ?_ _
    split
    · exact key_pop_congr hkey
    · exact hkey

end Path

end SmaliNavigator
