/-!
Finite maps with their entries in increasing key order, so that two maps with the same entries are
equal.

Main statements: `get?_insert` and `get?_erase`, what a look-up finds behind a change, and
`ext_get?`, that nothing but look-ups tells two maps apart.
-/

set_option autoImplicit false

namespace SmaliNavigator

/-- Entries in increasing key order. -/
structure OrdMap (κ α : Type) [Ord κ] where
  entries : List (κ × α)
  sorted : entries.Pairwise fun d e => compare d.1 e.1 = .lt
  deriving DecidableEq, Repr

namespace OrdMap

variable {κ α β : Type} [Ord κ]

def empty : OrdMap κ α := ⟨[],.nil⟩

instance : EmptyCollection (OrdMap κ α) := ⟨empty⟩
instance : Inhabited (OrdMap κ α) := ⟨empty⟩

def keys (m : OrdMap κ α) : List κ := m.entries.map (·.1)
def values (m : OrdMap κ α) : List α := m.entries.map (·.2)
def size (m : OrdMap κ α) : Nat := m.entries.length
def isEmpty (m : OrdMap κ α) : Bool := m.entries.isEmpty

def find? (k : κ) : List (κ × α) → Option α
  | [] => none
  | e :: es => if compare k e.1 = .eq then some e.2 else find? k es

def get? (m : OrdMap κ α) (k : κ) : Option α := find? k m.entries

def contains (m : OrdMap κ α) (k : κ) : Bool :=
  (m.get? k).isSome

def insertEntry (k : κ) (a : α) : List (κ × α) → List (κ × α)
  | [] => [(k,a)]
  | e :: es =>
    match compare k e.1 with
    | .lt => (k,a) :: e :: es
    | .eq => (k,a) :: es
    | .gt => e :: insertEntry k a es

def eraseKey (k : κ) (es : List (κ × α)) : List (κ × α) :=
  es.filter (fun e => compare k e.1 != .eq)

theorem mem_insertEntry {k : κ} {a : α} {es : List (κ × α)} {x : κ × α}
    (h : x ∈ insertEntry k a es) : x = (k,a) ∨ x ∈ es := by
  induction es with
  | nil => simpa [insertEntry] using h
  | cons e es ih =>
    rw [insertEntry] at h
    split at h
    · simpa using h
    · rcases List.mem_cons.mp h with rfl | hx
      · exact .inl rfl
      · exact .inr (List.mem_cons_of_mem _ hx)
    · rcases List.mem_cons.mp h with rfl | hx
      · exact .inr List.mem_cons_self
      · exact (ih hx).imp_right (List.mem_cons_of_mem _)

theorem pairwise_insertEntry [Std.TransOrd κ] (k : κ) (a : α) {es : List (κ × α)}
    (h : es.Pairwise fun d e => compare d.1 e.1 = .lt) :
    (insertEntry k a es).Pairwise fun d e => compare d.1 e.1 = .lt := by
  induction es with
  | nil => simp [insertEntry]
  | cons e es ih =>
    obtain ⟨first,later⟩ := List.pairwise_cons.mp h
    rw [insertEntry]
    split
    next lt =>
      refine .cons (fun x hx => ?_) h
      rcases List.mem_cons.mp hx with rfl | hx
      · exact lt
      · exact Std.TransCmp.lt_trans lt (first x hx)
    next eq => exact .cons (fun x hx => Std.TransCmp.lt_of_eq_of_lt eq (first x hx)) later
    next gt =>
      refine .cons (fun x hx => ?_) (ih later)
      rcases mem_insertEntry hx with rfl | hx
      · exact Std.OrientedCmp.lt_of_gt gt
      · exact first x hx

def insert [Std.TransOrd κ] (m : OrdMap κ α) (k : κ) (a : α) : OrdMap κ α :=
  ⟨insertEntry k a m.entries,pairwise_insertEntry k a m.sorted⟩

def erase (m : OrdMap κ α) (k : κ) : OrdMap κ α :=
  ⟨eraseKey k m.entries,m.sorted.filter _⟩

def mapValues (f : α → β) (m : OrdMap κ α) : OrdMap κ β :=
  ⟨m.entries.map fun e => (e.1,f e.2),List.pairwise_map.mpr m.sorted⟩

@[simp] theorem get?_empty (k : κ) : (∅ : OrdMap κ α).get? k = none := rfl

theorem find?_insertEntry [Std.TransOrd κ] (k : κ) (a : α) (es : List (κ × α)) (l : κ) :
    find? l (insertEntry k a es) = if compare l k = .eq then some a else find? l es := by
  induction es with
  | nil => simp [insertEntry, find?]
  | cons e es ih =>
    rw [insertEntry]
    split
    next lt => rw [find?]
    next eq =>
      have same : compare l k = compare l e.1 := Std.TransCmp.congr_right eq
      rw [find?, find?, same]
      split <;> rfl
    next gt =>
      rw [find?, find?, ih]
      by_cases atHead : compare l e.1 = .eq
      · have other : compare l k ≠ .eq := fun h => by
          rw [Std.TransCmp.congr_left (Std.OrientedCmp.eq_symm h), atHead] at gt
          cases gt
        simp [atHead, other]
      · simp [atHead]

theorem get?_insert [Std.TransOrd κ] (m : OrdMap κ α) (k : κ) (a : α) (l : κ) :
    (m.insert k a).get? l = if compare l k = .eq then some a else m.get? l :=
  find?_insertEntry k a m.entries l

theorem find?_eraseKey [Std.TransOrd κ] (k : κ) (es : List (κ × α)) (l : κ) :
    find? l (eraseKey k es) = if compare l k = .eq then none else find? l es := by
  induction es with
  | nil => simp [eraseKey, find?]
  | cons e es ih =>
    by_cases gone : compare k e.1 = .eq
    · have same : compare l k = compare l e.1 := Std.TransCmp.congr_right gone
      have dropped : eraseKey k (e :: es) = eraseKey k es := by simp [eraseKey, gone]
      rw [dropped, ih, find?, same]
      split <;> rfl
    · have kept : eraseKey k (e :: es) = e :: eraseKey k es := by simp [eraseKey, gone]
      rw [kept, find?, find?, ih]
      by_cases atHead : compare l e.1 = .eq
      · have other : compare l k ≠ .eq := fun h =>
          gone (Std.TransCmp.eq_trans (Std.OrientedCmp.eq_symm h) atHead)
        simp [atHead, other]
      · simp [atHead]

theorem get?_erase [Std.TransOrd κ] (m : OrdMap κ α) (k l : κ) :
    (m.erase k).get? l = if compare l k = .eq then none else m.get? l :=
  find?_eraseKey k m.entries l

theorem get?_mapValues (f : α → β) (m : OrdMap κ α) (k : κ) :
    (m.mapValues f).get? k = (m.get? k).map f := by
  have h (es : List (κ × α)) :
      find? k (es.map fun e => (e.1,f e.2)) = (find? k es).map f := by
    induction es with
    | nil => rfl
    | cons e es ih =>
      rw [List.map_cons, find?, find?, ih]
      split <;> rfl
  exact h m.entries

theorem find?_eq_some_iff [Std.TransOrd κ] [Std.LawfulEqOrd κ] {es : List (κ × α)}
    (h : es.Pairwise fun d e => compare d.1 e.1 = .lt) (k : κ) (a : α) :
    find? k es = some a ↔ (k,a) ∈ es := by
  induction es with
  | nil => simp [find?]
  | cons e es ih =>
    obtain ⟨first,later⟩ := List.pairwise_cons.mp h
    rw [find?, List.mem_cons]
    by_cases atHead : compare k e.1 = .eq
    · obtain rfl : k = e.1 := Std.LawfulEqOrd.eq_of_compare atHead
      have absent : (e.1,a) ∉ es := fun hm => by
        have := first _ hm
        rw [atHead] at this
        cases this
      rw [if_pos atHead]
      simp [absent, Prod.ext_iff, eq_comm]
    · have other : (k,a) ≠ e := fun h => atHead (h ▸ Std.ReflCmp.compare_self)
      simp [atHead, other, ih later]

theorem get?_eq_some_iff [Std.TransOrd κ] [Std.LawfulEqOrd κ] (m : OrdMap κ α) (k : κ) (a : α) :
    m.get? k = some a ↔ (k,a) ∈ m.entries :=
  find?_eq_some_iff m.sorted k a

theorem mem_keys_iff [Std.TransOrd κ] [Std.LawfulEqOrd κ] (m : OrdMap κ α) (k : κ) :
    k ∈ m.keys ↔ ∃ a, m.get? k = some a := by
  simp [keys, get?_eq_some_iff]

theorem entries_ext [Std.TransOrd κ] [Std.LawfulEqOrd κ] {ds es : List (κ × α)}
    (hd : ds.Pairwise fun d e => compare d.1 e.1 = .lt)
    (he : es.Pairwise fun d e => compare d.1 e.1 = .lt) (h : ∀ x, x ∈ ds ↔ x ∈ es) : ds = es := by
  induction ds generalizing es with
  | nil => exact (List.eq_nil_iff_forall_not_mem.mpr fun x hx => by simpa using (h x).mpr hx).symm
  | cons d ds ih =>
    cases es with
    | nil => simpa using (h d).mp List.mem_cons_self
    | cons e es =>
      obtain ⟨dFirst,dLater⟩ := List.pairwise_cons.mp hd
      obtain ⟨eFirst,eLater⟩ := List.pairwise_cons.mp he
      have irrefl (x : κ × α) : compare x.1 x.1 ≠ .lt := by simp [Std.ReflCmp.compare_self]
      have heads : d = e := by
        rcases List.mem_cons.mp ((h d).mp List.mem_cons_self) with same | behind
        · exact same
        · rcases List.mem_cons.mp ((h e).mpr List.mem_cons_self) with same | behind'
          · exact same.symm
          · exact absurd (Std.TransCmp.lt_trans (dFirst e behind') (eFirst d behind)) (irrefl d)
      subst heads
      congr 1
      refine ih dLater eLater fun x => ⟨fun hx => ?_,fun hx => ?_⟩
      · rcases List.mem_cons.mp ((h x).mp (List.mem_cons_of_mem _ hx)) with rfl | hx'
        · exact absurd (dFirst x hx) (irrefl x)
        · exact hx'
      · rcases List.mem_cons.mp ((h x).mpr (List.mem_cons_of_mem _ hx)) with rfl | hx'
        · exact absurd (eFirst x hx) (irrefl x)
        · exact hx'

theorem ext_get? [Std.TransOrd κ] [Std.LawfulEqOrd κ] {m n : OrdMap κ α}
    (h : ∀ k, m.get? k = n.get? k) : m = n := by
  have same : m.entries = n.entries := entries_ext m.sorted n.sorted fun x => by
    rw [← get?_eq_some_iff, ← get?_eq_some_iff, h]
  cases m
  cases n
  congr

end OrdMap

end SmaliNavigator
