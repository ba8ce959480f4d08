import SmaliNavigator.Class.Reader
import SmaliNavigator.Proofs.Cache

/-!
The cache against the order of use. What is to be known of a cache is the list of its entries, the
most recently used first: there is no count of bytes in it that could be wrong, and room is made
by keeping the longest start that fits. A cache that starts empty answers every row of calls as
the list does and holds what the list holds.
-/

set_option autoImplicit false

namespace SmaliNavigator

/-- What can be asked of a cache. -/
inductive CacheCall
  | insert (file : Path) (stored : Class)
  | get (file : Path)
  | contains (file : Path)
  | remove (file : Path)
  | clear

/-- What a cache answers: the files whose classes had to go, the class that was found or removed,
or whether there is one. -/
inductive CacheAnswer
  | dropped (files : List Path)
  | found (class? : Option Class)
  | known (there : Bool)
  | done
  deriving DecidableEq

namespace CacheCall

def isContains : CacheCall → Bool
  | .contains _ => true
  | _ => false

end CacheCall

namespace Cache

def call (c : Cache) : CacheCall → CacheAnswer × Cache
  | .insert file stored => ((.dropped (c.insert file stored).1),(c.insert file stored).2)
  | .get file => ((.found (c.get file).1),(c.get file).2)
  | .contains file => ((.known (c.contains file)),c)
  | .remove file => ((.found (c.remove file).1),(c.remove file).2)
  | .clear => (.done,c.clear)

/-- The answers to some calls, and the cache behind them. -/
def callAll (c : Cache) : List CacheCall → List CacheAnswer × Cache
  | [] => ([],c)
  | x :: xs => ((c.call x).1 :: ((c.call x).2.callAll xs).1,((c.call x).2.callAll xs).2)

end Cache

/-- Files with their classes, the most recently used first. -/
abbrev UseOrder : Type := List (Path × Class)

namespace UseOrder

def find? (es : UseOrder) (file : Path) : Option (Path × Class) :=
  List.find? (·.1.same file) es

def without (es : UseOrder) (file : Path) : UseOrder :=
  es.filter (!·.1.same file)

/-- The longest start whose classes fit. -/
def fitting : (room : Nat) → UseOrder → UseOrder
  | _, [] => []
  | room, e :: es => if e.2.byteSize ≤ room then e :: fitting (room - e.2.byteSize) es else []

/-- Stores a class in front of the others. Those at the end that do not fit beside it go, the least
recently used first. -/
def store (capacity : Nat) (es : UseOrder) (file : Path) (stored : Class) :
    List Path × UseOrder :=
  if stored.byteSize ≤ capacity then
    let spelled := ((es.find? file).map (·.1)).getD file
    let kept := fitting (capacity - stored.byteSize) (es.without file)
    ((((es.without file).drop kept.length).reverse.map (·.1)),(spelled,stored) :: kept)
  else ([file],es.without file)

def call (capacity : Nat) (es : UseOrder) : CacheCall → CacheAnswer × UseOrder
  | .insert file stored => ((.dropped (store capacity es file stored).1),(store capacity es file stored).2)
  | .get file => ((.found ((es.find? file).map (·.2))),(es.find? file).toList ++ es.without file)
  | .contains file => ((.known (es.any (·.1.same file))),es)
  | .remove file => ((.found ((es.find? file).map (·.2))),es.without file)
  | .clear => (.done,[])

def callAll (capacity : Nat) (es : UseOrder) : List CacheCall → List CacheAnswer × UseOrder
  | [] => ([],es)
  | x :: xs =>
    let next := call capacity es x
    (next.1 :: (callAll capacity next.2 xs).1,(callAll capacity next.2 xs).2)

/-! ### The longest start that fits -/

theorem fitting_isPrefix (room : Nat) (es : UseOrder) : fitting room es <+: es := by
  induction es generalizing room with
  | nil => exact List.prefix_refl _
  | cons e es ih =>
    unfold fitting
    split
    · exact List.prefix_cons_inj e |>.mpr (ih _)
    · exact List.nil_prefix

theorem bytesOf_le_iff_length_le {es kept gone : UseOrder} (h : es = kept ++ gone) (room : Nat) :
    Cache.bytesOf kept ≤ room ↔ kept.length ≤ (fitting room es).length := by
  induction kept generalizing es room with
  | nil => simp
  | cons e kept ih =>
    subst h
    have hrest := ih (Eq.refl (kept ++ gone)) (room - e.2.byteSize)
    rw [Cache.bytesOf_cons, List.cons_append, fitting]
    split
    · next hfits =>
      rw [List.length_cons, List.length_cons, Nat.add_le_add_iff_right, ← hrest]
      omega
    · next hfits =>
      simp only [List.length_cons, List.length_nil]
      omega

theorem fitting_eq_self {room : Nat} {es : UseOrder} (h : Cache.bytesOf es ≤ room) :
    fitting room es = es :=
  (fitting_isPrefix room es).eq_of_length_le
    ((bytesOf_le_iff_length_le (List.append_nil es).symm room).mp h)

theorem fitting_concat {room : Nat} {es : UseOrder} {e : Path × Class}
    (h : room < Cache.bytesOf (es ++ [e])) : fitting room (es ++ [e]) = fitting room es := by
  induction es generalizing room with
  | nil =>
    have hlarge : ¬ e.2.byteSize ≤ room := by simpa using h
    simp [fitting, hlarge]
  | cons a es ih =>
    rw [List.cons_append, Cache.bytesOf_cons] at h
    rw [List.cons_append, fitting, fitting]
    split
    · rw [ih (by omega)]
    · rfl

end UseOrder

namespace Cache
open UseOrder

/-! ### One call -/

/-- What is dropped to make room is what comes behind the longest start that fits. -/
theorem evict_eq (capacity : Nat) (es : List (Path × Class)) :
    evict capacity (bytesOf es) es =
      (((es.reverse.drop (fitting capacity es.reverse).length).reverse.map (·.1)),
        (fitting capacity es.reverse).reverse,bytesOf (fitting capacity es.reverse)) := by
  induction es with
  | nil => simp [evict, fitting]
  | cons e es ih =>
    have hsum : bytesOf (es.reverse ++ [e]) = bytesOf (e :: es) := by
      rw [← List.reverse_cons]
      exact bytesOf_perm (List.reverse_perm _)
    rw [List.reverse_cons]
    unfold evict
    split
    · next hfits =>
      rw [fitting_eq_self (Nat.le_trans (Nat.le_of_eq hsum) hfits)]
      simp [hsum]
    · next hlarge =>
      rw [fitting_concat (by omega)]
      have hlength := (fitting_isPrefix capacity es.reverse).length_le
      rw [bytesOf_cons, Nat.add_sub_cancel_left, ih, List.drop_append_of_le_length hlength]
      simp

theorem insert_eq_store {c : Cache} (h : c.Valid) (file : Path) (stored : Class) :
    ((c.insert file stored).1,(c.insert file stored).2.entries) =
      store c.capacity c.entries file stored := by
  unfold insert store
  by_cases hlarge : c.capacity < stored.byteSize
  · rw [if_pos hlarge, if_neg (by omega), remove_eq_others]
    rfl
  · have hfits : stored.byteSize ≤ c.capacity := by omega
    rw [if_neg hlarge, if_pos hfits]
    dsimp only
    rw [bytesOf_toInsert h file (((c.find? file).map (·.1)).getD file), evict_eq,
      List.reverse_reverse, remove_eq_others]
    simp only [fitting, hfits, if_true, List.length_cons, List.drop_succ_cons, List.reverse_reverse]
    rfl

theorem Valid.call {c : Cache} (h : c.Valid) (x : CacheCall) : (c.call x).2.Valid := by
  cases x with
  | insert file stored => exact h.insert file stored
  | get file => exact h.get file
  | contains file => exact h
  | remove file => exact h.remove file
  | clear => exact valid_new c.capacity

theorem capacity_call (c : Cache) (x : CacheCall) : (c.call x).2.capacity = c.capacity := by
  cases x with
  | insert file stored => exact capacity_insert c file stored
  | get file => exact capacity_get c file
  | contains file => rfl
  | remove file => exact capacity_remove c file
  | clear => rfl

theorem call_eq {c : Cache} (h : c.Valid) (x : CacheCall) :
    ((c.call x).1,(c.call x).2.entries) = UseOrder.call c.capacity c.entries x := by
  cases x with
  | insert file stored =>
    have hstore := insert_eq_store h file stored
    simp only [Cache.call, UseOrder.call, ← hstore]
  | get file =>
    simp only [Cache.call, UseOrder.call, Cache.get, UseOrder.find?]
    cases hfound : c.find? file with
    | none =>
      have hall := List.find?_eq_none.mp hfound
      have hothers : without c.entries file = c.entries :=
        List.filter_eq_self.mpr fun e he => by simpa using hall e he
      rw [Cache.find?] at hfound
      simp [hfound, hothers]
    | some e =>
      rw [Cache.find?] at hfound
      simp [hfound, without, others]
  | contains file =>
    have hthere : c.contains file = c.entries.any (·.1.same file) := by
      rw [Bool.eq_iff_iff, contains, Cache.find?, List.find?_isSome, List.any_eq_true]
    simp only [Cache.call, UseOrder.call, hthere]
  | remove file =>
    simp only [Cache.call, UseOrder.call, remove_eq_others]
    unfold Cache.remove
    cases hfound : c.find? file with
    | none =>
      rw [Cache.find?] at hfound
      simp [UseOrder.find?, hfound, others, without]
    | some e =>
      rw [Cache.find?] at hfound
      simp [UseOrder.find?, hfound, others, without]
  | clear => rfl

/-! ### A row of calls -/

theorem Valid.callAll {c : Cache} (h : c.Valid) (calls : List CacheCall) :
    (c.callAll calls).2.Valid := by
  induction calls generalizing c with
  | nil => exact h
  | cons x xs ih => exact ih (h.call x)

theorem capacity_callAll (c : Cache) (calls : List CacheCall) :
    (c.callAll calls).2.capacity = c.capacity := by
  induction calls generalizing c with
  | nil => rfl
  | cons x xs ih => exact (ih _).trans (capacity_call c x)

theorem callAll_eq {c : Cache} (h : c.Valid) (calls : List CacheCall) :
    ((c.callAll calls).1,(c.callAll calls).2.entries) =
      UseOrder.callAll c.capacity c.entries calls := by
  induction calls generalizing c with
  | nil => rfl
  | cons x xs ih =>
    have hrest := ih (h.call x)
    rw [capacity_call] at hrest
    rw [UseOrder.callAll, ← call_eq h x]
    simp only [Cache.callAll, ← hrest]

theorem callAll_filter_isContains (c : Cache) (calls : List CacheCall) :
    (c.callAll (calls.filter (!·.isContains))).2 = (c.callAll calls).2 := by
  induction calls generalizing c with
  | nil => rfl
  | cons x xs ih =>
    cases x with
    | contains file => exact ih c
    | _ => exact ih _

/-- What storing a class that fits leaves of the other entries: a start of them, and no longer one
fits beside the class. -/
theorem insert_of_le {c : Cache} (h : c.Valid) (file : Path) {stored : Class}
    (hfits : stored.byteSize ≤ c.capacity) :
    ∃ spelled kept gone, spelled.same file = true ∧ c.others file = kept ++ gone ∧
      (c.insert file stored).1 = gone.reverse.map (·.1) ∧
      (c.insert file stored).2.entries = (spelled,stored) :: kept ∧
      ∀ kept' gone', c.others file = kept' ++ gone' →
        (stored.byteSize + bytesOf kept' ≤ c.capacity ↔ gone.length ≤ gone'.length) := by
  have hstore := insert_eq_store h file stored
  rw [store, if_pos hfits, Prod.mk.injEq] at hstore
  generalize hkept : fitting (c.capacity - stored.byteSize) (without c.entries file) = kept at hstore
  have hprefix : kept <+: c.others file := hkept ▸ fitting_isPrefix _ _
  obtain ⟨gone,hsplit⟩ := hprefix
  refine ⟨_,kept,gone,c.same_spelled file,hsplit.symm,?_,hstore.2,?_⟩
  · change _ = List.map _ ((c.others file).drop kept.length).reverse ∧ _ at hstore
    rw [← hsplit, List.drop_left] at hstore
    exact hstore.1
  · intro kept' gone' hsplit'
    have hlongest := bytesOf_le_iff_length_le hsplit' (c.capacity - stored.byteSize)
    change _ ↔ _ ≤ (fitting _ (without c.entries file)).length at hlongest
    rw [hkept] at hlongest
    have hlength := congrArg List.length (hsplit.trans hsplit')
    rw [List.length_append, List.length_append] at hlength
    omega

/-- A class that does not fit by itself is not stored, and only the entry of its file goes. -/
theorem insert_of_lt (c : Cache) (file : Path) {stored : Class}
    (hlarge : c.capacity < stored.byteSize) :
    (c.insert file stored).1 = [file] ∧ (c.insert file stored).2.entries = c.others file := by
  rw [insert, if_pos hlarge]
  exact ⟨rfl,remove_eq_others c file⟩

/-- A cache that starts empty answers all calls as the order of use does and holds the same. Behind
them no file has two entries, the bytes are those of the entries and fit, and a class that is stored
next makes as little room as it needs. -/
theorem callAll_eq_useOrder (capacity : Nat) (calls : List CacheCall) :
    (((new capacity).callAll calls).1,((new capacity).callAll calls).2.entries) =
        UseOrder.callAll capacity [] calls ∧
      ((new capacity).callAll (calls.filter (!·.isContains))).2 = ((new capacity).callAll calls).2 ∧
      ∀ c, ((new capacity).callAll calls).2 = c →
        c.capacity = capacity ∧ c.bytes = bytesOf c.entries ∧ c.bytes ≤ capacity ∧
        c.entries.Pairwise (fun a b => a.1.same b.1 = false) ∧
        ∀ file stored,
          (stored.byteSize ≤ capacity →
            ∃ spelled kept gone, spelled.same file = true ∧ c.others file = kept ++ gone ∧
              (c.insert file stored).1 = gone.reverse.map (·.1) ∧
              (c.insert file stored).2.entries = (spelled,stored) :: kept ∧
              ∀ kept' gone', c.others file = kept' ++ gone' →
                (stored.byteSize + bytesOf kept' ≤ capacity ↔ gone.length ≤ gone'.length)) ∧
          (capacity < stored.byteSize →
            (c.insert file stored).1 = [file] ∧
              (c.insert file stored).2.entries = c.others file) := by
  refine ⟨callAll_eq (valid_new capacity) calls,callAll_filter_isContains _ calls,?_⟩
  rintro c rfl
  have hvalid := (valid_new capacity).callAll calls
  have hcapacity : ((new capacity).callAll calls).2.capacity = capacity :=
    capacity_callAll (new capacity) calls
  refine ⟨hcapacity,hvalid.bytes,Nat.le_trans hvalid.fits (Nat.le_of_eq hcapacity),
    hvalid.apart,fun file stored => ⟨?_,?_⟩⟩
  · intro hfits
    have hleft := insert_of_le hvalid file (hcapacity.symm ▸ hfits)
    rwa [hcapacity] at hleft
  · intro hlarge
    exact insert_of_lt _ file (hcapacity.symm ▸ hlarge)

/-- Stores a class for `A`, for `B` and for `C`, and uses that of `A` before the last one comes. -/
def storedForThree (c : Class) : List CacheCall :=
  [.insert (.ofString "A") c,.insert (.ofString "B") c,.get (.ofString "A"),
    .contains (.ofString "B"),.insert (.ofString "C") c]

/-- Where two classes fit, that of `B` goes when `C` comes. What is stored for `A` next takes the
place of what was there, and nothing has to go. -/
theorem insert_behind_storedForThree :
    ∃ c before, (Class.ofString ".class La;\n.super Lb;\n").toOption = some c ∧
      (new 50).callAll (storedForThree c) =
        ([.dropped [],.dropped [],.found (some c),.known true,.dropped [.ofString "B"]],before) ∧
      before.bytes = 44 ∧
      ∃ spelled, spelled.same (.ofString "A") = true ∧
        (before.insert (.ofString "A") c).1 = [] ∧
        (before.insert (.ofString "A") c).2.entries =
          (spelled,c) :: before.others (.ofString "A") := by
  have hrun : (Class.ofString ".class La;\n.super Lb;\n").toOption.any (fun c =>
      let run := (new 50).callAll (storedForThree c)
      decide (run.1 =
          [.dropped [],.dropped [],.found (some c),.known true,.dropped [.ofString "B"]]) &&
        run.2.bytes == 44 && c.byteSize == 22 && bytesOf (run.2.others (.ofString "A")) == 22) =
      true := by
    decide +kernel
  obtain ⟨c,hread,hrun⟩ := Option.any_eq_true _ _ |>.mp hrun
  simp only [Bool.and_eq_true, decide_eq_true_eq, beq_iff_eq] at hrun
  obtain ⟨⟨⟨hanswers,hbytes⟩,hsize⟩,hothers⟩ := hrun
  refine ⟨c,_,hread,Prod.ext hanswers rfl,hbytes,?_⟩
  obtain ⟨-,-,-,-,hstore⟩ := (callAll_eq_useOrder 50 (storedForThree c)).2.2 _ rfl
  obtain ⟨spelled,kept,gone,hsame,hsplit,hdropped,hentries,hshortest⟩ :=
    (hstore (.ofString "A") c).1 (by omega)
  have hnone : gone.length ≤ 0 := (hshortest _ [] (List.append_nil _).symm).mp (by omega)
  obtain rfl := List.length_eq_zero_iff.mp (Nat.le_zero.mp hnone)
  rw [List.append_nil] at hsplit
  exact ⟨spelled,hsame,hdropped,hsplit ▸ hentries⟩

end Cache

end SmaliNavigator
