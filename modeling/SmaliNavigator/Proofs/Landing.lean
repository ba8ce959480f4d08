import SmaliNavigator.Proofs.Relocation

/-!
The directory that a file lands in when it is moved. A path that is taken from another one keeps its
last name, so that a file which is moved is told from others by that directory alone.
-/

set_option autoImplicit false

namespace SmaliNavigator

namespace Text

variable {α : Type} {p : α → Bool}

theorem splitWhere_of_none {cs : List α} (h : ∀ c ∈ cs, p c = false) : splitWhere p cs = [cs] := by
  induction cs with
  | nil => rfl
  | cons c cs ih =>
    rw [List.forall_mem_cons] at h
    simp [splitWhere, h.1, ih h.2]

theorem eq_false_of_mem_splitWhere {cs part : List α} (hpart : part ∈ splitWhere p cs) :
    ∀ c ∈ part, p c = false := by
  induction cs generalizing part with
  | nil =>
    obtain rfl := List.mem_singleton.mp hpart
    simp
  | cons c cs ih =>
    rw [splitWhere] at hpart
    cases hc : p c with
    | true =>
      rw [if_pos hc] at hpart
      rcases List.mem_cons.mp hpart with rfl | hpart
      · simp
      · exact ih hpart
    | false =>
      rw [if_neg (by simp [hc])] at hpart
      cases hs : splitWhere p cs with
      | nil => exact absurd hs (splitWhere_ne_nil cs)
      | cons first parts =>
        rw [hs] at hpart ih
        rcases List.mem_cons.mp hpart with rfl | hpart
        · exact List.forall_mem_cons.mpr ⟨hc,ih List.mem_cons_self⟩
        · exact ih (List.mem_cons_of_mem _ hpart)

theorem getLast?_splitWhere_append {bs : List α} (h : ∀ b ∈ bs, p b = false) (as : List α) :
    ∃ part, (splitWhere p (as ++ bs)).getLast? = some (part ++ bs) := by
  induction as with
  | nil => exact ⟨[],by rw [List.nil_append, splitWhere_of_none h]; rfl⟩
  | cons a as ih =>
    obtain ⟨part,hpart⟩ := ih
    rw [List.cons_append, splitWhere]
    cases hs : splitWhere p (as ++ bs) with
    | nil => exact absurd hs (splitWhere_ne_nil _)
    | cons first parts =>
      rw [hs] at hpart
      cases p a with
      | true => exact ⟨part,by simpa using hpart⟩
      | false =>
        cases parts with
        | nil =>
          obtain rfl : first = part ++ bs := by simpa using hpart
          exact ⟨a :: part,rfl⟩
        | cons second parts => exact ⟨part,by simpa using hpart⟩

end Text

namespace Path

open Text

/-- The last piece of a path is the name of a file. -/
structure EndsInName (p : Path) (name : EntryName) : Prop where
  last : p.pieces.getLast? = some name
  isName : ∀ isFirst, component? isFirst name = some (.name name)

namespace EndsInName

variable {p q : Path} {name : EntryName}

theorem split_name (h : p.EndsInName name) : splitWhere (· == slash) name = [name] :=
  splitWhere_of_none (eq_false_of_mem_splitWhere (List.mem_of_getLast? h.last))

theorem getLast?_componentsOf (h : p.EndsInName name) (isFirst : Bool) :
    (componentsOf isFirst p.pieces).getLast? = some (.name name) := by
  obtain ⟨before,hpieces⟩ := List.getLast?_eq_some_iff.mp h.last
  have hone (isFirst : Bool) : componentsOf isFirst [name] = [.name name] := by
    simp [componentsOf, h.isName]
  rw [hpieces]
  cases before with
  | nil => rw [List.nil_append, hone]; rfl
  | cons piece before =>
    rw [componentsOf_append isFirst (List.cons_ne_nil _ _), hone, List.getLast?_append]
    rfl

theorem getLast?_key (h : p.EndsInName name) : p.key.getLast? = some (.name name) := by
  rw [key_eq, List.getLast?_append, h.getLast?_componentsOf]
  rfl

theorem fileName? (h : p.EndsInName name) : p.fileName? = some name := by
  rw [Path.fileName?, h.getLast?_key]

theorem key_eq_pop (h : p.EndsInName name) : p.key = p.pop.key ++ [.name name] := by
  obtain ⟨before,hkey⟩ := List.getLast?_eq_some_iff.mp h.getLast?_key
  rw [key_pop, h.getLast?_key, if_neg (by simp), hkey, List.dropLast_concat]

theorem join (h : q.EndsInName name) (p : Path) : (p.join q).EndsInName name := by
  have hbehind (as : List UInt8) : (Path.mk (as ++ slash :: q.bytes)).EndsInName name := by
    refine ⟨?_,h.isName⟩
    rw [pieces, pieces_slash, List.getLast?_append, show splitWhere (· == slash) q.bytes = q.pieces from rfl,
      h.last]
    rfl
  unfold Path.join
  split
  · exact h
  · split
    · next hnone =>
      by_cases hp : p.bytes = []
      · rw [hp, List.nil_append]
        exact h
      · obtain ⟨as,has⟩ := List.getLast?_eq_some_iff.mp (hnone.resolve_left (by simpa using hp))
        rw [has, List.append_assoc]
        exact hbehind as
    · exact hbehind p.bytes

theorem key_join_name (h : q.EndsInName name) (p : Path) :
    (p.join ⟨name⟩).key = p.key ++ [.name name] := by
  have hpieces : (Path.mk name).pieces = [name] := h.split_name
  have hrelative : (Path.mk name).isAbsolute = false := by
    have hfirst := eq_false_of_mem_splitWhere (List.mem_of_getLast? h.last)
    cases name with
    | nil => rfl
    | cons b bs => simpa [isAbsolute] using hfirst b List.mem_cons_self
  by_cases hp : p.key = []
  · have hbytes : p.bytes = [] := (key_eq_nil_iff p).mp hp
    have hjoin : p.join ⟨name⟩ = ⟨name⟩ := by simp [Path.join, hrelative, hbytes]
    rw [hjoin, hp, key_eq, hrelative, hpieces]
    simp [componentsOf, h.isName]
  · rw [key_join hp hrelative, hpieces]
    simp [componentsOf, h.isName]

end EndsInName

/-- The directory that a file lands in when the path `old`, which it ends with, becomes `new`. A file
that does not end with `old` stays in its directory. -/
def landing (p old new : Path) : Path :=
  if p.endsWith old then ((Nat.repeat pop old.key.length p).join new).pop
  else if p.fileName?.isSome then p.pop else p

theorem key_relocated {new : Path} {name : EntryName} (h : new.EndsInName name) (p old : Path) :
    (p.relocated old new).key = (p.landing old new).key ++ [.name name] := by
  unfold relocated landing
  split
  · exact (h.join _).key_eq_pop
  · rw [withFileName, h.fileName?]
    exact h.key_join_name _

theorem same_relocated_iff {new : Path} {name : EntryName} (h : new.EndsInName name) (p q old : Path) :
    (p.relocated old new).same (q.relocated old new) = true ↔
      (p.landing old new).same (q.landing old new) = true := by
  rw [same_iff, same_iff, key_relocated h, key_relocated h]
  exact List.append_left_inj _

end Path

end SmaliNavigator
