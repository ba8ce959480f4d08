import Mathlib.Order.Monotone.Defs
import Mathlib.Order.Nat
import SmaliNavigator.Text.Units

/-!
Columns in bytes against columns in UTF-16 units. Both conversions take the characters that start before a
column and measure them in the other way, so that what is said of the one holds of the other: a column
between two characters comes back, and one inside of a character goes to the end of it.
-/

set_option autoImplicit false

namespace SmaliNavigator

namespace Text

variable {size : Char → Nat} {n m : Nat} {cs xs ys : List Char}

/-- The columns behind the characters of a text, where each character takes up a number of them. -/
def extent (size : Char → Nat) : List Char → Nat
  | [] => 0
  | c :: cs => size c + extent size cs

@[simp] theorem extent_cons (size : Char → Nat) (c : Char) (cs : List Char) :
    extent size (c :: cs) = size c + extent size cs := rfl

theorem extent_append (size : Char → Nat) (xs ys : List Char) :
    extent size (xs ++ ys) = extent size xs + extent size ys := by
  induction xs with
  | nil => exact (Nat.zero_add _).symm
  | cons x xs ih => rw [List.cons_append, extent_cons, extent_cons, ih, Nat.add_assoc]

theorem byteCount_eq_extent (cs : List Char) : byteCount cs = extent Char.utf8Size cs := by
  induction cs with
  | nil => rfl
  | cons c cs ih => rw [byteCount_cons, extent_cons, ih]

theorem unitCount_eq_extent (cs : List Char) : unitCount cs = extent unitSize cs := by
  induction cs with
  | nil => rfl
  | cons c cs ih => rw [unitCount, extent_cons, ih]

theorem unitSize_pos (c : Char) : 0 < unitSize c := by
  unfold unitSize
  split <;> omega

/-- The column is between two characters of a text, or at one of its ends. -/
def IsColumn (size : Char → Nat) (cs : List Char) (n : Nat) : Prop :=
  ∃ xs ys, cs = xs ++ ys ∧ n = extent size xs

/-- The characters of a text that start before a column. -/
def startingBefore (size : Char → Nat) : Nat → List Char → List Char
  | 0, _ => []
  | _, [] => []
  | n + 1, c :: cs => c :: startingBefore size (n + 1 - size c) cs

theorem bytesBeforeUnit_eq (n : Nat) (cs : List Char) :
    bytesBeforeUnit n cs = byteCount (startingBefore unitSize n cs) := by
  fun_induction startingBefore unitSize n cs with
  | case1 cs => cases cs <;> rfl
  | case2 n hn => cases n <;> rfl
  | case3 n c cs ih => rw [bytesBeforeUnit, ih, byteCount_cons]

theorem unitsBeforeByte_eq (n : Nat) (cs : List Char) :
    unitsBeforeByte n cs = unitCount (startingBefore Char.utf8Size n cs) := by
  fun_induction startingBefore Char.utf8Size n cs with
  | case1 cs => cases cs <;> rfl
  | case2 n hn => cases n <;> rfl
  | case3 n c cs ih => rw [unitsBeforeByte, ih, unitCount]

theorem startingBefore_isPrefix (size : Char → Nat) (n : Nat) (cs : List Char) :
    startingBefore size n cs <+: cs := by
  fun_induction startingBefore size n cs with
  | case1 cs => exact List.nil_prefix
  | case2 n hn => exact List.nil_prefix
  | case3 n c cs ih => exact List.cons_prefix_cons.mpr ⟨rfl,ih⟩

theorem startingBefore_mono (size : Char → Nat) (cs : List Char) (h : n ≤ m) :
    startingBefore size n cs <+: startingBefore size m cs := by
  induction cs generalizing n m with
  | nil =>
    have hn : startingBefore size n [] = [] := by cases n <;> rfl
    rw [hn]
    exact List.nil_prefix
  | cons c cs ih =>
    cases n with
    | zero => exact List.nil_prefix
    | succ n =>
      obtain ⟨m,rfl⟩ : ∃ k, m = k + 1 := ⟨m - 1,by omega⟩
      exact List.cons_prefix_cons.mpr ⟨rfl,ih (by omega)⟩

theorem startingBefore_extent (hsize : ∀ c, 0 < size c) (xs ys : List Char) :
    startingBefore size (extent size xs) (xs ++ ys) = xs := by
  induction xs with
  | nil => cases ys <;> rfl
  | cons c xs ih =>
    obtain ⟨k,hk⟩ : ∃ k, size c + extent size xs = k + 1 :=
      ⟨_,(Nat.succ_pred_eq_of_pos (Nat.add_pos_left (hsize c) _)).symm⟩
    rw [extent_cons, hk, List.cons_append, startingBefore, ← hk, Nat.add_sub_cancel_left, ih]

theorem startingBefore_eq_self (hsize : ∀ c, 0 < size c) (h : extent size cs ≤ n) :
    startingBefore size n cs = cs := by
  have hall := startingBefore_mono size cs h
  have hend := startingBefore_extent hsize cs []
  rw [List.append_nil] at hend
  rw [hend] at hall
  exact (hall.eq_of_length_le (startingBefore_isPrefix size n cs).length_le).symm

/-- The characters in front of a column reach it, unless the whole text is in front of it. -/
theorem le_extent_startingBefore (h : n ≤ extent size cs) :
    n ≤ extent size (startingBefore size n cs) := by
  fun_induction startingBefore size n cs with
  | case1 cs => exact Nat.zero_le _
  | case2 n hn => exact h
  | case3 n c cs ih =>
    rw [extent_cons] at h ⊢
    omega

theorem isLeast_startingBefore (hsize : ∀ c, 0 < size c) (h : n ≤ extent size cs) :
    IsLeast {m | IsColumn size cs m ∧ n ≤ m} (extent size (startingBefore size n cs)) := by
  refine ⟨⟨?_,le_extent_startingBefore h⟩,?_⟩
  · obtain ⟨ys,hys⟩ := startingBefore_isPrefix size n cs
    exact ⟨_,ys,hys.symm,rfl⟩
  · rintro m ⟨⟨xs,ys,rfl,rfl⟩,hm⟩
    have hfront := startingBefore_mono size (xs ++ ys) hm
    rw [startingBefore_extent hsize] at hfront
    obtain ⟨zs,hzs⟩ := hfront
    have hextent := extent_append size (startingBefore size n (xs ++ ys)) zs
    rw [hzs] at hextent
    omega

theorem extent_le_of_isPrefix (h : xs <+: cs) : extent size xs ≤ extent size cs := by
  obtain ⟨ys,rfl⟩ := h
  rw [extent_append]
  exact Nat.le_add_right _ _

end Text

namespace Document

open Text

variable (d : Document) (line : Nat)

theorem byteCol_eq (u : Nat) :
    d.byteCol line u = extent Char.utf8Size (startingBefore unitSize u (d.lineText line)) := by
  rw [byteCol, bytesBeforeUnit_eq, byteCount_eq_extent]

theorem unitCol_eq (b : Nat) :
    d.unitCol line b = extent unitSize (startingBefore Char.utf8Size b (d.lineText line)) := by
  rw [unitCol, unitsBeforeByte_eq, unitCount_eq_extent]

theorem byteCol_extent {xs ys : List Char} (h : d.lineText line = xs ++ ys) :
    d.byteCol line (extent unitSize xs) = extent Char.utf8Size xs := by
  rw [byteCol_eq, h, startingBefore_extent unitSize_pos]

theorem unitCol_extent {xs ys : List Char} (h : d.lineText line = xs ++ ys) :
    d.unitCol line (extent Char.utf8Size xs) = extent unitSize xs := by
  rw [unitCol_eq, h, startingBefore_extent Char.utf8Size_pos]

/-- A column in units that comes back from bytes is behind the characters that start before it. -/
theorem unitCol_byteCol (u : Nat) : d.unitCol line (d.byteCol line u) =
    extent unitSize (startingBefore unitSize u (d.lineText line)) := by
  obtain ⟨ys,hys⟩ := startingBefore_isPrefix unitSize u (d.lineText line)
  rw [byteCol_eq, unitCol_extent d line hys.symm]

/-- Byte columns between two characters come back from UTF-16 units. A column in units comes back from
bytes as the first one between two characters that is not before it, or as the end of the line where
there is none. Both conversions keep the order and stay in the line. -/
theorem columns_convert :
    (∀ b, IsColumn Char.utf8Size (d.lineText line) b → d.byteCol line (d.unitCol line b) = b) ∧
    (∀ u, (∃ v, IsColumn unitSize (d.lineText line) v ∧ u ≤ v) →
      IsLeast {v | IsColumn unitSize (d.lineText line) v ∧ u ≤ v}
        (d.unitCol line (d.byteCol line u))) ∧
    (∀ u, (¬ ∃ v, IsColumn unitSize (d.lineText line) v ∧ u ≤ v) →
      d.unitCol line (d.byteCol line u) = unitCount (d.lineText line)) ∧
    Monotone (d.byteCol line) ∧ Monotone (d.unitCol line) ∧
    (∀ u, d.byteCol line u ≤ byteCount (d.lineText line)) ∧
    ∀ b, d.unitCol line b ≤ unitCount (d.lineText line) := by
  have hwhole : IsColumn unitSize (d.lineText line) (extent unitSize (d.lineText line)) :=
    ⟨_,[],(List.append_nil _).symm,rfl⟩
  refine ⟨?_,?_,?_,?_,?_,?_,?_⟩
  · rintro b ⟨xs,ys,h,rfl⟩
    rw [unitCol_extent d line h, byteCol_extent d line h]
  · rintro u ⟨v,⟨xs,ys,h,rfl⟩,hv⟩
    have hu : u ≤ extent unitSize (d.lineText line) :=
      Nat.le_trans hv (extent_le_of_isPrefix ⟨ys,h.symm⟩)
    rw [unitCol_byteCol]
    exact isLeast_startingBefore unitSize_pos hu
  · intro u hnone
    have hu : extent unitSize (d.lineText line) < u :=
      Nat.lt_of_not_le fun hle => hnone ⟨_,hwhole,hle⟩
    rw [unitCol_byteCol, startingBefore_eq_self unitSize_pos (Nat.le_of_lt hu), unitCount_eq_extent]
  · intro u v h
    rw [byteCol_eq, byteCol_eq]
    exact extent_le_of_isPrefix (startingBefore_mono unitSize _ h)
  · intro a b h
    rw [unitCol_eq, unitCol_eq]
    exact extent_le_of_isPrefix (startingBefore_mono Char.utf8Size _ h)
  · intro u
    rw [byteCol_eq, byteCount_eq_extent]
    exact extent_le_of_isPrefix (startingBefore_isPrefix unitSize u _)
  · intro b
    rw [unitCol_eq, unitCount_eq_extent]
    exact extent_le_of_isPrefix (startingBefore_isPrefix Char.utf8Size b _)

/-- A letter of two bytes and one unit, and a character of four bytes and two units. The column between
the two units goes to the end of the character. -/
theorem columns_convert_pair :
    let d := ofString "é😀x\r\n"
    IsColumn Char.utf8Size (d.lineText 0) 6 ∧ d.byteCol 0 (d.unitCol 0 6) = 6 ∧
      (∃ v, IsColumn unitSize (d.lineText 0) v ∧ 2 ≤ v) ∧
      IsLeast {v | IsColumn unitSize (d.lineText 0) v ∧ 2 ≤ v} (d.unitCol 0 (d.byteCol 0 2)) ∧
      d.unitCol 0 (d.byteCol 0 2) = 3 ∧
      (¬ ∃ v, IsColumn unitSize (d.lineText 0) v ∧ 9 ≤ v) ∧ d.unitCol 0 (d.byteCol 0 9) = 4 ∧
      2 ≤ 3 ∧ d.byteCol 0 2 ≤ d.byteCol 0 3 ∧ d.unitCol 0 2 ≤ d.unitCol 0 3 := by
  intro d
  obtain ⟨hbytes,hleast,hnone,hbyteCol,hunitCol,-,-⟩ := columns_convert d 0
  have hline : d.lineText 0 = ['é','😀','x'] := by decide
  have hcolumn : IsColumn Char.utf8Size (d.lineText 0) 6 := ⟨['é','😀'],['x'],hline,by decide⟩
  have hthere : ∃ v, IsColumn unitSize (d.lineText 0) v ∧ 2 ≤ v :=
    ⟨3,⟨['é','😀'],['x'],hline,by decide⟩,by decide⟩
  have hbehind : ¬ ∃ v, IsColumn unitSize (d.lineText 0) v ∧ 9 ≤ v := by
    rintro ⟨v,⟨xs,ys,h,rfl⟩,hv⟩
    have hle : extent unitSize xs ≤ extent unitSize (d.lineText 0) := extent_le_of_isPrefix ⟨ys,h.symm⟩
    have hall : extent unitSize (d.lineText 0) = 4 := by decide
    omega
  exact ⟨hcolumn,hbytes 6 hcolumn,hthere,hleast 2 hthere,by decide,hbehind,
    (hnone 9 hbehind).trans (by decide),by decide,hbyteCol (by decide),hunitCol (by decide)⟩

end Document

end SmaliNavigator
