/-!
Texts are lists of characters, measured in the bytes of their UTF-8 form. A cut at a byte count is
exact only where it falls between two characters.

Main statements: `byteCount_append`, and `dropBytes_byteCount`, that cutting off the bytes of a
first part leaves the second.
-/

set_option autoImplicit false

namespace SmaliNavigator.Text

def byteCount (cs : List Char) : Nat :=
  cs.foldl (fun n c => n + c.utf8Size) 0

theorem foldl_utf8Size (cs : List Char) (n : Nat) :
    cs.foldl (fun n c => n + c.utf8Size) n = n + byteCount cs := by
  induction cs generalizing n with
  | nil => simp [byteCount]
  | cons c cs ih =>
    have h : byteCount (c :: cs) = cs.foldl (fun n c => n + c.utf8Size) (0 + c.utf8Size) := rfl
    rw [h, List.foldl_cons, ih, ih]
    omega

@[simp] theorem byteCount_nil : byteCount [] = 0 := rfl

@[simp] theorem byteCount_cons (c : Char) (cs : List Char) :
    byteCount (c :: cs) = c.utf8Size + byteCount cs := by
  have h : byteCount (c :: cs) = cs.foldl (fun n c => n + c.utf8Size) (0 + c.utf8Size) := rfl
  rw [h, foldl_utf8Size]
  omega

@[simp] theorem byteCount_append (xs ys : List Char) :
    byteCount (xs ++ ys) = byteCount xs + byteCount ys := by
  induction xs with
  | nil => simp
  | cons c xs ih => simp [ih]; omega

theorem length_le_byteCount (cs : List Char) : cs.length ≤ byteCount cs := by
  induction cs with
  | nil => simp
  | cons c cs ih =>
    have := c.utf8Size_pos
    simp; omega

/-- The text from byte `n` on. A character that byte `n` falls inside of goes as a whole. -/
def dropBytes : Nat → List Char → List Char
  | 0, cs => cs
  | _, [] => []
  | n + 1, c :: cs => dropBytes (n + 1 - c.utf8Size) cs

/-- The text before byte `n`, `none` where that is inside a character or behind the end. -/
def takeBytes? : Nat → List Char → Option (List Char)
  | 0, _ => some []
  | _, [] => none
  | n + 1, c :: cs =>
    if c.utf8Size ≤ n + 1 then (takeBytes? (n + 1 - c.utf8Size) cs).map (c :: ·) else none

@[simp] theorem dropBytes_zero (cs : List Char) : dropBytes 0 cs = cs := by
  cases cs <;> rfl

theorem dropBytes_byteCount (xs ys : List Char) : dropBytes (byteCount xs) (xs ++ ys) = ys := by
  induction xs with
  | nil => simp
  | cons c xs ih =>
    obtain ⟨k,hk⟩ : ∃ k, c.utf8Size + byteCount xs = k + 1 :=
      ⟨_,(Nat.succ_pred_eq_of_pos (Nat.add_pos_left c.utf8Size_pos _)).symm⟩
    rw [byteCount_cons, hk, List.cons_append, dropBytes, ← hk, Nat.add_sub_cancel_left, ih]

theorem takeBytes?_byteCount (xs ys : List Char) :
    takeBytes? (byteCount xs) (xs ++ ys) = some xs := by
  induction xs with
  | nil => cases ys <;> rfl
  | cons c xs ih =>
    obtain ⟨k,hk⟩ : ∃ k, c.utf8Size + byteCount xs = k + 1 :=
      ⟨_,(Nat.succ_pred_eq_of_pos (Nat.add_pos_left c.utf8Size_pos _)).symm⟩
    rw [byteCount_cons, hk, List.cons_append, takeBytes?, ← hk, Nat.add_sub_cancel_left, ih]
    simp

end SmaliNavigator.Text
