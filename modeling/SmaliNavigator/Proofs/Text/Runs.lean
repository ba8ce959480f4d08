import SmaliNavigator.Text.Blank

/-!
The characters of a kind that a text starts with, and what stops them.
-/

set_option autoImplicit false

namespace SmaliNavigator.Text

variable {p : Char → Bool}

/-- Whether a text starts with no character of a kind. -/
def Stops (p : Char → Bool) (cs : List Char) : Prop := ∀ c ∈ cs.head?, p c = false

theorem stops_cons {c : Char} {cs : List Char} : Stops p (c :: cs) ↔ p c = false := by simp [Stops]

theorem stops_dropWhile (p : Char → Bool) (cs : List Char) : Stops p (cs.dropWhile p) := by
  intro c hc
  have h := List.head?_dropWhile_not p cs
  rw [Option.mem_def.mp hc] at h
  exact h

theorem of_mem_takeWhile {cs : List Char} {c : Char} (h : c ∈ cs.takeWhile p) : p c = true :=
  List.all_eq_true.mp List.all_takeWhile c h

theorem takeWhile_append_stops {xs ys : List Char} (hx : ∀ x ∈ xs, p x = true) (hy : Stops p ys) :
    (xs ++ ys).takeWhile p = xs := by
  rw [List.takeWhile_append_of_pos hx]
  cases ys with
  | nil => simp
  | cons y ys => simp [stops_cons.mp hy]

theorem dropWhile_append_stops {xs ys : List Char} (hx : ∀ x ∈ xs, p x = true) (hy : Stops p ys) :
    (xs ++ ys).dropWhile p = ys := by
  rw [List.dropWhile_append_of_pos hx]
  cases ys with
  | nil => rfl
  | cons y ys => simp [stops_cons.mp hy]

theorem prefix_of_dropEndWhile (p : Char → Bool) (cs : List Char) : dropEndWhile p cs <+: cs := by
  unfold dropEndWhile
  rw [← List.reverse_suffix, List.reverse_reverse]
  exact List.dropWhile_suffix p

theorem dropEndWhile_eq_self {cs : List Char} (h : cs.getLast?.all (fun c => !p c) = true) :
    dropEndWhile p cs = cs := by
  rw [← List.head?_reverse] at h
  have hstop : cs.reverse.dropWhile p = cs.reverse := by
    cases hcs : cs.reverse with
    | nil => rfl
    | cons c rest =>
      rw [hcs] at h
      have hc : p c = false := by simpa using h
      simp [hc]
  rw [dropEndWhile, hstop, List.reverse_reverse]

theorem dropEndWhile_append {xs ys : List Char}
    (h : xs.getLast?.all (fun c => !p c) = true) :
    dropEndWhile p (xs ++ ys) = xs ++ dropEndWhile p ys := by
  have hxs : (dropEndWhile p xs) = xs := dropEndWhile_eq_self h
  unfold dropEndWhile at hxs ⊢
  rw [List.reverse_append, List.dropWhile_append]
  split
  · next hys =>
    rw [hxs]
    simpa using hys
  · rw [List.reverse_append, List.reverse_reverse]

theorem dropEndWhile_append_of_pos {xs ys : List Char} (h : ∀ y ∈ ys, p y = true) :
    dropEndWhile p (xs ++ ys) = dropEndWhile p xs := by
  unfold dropEndWhile
  rw [List.reverse_append, List.dropWhile_append_of_pos]
  intro y hy
  exact h y (List.mem_reverse.mp hy)

theorem exists_of_trim (cs : List Char) : ∃ xs ys, cs = xs ++ (trim cs ++ ys) ∧
    (∀ x ∈ xs, isBlank x = true) ∧ ∀ y ∈ ys, isBlank y = true := by
  refine ⟨cs.takeWhile isBlank,((trimStart cs).reverse.takeWhile isBlank).reverse,?_,
    fun x hx => of_mem_takeWhile hx,fun y hy => of_mem_takeWhile (List.mem_reverse.mp hy)⟩
  rw [trim, trimEnd, dropEndWhile, ← List.reverse_append, List.takeWhile_append_dropWhile,
    List.reverse_reverse, trimStart, List.takeWhile_append_dropWhile]

theorem trim_append {xs cs ys : List Char} (hx : ∀ x ∈ xs, isBlank x = true)
    (hy : ∀ y ∈ ys, isBlank y = true) (hne : cs ≠ []) (hfirst : Stops isBlank cs)
    (hlast : cs.getLast?.all (fun c => !isBlank c) = true) : trim (xs ++ (cs ++ ys)) = cs := by
  have hstops : Stops isBlank (cs ++ ys) := by
    cases cs with
    | nil => exact absurd rfl hne
    | cons c cs => exact stops_cons.mpr (stops_cons.mp hfirst)
  rw [trim, trimStart, dropWhile_append_stops hx hstops, trimEnd, dropEndWhile_append_of_pos hy,
    dropEndWhile_eq_self hlast]

theorem Stops.mono {q : Char → Bool} {cs : List Char} (h : Stops p cs)
    (hpq : ∀ c, p c = false → q c = false) : Stops q cs :=
  fun c hc => hpq c (h c hc)

theorem Stops.of_prefix {xs ys : List Char} (h : Stops p ys) (hx : xs <+: ys) :
    Stops p xs := by
  cases xs with
  | nil => exact fun _ hc => by cases hc
  | cons x xs =>
    obtain ⟨r,rfl⟩ := hx
    exact stops_cons.mpr (stops_cons.mp h)

theorem firstWord_append {xs word ys : List Char} (hx : ∀ x ∈ xs, isBlank x = true)
    (hword : ∀ x ∈ word, isBlank x = false) (hne : word ≠ [])
    (hy : Stops (fun x => !isBlank x) ys) : firstWord (xs ++ (word ++ ys)) = word := by
  have hstops : Stops isBlank (word ++ ys) := by
    cases word with
    | nil => exact absurd rfl hne
    | cons w word => exact stops_cons.mpr (hword w (by simp))
  rw [firstWord, trimStart, dropWhile_append_stops hx hstops]
  exact takeWhile_append_stops (fun x hxw => by simp [hword x hxw]) hy

theorem exists_of_mem_line {c : Char} {cs : List Char} (h : c ∈ cs.takeWhile (· ≠ '\n')) :
    ∃ xs ys, cs = xs ++ c :: ys ∧ c ∉ xs ∧ '\n' ∉ xs := by
  obtain ⟨xs,ys,hline,hxs⟩ := List.eq_append_cons_of_mem h
  refine ⟨xs,ys ++ cs.dropWhile (· ≠ '\n'),?_,hxs,fun hfeed => ?_⟩
  · rw [← List.cons_append, ← List.append_assoc, ← hline, List.takeWhile_append_dropWhile]
  · have hmem : '\n' ∈ cs.takeWhile (· ≠ '\n') := by
      rw [hline]
      exact List.mem_append_left _ hfeed
    simpa using of_mem_takeWhile hmem

end SmaliNavigator.Text
