import SmaliNavigator.Proofs.Class.References
import SmaliNavigator.Proofs.Member.Definition

/-!
The lines of a block. Whatever they are, as long as none of them closes the block, the reader goes
from one to the next and ends behind the marker. Inside of a method it looks for references on every
line, and that cannot fail.
-/

set_option autoImplicit false

namespace SmaliNavigator

open Text

/-- The text of lines, each with its line feed. -/
def linesChars (ls : List String) : List Char :=
  ls.flatMap fun l => l.toList ++ ['\n']

@[simp] theorem linesChars_nil : linesChars [] = [] := rfl

theorem linesChars_cons (l : String) (ls : List String) (r : List Char) :
    linesChars (l :: ls) ++ r = l.toList ++ '\n' :: (linesChars ls ++ r) := by
  simp [linesChars]

@[simp] theorem linesChars_append (ls ls' : List String) :
    linesChars (ls ++ ls') = linesChars ls ++ linesChars ls' := by
  simp [linesChars]

theorem length_le_linesChars (ls : List String) : ls.length ≤ (linesChars ls).length := by
  induction ls with
  | nil => simp
  | cons l ls ih =>
    simp only [linesChars, List.flatMap_cons, List.length_append, List.length_cons] at ih ⊢
    omega

theorem prefix_line {xs line more : List Char} (h : xs <+: line ++ '\n' :: more)
    (hx : '\n' ∉ xs) : xs <+: line := by
  rcases List.prefix_or_prefix_of_prefix h (List.prefix_append line _) with hp | hp
  · exact hp
  · obtain ⟨t,rfl⟩ := hp
    rw [List.prefix_append_right_inj] at h
    cases t with
    | nil => simp
    | cons x t =>
      obtain ⟨s,hs⟩ := h
      have hfeed : x = '\n' := (List.cons.inj hs).1
      exact absurd (by simp [hfeed]) hx

/-! ### One line -/

namespace Cursor

variable {c : Cursor} {marker line : String} {more : List Char}

theorem expect?_eq_none {literal : String} (h : ¬literal.toList <+: c.skipSpace.rest) :
    c.expect? literal = none := by
  refine Option.eq_none_iff_forall_ne_some.mpr fun c' hc' => ?_
  obtain ⟨r,hr,_⟩ := literal?_eq_some hc'
  exact h ⟨r,hr.symm⟩

/-- A line of a block is blank, or starts with something that is not the marker. -/
theorem inside_cases (hline : IsInside marker line) (hmarker : '\n' ∉ marker.toList)
    (h : c.rest = line.toList ++ '\n' :: more) :
    c.skipLine.rest = more ∧ (c.skipSpace = c.skipLine.skipSpace ∨
      c.expect? marker = none ∧ c.skipSpace.rest ≠ [] ∧ c.skipSpace.skipLine = c.skipLine) := by
  obtain ⟨hfeed,hinside⟩ := hline
  have hnext := skipLine_of_rest h hfeed
  have hwhole : c.rest = (line.toList ++ ['\n']) ++ more := by simpa using h
  refine ⟨rest_skipLine h hfeed,?_⟩
  have hsplit := (List.takeWhile_append_dropWhile (p := isSpace) (l := line.toList)).symm
  have hspaces : ∀ x ∈ line.toList.takeWhile isSpace, isSpace x = true :=
    fun x hx => of_mem_takeWhile hx
  have hstops := stops_dropWhile isSpace line.toList
  cases hrest : line.toList.dropWhile isSpace with
  | nil =>
    refine .inl ?_
    rw [hrest, List.append_nil] at hsplit
    rw [hnext, skipSpace_advance hwhole]
    intro x hx
    rcases List.mem_append.mp hx with hx | hx
    · exact hspaces x (hsplit ▸ hx)
    · rw [List.mem_singleton.mp hx]
      decide
  | cons x xs =>
    rw [hrest] at hsplit hinside hstops
    have hmore := h
    rw [hsplit, List.append_assoc] at hmore
    have hskip : c.skipSpace.rest = x :: xs ++ '\n' :: more :=
      rest_skipSpace hmore hspaces (stops_cons.mpr (stops_cons.mp hstops))
    have hinline : c.Inline c.skipSpace := by
      rw [skipSpace, skipWhile_of_rest hmore hspaces (stops_cons.mpr (stops_cons.mp hstops))]
      exact .of_rest hmore fun hx => hfeed ((List.takeWhile_prefix _).subset hx)
    refine .inr ⟨expect?_eq_none fun hp => hinside ?_,by simp [hskip],hinline.skipLine_eq⟩
    rw [hskip] at hp
    exact List.isPrefixOf_iff_prefix.mpr (prefix_line hp hmarker)

end Cursor

/-! ### Blocks -/

namespace Class

variable {c : Cursor} {line fuel : Nat} {ls : List String} {r : List Char}

theorem skipBlock_of_lines (hls : ∀ l ∈ ls, IsInside ".end annotation" l)
    (h : c.rest = linesChars ls ++ (".end annotation".toList ++ r)) (hfuel : ls.length < fuel) :
    ∃ c', skipBlock line fuel c = .ok c' ∧ c'.rest = r := by
  induction ls generalizing c fuel with
  | nil =>
    obtain ⟨fuel,rfl⟩ : ∃ n, fuel = n + 1 := ⟨fuel - 1,by simp at hfuel; omega⟩
    rw [linesChars_nil, List.nil_append] at h
    have hstops : Stops isSpace c.rest := by
      rw [h]
      exact stops_cons.mpr (by decide)
    refine ⟨_,?_,Cursor.rest_advance_length h⟩
    simp only [skipBlock, Cursor.expect?_of_rest h hstops]
  | cons l ls ih =>
    obtain ⟨fuel,rfl⟩ : ∃ n, fuel = n + 1 := ⟨fuel - 1,by simp at hfuel; omega⟩
    have hless : ls.length < fuel := by simpa using hfuel
    rw [linesChars_cons] at h
    obtain ⟨hnext,hcases⟩ := Cursor.inside_cases (hls l (by simp)) (by decide) h
    obtain ⟨c',hread,hrest⟩ := ih (fun l hl => hls l (by simp [hl])) hnext hless
    refine ⟨c',?_,hrest⟩
    have hmore : c.skipLine.atEnd = false := by
      rw [Cursor.atEnd, hnext]
      simp
    rw [← hread]
    rcases hcases with hspace | ⟨hnone,_,_⟩
    · -- a blank line does not tell the marker of a later line from that of this one
      have hsame : c.expect? ".end annotation" = c.skipLine.expect? ".end annotation" := by
        rw [Cursor.expect?, hspace]
        rfl
      rw [skipBlock, hsame]
      split
      · next after hafter =>
        obtain ⟨fuel,rfl⟩ : ∃ n, fuel = n + 1 := ⟨fuel - 1,by omega⟩
        simp only [skipBlock, hafter]
      · simp [hmore]
    · simp [skipBlock, hnone, hmore]

theorem readInstructions_of_lines {d : Document} (hls : ∀ l ∈ ls, IsInside ".end method" l)
    (hc : c.On d) (h : c.rest = linesChars ls ++ (".end method".toList ++ r))
    (hfuel : ls.length < fuel) :
    ∃ rs c', readInstructions line fuel c = .ok (rs,c') ∧ c'.rest = r := by
  induction ls generalizing c fuel with
  | nil =>
    obtain ⟨fuel,rfl⟩ : ∃ n, fuel = n + 1 := ⟨fuel - 1,by simp at hfuel; omega⟩
    rw [linesChars_nil, List.nil_append] at h
    have hstops : Stops isSpace c.rest := by
      rw [h]
      exact stops_cons.mpr (by decide)
    have hmore : c.atEnd = false := by simp [Cursor.atEnd, h]
    refine ⟨[],_,?_,Cursor.rest_advance_length h⟩
    simp [readInstructions, Cursor.skipSpace_of_stops hstops, hmore,
      Cursor.expect?_of_rest h hstops]
  | cons l ls ih =>
    obtain ⟨fuel,rfl⟩ : ∃ n, fuel = n + 1 := ⟨fuel - 1,by simp at hfuel; omega⟩
    have hless : ls.length < fuel := by simpa using hfuel
    have hlater : ∀ l ∈ ls, IsInside ".end method" l := fun l hl => hls l (by simp [hl])
    rw [linesChars_cons] at h
    obtain ⟨hnext,hcases⟩ := Cursor.inside_cases (hls l (by simp)) (by decide) h
    have hon := hc.reaches (.skipLine c)
    rcases hcases with hspace | ⟨hnone,hne,hline⟩
    · -- a blank line is passed together with the one behind it
      obtain ⟨rs,c',hread,hrest⟩ := ih hlater hon hnext (Nat.lt_succ_of_lt hless)
      refine ⟨rs,c',?_,hrest⟩
      rw [← hread]
      simp only [readInstructions, hspace]
    · obtain ⟨rs,c',hread,hrest⟩ := ih hlater hon hnext hless
      have hspace := hc.reaches (.skipSpace c)
      obtain ⟨here,hreferences,_⟩ :=
        Instruction.exists_references hspace c.skipSpace_skipSpace (.nil d _)
      have hmore : c.skipSpace.atEnd = false := by simpa [Cursor.atEnd] using hne
      have hopen : c.skipSpace.expect? ".end method" = none := by
        rw [← hnone, Cursor.expect?, c.skipSpace_skipSpace]
        rfl
      refine ⟨here ++ rs,c',?_,hrest⟩
      simp [readInstructions, hmore, hopen, hreferences, hline, hread, bind, Except.bind, pure,
        Except.pure]

end Class

end SmaliNavigator
