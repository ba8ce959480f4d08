import SmaliNavigator.Proofs.Text.Lines

/-!
Lines by number. The number of a line is the number of line feeds in front of it, and so is that of the
line that a place is on.
-/

set_option autoImplicit false

namespace SmaliNavigator

open Text

namespace Line

theorem length_following (offset : Nat) (cs : List Char) :
    (following offset cs).length = cs.count '\n' := by
  induction cs generalizing offset with
  | nil => rfl
  | cons c cs ih =>
    unfold following
    split
    · next hc => rw [hc, List.length_cons, ih, List.count_cons_self]
    · next hc => rw [ih, List.count_cons_of_ne hc]

theorem length_table (cs : List Char) : (table cs).length = cs.count '\n' + 1 := by
  rw [table, List.length_cons, length_following]

theorem getElem?_following (offset : Nat) (front tail : List Char) :
    (following offset (front ++ '\n' :: tail))[front.count '\n']? =
      some ⟨offset + byteCount (front ++ ['\n']),tail⟩ := by
  induction front generalizing offset with
  | nil => simp [following]
  | cons c front ih =>
    have hlater := ih (offset + c.utf8Size)
    rw [Nat.add_assoc, ← byteCount_cons, ← List.cons_append] at hlater
    rw [List.cons_append, following]
    split
    · next hc =>
      subst hc
      rw [List.count_cons_self, List.getElem?_cons_succ, hlater]
    · next hc => rw [List.count_cons_of_ne hc, hlater]

/-- What is behind a part that is empty or ends in a line feed is the line with the number of its line
feeds. -/
theorem getElem?_table {front tail : List Char}
    (hfirst : front = [] ∨ front.getLast? = some '\n') :
    (table (front ++ tail))[front.count '\n']? = some ⟨byteCount front,tail⟩ := by
  rcases hfirst with rfl | hfeed
  · rfl
  · obtain ⟨front,rfl⟩ := List.getLast?_eq_some_iff.mp hfeed
    have hline := getElem?_following 0 front tail
    rw [Nat.zero_add] at hline
    rw [List.append_assoc, List.singleton_append, List.count_append, List.count_singleton_self, table,
      List.getElem?_cons_succ, hline]

end Line

namespace Document

variable {d : Document}

theorem lineCount_eq (d : Document) : d.lineCount = d.chars.count '\n' + 1 := by
  rw [lineCount, d.lines_eq, Line.length_table]

theorem getElem?_lines {front tail : List Char} (h : d.chars = front ++ tail)
    (hfirst : front = [] ∨ front.getLast? = some '\n') :
    d.lines[front.count '\n']? = some ⟨byteCount front,tail⟩ := by
  rw [d.lines_eq, h]
  exact Line.getElem?_table hfirst

theorem exists_of_getElem?_lines {line : Nat} {l : Line} (h : d.lines[line]? = some l) :
    ∃ front, d.chars = front ++ l.tail ∧ l.start = byteCount front ∧
      (front = [] ∨ front.getLast? = some '\n') ∧ front.count '\n' = line := by
  have hmem : l ∈ Line.table d.chars := by
    rw [← d.lines_eq]
    exact List.mem_of_getElem? h
  obtain ⟨front,hchars,hstart,hfirst⟩ := Line.mem_table hmem
  have hfront := lineOf_start (getElem?_lines hchars hfirst)
  dsimp only at hfront
  rw [← hstart, lineOf_start h] at hfront
  exact ⟨front,hchars,hstart,hfirst,hfront.symm⟩

theorem positionAt_front {front x rest : List Char} (h : d.chars = front ++ (x ++ rest))
    (hfirst : front = [] ∨ front.getLast? = some '\n') (hx : '\n' ∉ x) :
    d.positionAt (byteCount (front ++ x)) = ⟨front.count '\n',byteCount x⟩ := by
  have hstart := positionAt_start (getElem?_lines h hfirst)
  dsimp only at hstart
  rw [positionAt_append h hx, hstart, Position.right, Nat.zero_add]

theorem exists_lineStart (before : List Char) : ∃ front x, before = front ++ x ∧ '\n' ∉ x ∧
    (front = [] ∨ front.getLast? = some '\n') := by
  obtain ⟨l,front,x,hl,hbefore,hstart,htail,hx,-⟩ :=
    exists_front (d := ofChars before) (List.append_nil before).symm
  obtain ⟨front',hchars,hstart',hfirst,-⟩ := exists_of_getElem?_lines hl
  have hwhole : front' ++ l.tail = front ++ l.tail := by
    rw [← hchars, htail, List.append_nil]
    exact hbefore
  exact ⟨front,x,hbefore,hx,List.append_cancel_right hwhole ▸ hfirst⟩

end Document

end SmaliNavigator
