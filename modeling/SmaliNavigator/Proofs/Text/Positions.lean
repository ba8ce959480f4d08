import SmaliNavigator.Proofs.Text.LineCount

/-!
Offsets against positions. The offsets from the start of a line to its end are those whose position is on
the line, and each offset up to the end of the document is on exactly one line. So offsets and the
positions that a document has are the same in the same order.
-/

set_option autoImplicit false

namespace SmaliNavigator.Document

open Text

variable {d : Document} {line offset : Nat} {l : Line} {p : Position}

theorem exists_line_of_lt (h : line < d.lineCount) : ∃ l, d.lines[line]? = some l :=
  ⟨d.lines[line],List.getElem?_eq_getElem h⟩

theorem lineStart_eq (h : d.lines[line]? = some l) : d.lineStart line = l.start := by
  rw [lineStart, h]

theorem lineStop_eq (h : d.lines[line]? = some l) : d.lineStop line = l.stop := by
  rw [lineStop, h]

/-- A document around the content of a line: behind it the document ends or has a line feed. -/
theorem exists_content (h : d.lines[line]? = some l) :
    ∃ front rest, d.chars = front ++ (l.content ++ rest) ∧ l.start = byteCount front ∧
      '\n' ∉ l.content ∧ (rest = [] ∨ ∃ more, rest = '\n' :: more) := by
  obtain ⟨front,hchars,hstart,-⟩ := exists_of_getElem?_lines h
  refine ⟨front,l.tail.dropWhile (· ≠ '\n'),?_,hstart,fun hfeed => ?_,?_⟩
  · rw [Line.content, List.takeWhile_append_dropWhile, hchars]
  · simpa using List.all_eq_true.mp List.all_takeWhile _ hfeed
  · have hstops := List.head?_dropWhile_not (· ≠ '\n') l.tail
    cases hrest : l.tail.dropWhile (· ≠ '\n') with
    | nil => exact .inl rfl
    | cons c more =>
      rw [hrest] at hstops
      obtain rfl : c = '\n' := by simpa using hstops
      exact .inr ⟨more,rfl⟩

theorem stop_le_size (h : d.lines[line]? = some l) : l.stop ≤ d.size := by
  obtain ⟨front,rest,hchars,hfront,-⟩ := exists_content h
  rw [d.size_eq, hchars, byteCount_append, byteCount_append, Line.stop, hfront]
  omega

end SmaliNavigator.Document
