import SmaliNavigator.Proofs.Text.LineCount
import SmaliNavigator.Proofs.Text.Runs

/-!
Texts with a carriage return in front of every line feed. Such a text has the same lines as the text
without them, each with a carriage return at its end that `lineText` does not show, and so its places
are at the same positions.
-/

set_option autoImplicit false

namespace SmaliNavigator

namespace Text

/-- The text with a carriage return put in front of every line feed. -/
def withReturns (cs : List Char) : List Char :=
  cs.flatMap fun c => if c = '\n' then ['\r', '\n'] else [c]

@[simp] theorem withReturns_nil : withReturns [] = [] := rfl

theorem withReturns_feed (cs : List Char) : withReturns ('\n' :: cs) = '\r' :: '\n' :: withReturns cs := rfl

theorem withReturns_cons {c : Char} (hc : c ≠ '\n') (cs : List Char) :
    withReturns (c :: cs) = c :: withReturns cs := by
  simp [withReturns, hc]

@[simp] theorem withReturns_append (xs ys : List Char) :
    withReturns (xs ++ ys) = withReturns xs ++ withReturns ys := List.flatMap_append

theorem withReturns_of_not_mem {cs : List Char} (h : '\n' ∉ cs) : withReturns cs = cs := by
  induction cs with
  | nil => rfl
  | cons c cs ih =>
    obtain ⟨hc,hcs⟩ := not_or.mp (mt List.mem_cons.mpr h)
    rw [withReturns_cons (Ne.symm hc), ih hcs]

theorem count_withReturns (cs : List Char) : (withReturns cs).count '\n' = cs.count '\n' := by
  induction cs with
  | nil => rfl
  | cons c cs ih =>
    by_cases hc : c = '\n'
    · rw [hc, withReturns_feed, List.count_cons_of_ne (by decide), List.count_cons_self,
        List.count_cons_self, ih]
    · rw [withReturns_cons hc, List.count_cons_of_ne hc, List.count_cons_of_ne hc, ih]

theorem length_le_withReturns (cs : List Char) : cs.length ≤ (withReturns cs).length := by
  induction cs with
  | nil => exact Nat.le_refl _
  | cons c cs ih =>
    by_cases hc : c = '\n'
    · rw [hc, withReturns_feed]
      simp only [List.length_cons]
      omega
    · rw [withReturns_cons hc]
      exact Nat.succ_le_succ ih

theorem withReturns_eq_nil_iff {cs : List Char} : withReturns cs = [] ↔ cs = [] := by
  refine ⟨fun h => ?_,fun h => by rw [h, withReturns_nil]⟩
  cases cs with
  | nil => rfl
  | cons c cs =>
    by_cases hc : c = '\n'
    · rw [hc, withReturns_feed] at h
      cases h
    · rw [withReturns_cons hc] at h
      cases h

theorem head?_withReturns {x : Char} (hfeed : x ≠ '\n') (hreturn : x ≠ '\r') {cs : List Char} :
    (withReturns cs).head? = some x ↔ cs.head? = some x := by
  cases cs with
  | nil => rfl
  | cons c cs =>
    by_cases hc : c = '\n'
    · rw [hc, withReturns_feed, List.head?_cons, List.head?_cons, Option.some.injEq, Option.some.injEq]
      exact ⟨fun h => absurd h.symm hreturn,fun h => absurd h.symm hfeed⟩
    · rw [withReturns_cons hc, List.head?_cons, List.head?_cons]

theorem withReturns_first {front : List Char} (h : front = [] ∨ front.getLast? = some '\n') :
    withReturns front = [] ∨ (withReturns front).getLast? = some '\n' := by
  rcases h with rfl | h
  · exact .inl rfl
  · obtain ⟨front,rfl⟩ := List.getLast?_eq_some_iff.mp h
    exact .inr (by simp [withReturns_feed])

section Runs

variable {p : Char → Bool} {cs : List Char}

/-- A kind that does not tell the two ends of a line apart goes on in the same way. -/
theorem takeWhile_withReturns (hp : p '\r' = p '\n') (cs : List Char) :
    (withReturns cs).takeWhile p = withReturns (cs.takeWhile p) := by
  induction cs with
  | nil => rfl
  | cons c cs ih =>
    by_cases hc : c = '\n'
    · rw [hc, withReturns_feed]
      cases hn : p '\n' with
      | true => simp [hp, hn, ih, withReturns_feed]
      | false => simp [hp, hn]
    · rw [withReturns_cons hc]
      cases hpc : p c with
      | true => simp [hpc, ih, withReturns_cons hc]
      | false => simp [hpc]

/-- The characters of a line, with the carriage return that there is when the line is not the last. -/
theorem line_withReturns (cs : List Char) : ∃ returns,
    (withReturns cs).takeWhile (· ≠ '\n') = cs.takeWhile (· ≠ '\n') ++ returns ∧
      (returns = [] ∨ returns = ['\r']) := by
  induction cs with
  | nil => exact ⟨[],rfl,.inl rfl⟩
  | cons c cs ih =>
    by_cases hc : c = '\n'
    · exact ⟨['\r'],by simp [hc, withReturns_feed],.inr rfl⟩
    · obtain ⟨returns,hline,hreturns⟩ := ih
      have hkind : decide (c ≠ '\n') = true := by simpa using hc
      refine ⟨returns,?_,hreturns⟩
      rw [withReturns_cons hc, List.takeWhile_cons, List.takeWhile_cons, if_pos hkind, if_pos hkind, hline,
        List.cons_append]

theorem dropEndWhile_line_withReturns (hp : p '\r' = true) (cs : List Char) :
    dropEndWhile p ((withReturns cs).takeWhile (· ≠ '\n')) =
      dropEndWhile p (cs.takeWhile (· ≠ '\n')) := by
  obtain ⟨returns,hline,hreturns⟩ := line_withReturns cs
  rw [hline, dropEndWhile_append_of_pos]
  rcases hreturns with rfl | rfl
  · simp
  · simp [hp]

theorem isPrefixOf_withReturns {literal : List Char} (hfeed : '\n' ∉ literal) (hreturn : '\r' ∉ literal)
    (cs : List Char) : literal.isPrefixOf (withReturns cs) = literal.isPrefixOf cs := by
  induction literal generalizing cs with
  | nil => rfl
  | cons l literal ih =>
    obtain ⟨hl,hfeed⟩ := not_or.mp (mt List.mem_cons.mpr hfeed)
    obtain ⟨hl',hreturn⟩ := not_or.mp (mt List.mem_cons.mpr hreturn)
    cases cs with
    | nil => rfl
    | cons c cs =>
      by_cases hc : c = '\n'
      · subst hc
        have hfirst : (l == '\r') = false := beq_false_of_ne (Ne.symm hl')
        have hsecond : (l == '\n') = false := beq_false_of_ne (Ne.symm hl)
        rw [withReturns_feed, List.isPrefixOf_cons_cons, List.isPrefixOf_cons_cons, hfirst, hsecond,
          Bool.false_and, Bool.false_and]
      · rw [withReturns_cons hc, List.isPrefixOf_cons_cons, List.isPrefixOf_cons_cons, ih hfeed hreturn]

end Runs

end Text

open Text

namespace Document

/-- The document with a carriage return in front of every line feed. -/
def withReturns (d : Document) : Document := ofChars (Text.withReturns d.chars)

@[simp] theorem chars_withReturns (d : Document) : d.withReturns.chars = Text.withReturns d.chars := rfl

theorem lineCount_withReturns (d : Document) : d.withReturns.lineCount = d.lineCount := by
  rw [lineCount_eq, lineCount_eq, chars_withReturns, count_withReturns]

variable {d : Document}

theorem getElem?_lines_withReturns {front tail : List Char} (h : d.chars = front ++ tail)
    (hfirst : front = [] ∨ front.getLast? = some '\n') :
    d.withReturns.lines[front.count '\n']? =
      some ⟨byteCount (Text.withReturns front),Text.withReturns tail⟩ := by
  have hchars : d.withReturns.chars = Text.withReturns front ++ Text.withReturns tail := by
    rw [chars_withReturns, h, withReturns_append]
  have hline := getElem?_lines hchars (withReturns_first hfirst)
  rwa [count_withReturns] at hline

theorem lineText_withReturns (d : Document) (line : Nat) :
    d.withReturns.lineText line = d.lineText line := by
  unfold lineText
  cases hl : d.lines[line]? with
  | none =>
    have hcount : d.withReturns.lines.length ≤ line := by
      have hlength : d.withReturns.lines.length = d.lines.length := d.lineCount_withReturns
      rw [hlength]
      exact List.getElem?_eq_none_iff.mp hl
    rw [List.getElem?_eq_none_iff.mpr hcount]
  | some l =>
    obtain ⟨front,hchars,_,hfirst,rfl⟩ := exists_of_getElem?_lines hl
    rw [getElem?_lines_withReturns hchars hfirst]
    exact dropEndWhile_line_withReturns rfl l.tail

theorem positionAt_withReturns {before rest : List Char} (h : d.chars = before ++ rest) :
    d.withReturns.positionAt (byteCount (Text.withReturns before)) =
      d.positionAt (byteCount before) := by
  obtain ⟨front,x,rfl,hx,hfirst⟩ := exists_lineStart before
  have hchars : d.withReturns.chars =
      Text.withReturns front ++ (x ++ Text.withReturns rest) := by
    rw [chars_withReturns, h, withReturns_append, withReturns_append, withReturns_of_not_mem hx,
      List.append_assoc]
  rw [List.append_assoc] at h
  rw [withReturns_append, withReturns_of_not_mem hx, positionAt_front hchars (withReturns_first hfirst) hx,
    positionAt_front h hfirst hx, count_withReturns]

theorem lineSpan_withReturns (d : Document) (line : Nat) :
    d.withReturns.lineSpan line = d.lineSpan line := by
  rw [lineSpan, lineSpan, lineText_withReturns]

end Document

end SmaliNavigator
