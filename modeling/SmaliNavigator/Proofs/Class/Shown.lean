import SmaliNavigator.Class.Reader
import SmaliNavigator.Proofs.Member.Reader

/-!
Keys in a document. The text of a reference is that of its key, and no earlier occurrence of that
text reaches into it: the name of a class has its semicolon at the end only, and of the members of a
line only the first one is recorded.
-/

set_option autoImplicit false

namespace SmaliNavigator

open Text

/-- A text stands in a document at a span, behind a first part of it, and no earlier occurrence of
the text reaches into this one. -/
structure Document.Shows (d : Document) (before key : List Char) (span : Span) : Prop where
  ne_nil : key ≠ []
  occurs : before ++ key <+: d.chars
  span_eq : span = d.spanOf (byteCount before) (byteCount (before ++ key))
  apart : ∀ xs, xs ++ key <+: d.chars → xs.length < before.length →
    (xs ++ key).length ≤ before.length

/-- Where the reference is, the document has its key. -/
def Reference.IsIn (d : Document) (r : Reference) : Prop :=
  ∃ before, d.Shows before r.key.toList r.span

/-! ### Occurrences that do not overlap -/

/-- Two occurrences of a text that ends with a character which it has nowhere else. -/
theorem apart_of_last {last : Char} {body cs xs ys : List Char} (hlast : last ∉ body)
    (hx : xs ++ (body ++ [last]) <+: cs) (hy : ys ++ (body ++ [last]) <+: cs)
    (h : xs.length < ys.length) : (xs ++ (body ++ [last])).length ≤ ys.length := by
  refine Classical.byContradiction fun hover => hlast ?_
  simp only [List.length_append, List.length_singleton] at hover
  obtain ⟨t,rfl⟩ := hx
  obtain ⟨u,hu⟩ := hy
  have hi : (xs ++ (body ++ [last]) ++ t)[xs.length + body.length]? = some last := by simp
  have hj : (ys ++ (body ++ [last]) ++ u)[xs.length + body.length]? =
      body[xs.length + body.length - ys.length]? := by
    rw [List.append_assoc, List.getElem?_append_right (by omega), List.append_assoc,
      List.getElem?_append_left (by omega)]
  rw [← hu, hj] at hi
  exact List.mem_of_getElem? hi

/-- Two occurrences of a text of one line, the second of which is the first one in its line. -/
theorem apart_of_first_in_line {before pre key post more xs : List Char}
    (hbefore : before = [] ∨ before.getLast? = some '\n') (hkey : '\n' ∉ key)
    (hfirst : ∀ us ys, pre = us ++ ys → ys ≠ [] → ¬ key <+: ys ++ (key ++ post))
    (hx : xs ++ key <+: before ++ (pre ++ (key ++ (post ++ more))))
    (h : xs.length < (before ++ pre).length) : (xs ++ key).length ≤ (before ++ pre).length := by
  refine Classical.byContradiction fun hover => ?_
  rw [List.length_append, List.length_append] at hover
  rw [List.length_append] at h
  by_cases hline : xs.length < before.length
  · -- the line feed in front of the line is a character of the earlier occurrence
    refine hkey ?_
    have hfeed : before.getLast? = some '\n' := by
      rcases hbefore with rfl | hfeed
      · simp at hline
      · exact hfeed
    obtain ⟨t,ht⟩ := hx
    have hi : (before ++ (pre ++ (key ++ (post ++ more))))[before.length - 1]? = some '\n' := by
      rw [List.getElem?_append_left (by omega), ← List.getLast?_eq_getElem?, hfeed]
    rw [← ht, List.append_assoc, List.getElem?_append_right (by omega),
      List.getElem?_append_left (by omega)] at hi
    exact List.mem_of_getElem? hi
  · -- the earlier occurrence is in the same line
    obtain ⟨us,rfl⟩ : ∃ us, xs = before ++ us := by
      have hxs := (List.prefix_append xs key).trans hx
      obtain ⟨us,hus⟩ := List.prefix_of_prefix_length_le
        (List.prefix_append before _) hxs (by omega)
      exact ⟨us,hus.symm⟩
    rw [List.append_assoc, List.prefix_append_right_inj] at hx
    simp only [List.length_append] at h hover
    obtain ⟨ys,rfl⟩ : ∃ ys, pre = us ++ ys := by
      have hus := (List.prefix_append us key).trans hx
      obtain ⟨ys,hys⟩ := List.prefix_of_prefix_length_le hus (List.prefix_append pre _) (by omega)
      exact ⟨ys,hys.symm⟩
    rw [List.append_assoc, List.prefix_append_right_inj] at hx
    have hne : ys ≠ [] := by
      rintro rfl
      simp at h
    refine hfirst us ys rfl hne ?_
    have hwhole : ys ++ (key ++ post) <+: ys ++ (key ++ (post ++ more)) := by
      rw [List.prefix_append_right_inj, List.prefix_append_right_inj]
      exact List.prefix_append post more
    refine List.prefix_of_prefix_length_le hx hwhole ?_
    simp only [List.length_append]
    omega

/-! ### Keys -/

/-- Whether a text is `L…;`, with nothing that ends a class name in between. -/
def IsClassKey (key : List Char) : Prop :=
  ∃ n, n ≠ [] ∧ (∀ c ∈ n, c ≠ ';' ∧ isSpace c = false) ∧ key = 'L' :: (n ++ [';'])

/-- Whether a text can be the key of a reference. -/
def IsReferenceKey (key : List Char) : Prop :=
  IsClassKey key ∨ IsFieldReference key ∨ IsMethodReference key

theorem TypeShape.IsWritable.of_mem_chars {t : TypeShape} (h : t.IsWritable) {c : Char}
    (hc : c ∈ t.chars) : c = '[' ∨ c = ';' ∨ Pattern.isClassNameChar c = true := by
  rw [TypeShape.chars_eq, List.mem_append] at hc
  rcases hc with hc | hc
  · exact .inl (List.eq_of_mem_replicate hc)
  obtain ⟨n,e⟩ := t
  cases e with
  | primitive p =>
    rw [ElementShape.toList_raw_primitive, List.mem_singleton] at hc
    refine .inr (.inr ?_)
    rw [hc]
    cases p <;> decide
  | object n =>
    rw [ElementShape.toList_raw_object] at hc
    simp only [List.mem_cons, List.mem_append, List.not_mem_nil, or_false] at hc
    rcases hc with rfl | hc | hc
    · exact .inr (.inr (by decide))
    · exact .inr (.inr (h.2 c hc))
    · exact .inr (.inl hc)

theorem TypeShape.IsWritable.not_mem_chars {t : TypeShape} (h : t.IsWritable) {c : Char}
    (hc : c ≠ '[' ∧ c ≠ ';' ∧ Pattern.isClassNameChar c = false) : c ∉ t.chars := by
  intro hmem
  rcases h.of_mem_chars hmem with heq | heq | hname
  · exact hc.1 heq
  · exact hc.2.1 heq
  · rw [hc.2.2] at hname
    cases hname

theorem TypeShape.IsWritable.not_isSpace {t : TypeShape} (h : t.IsWritable) {c : Char}
    (hc : c ∈ t.chars) : isSpace c = false := by
  rcases h.of_mem_chars hc with rfl | rfl | hname
  · decide
  · decide
  · exact not_isSpace_of_isClassNameChar hname

theorem not_isSpace_of_all {cs : List Char} (h : (cs.all fun x => !isSpace x) = true) :
    ∀ c ∈ cs, isSpace c = false := by
  simpa using h

theorem IsFieldReference.not_isSpace {key : List Char} (h : IsFieldReference key) :
    ∀ c ∈ key, isSpace c = false := by
  obtain ⟨owner,type,name,howner,htype,hname,rfl⟩ := h
  simp only [List.mem_append, List.mem_cons]
  rintro c (((hc | hc) | hc) | rfl | hc)
  · exact howner.1.not_isSpace hc
  · exact not_isSpace_of_all (by decide) c hc
  · exact not_isSpace_of_isMemberNameChar (hname.2 c hc)
  · decide
  · exact htype.not_isSpace hc

theorem IsFieldReference.not_mem {key : List Char} (h : IsFieldReference key) : '\n' ∉ key :=
  fun hmem => absurd (h.not_isSpace '\n' hmem) (by decide)

theorem IsFieldReference.ne_nil {key : List Char} (h : IsFieldReference key) : key ≠ [] := by
  obtain ⟨owner,type,name,_,_,_,rfl⟩ := h
  simp

theorem IsMethodReference.ne_nil {key : List Char} (h : IsMethodReference key) : key ≠ [] := by
  obtain ⟨owner,returned,ts,name,_,_,_,_,rfl⟩ := h
  simp

theorem IsMethodName.not_isSpace {name : List Char} (h : IsMethodName name) :
    ∀ c ∈ name, isSpace c = false := by
  rcases h with h | rfl | rfl
  · exact fun c hc => not_isSpace_of_isMemberNameChar (h.2 c hc)
  · exact not_isSpace_of_all (by decide)
  · exact not_isSpace_of_all (by decide)

theorem IsMethodReference.not_isSpace {key : List Char} (h : IsMethodReference key) :
    ∀ c ∈ key, isSpace c = false := by
  obtain ⟨owner,returned,ts,name,howner,hreturned,hts,hname,rfl⟩ := h
  simp only [List.mem_append, List.mem_cons, List.mem_flatMap]
  rintro c (((hc | hc) | hc) | rfl | ⟨t,ht,hc⟩ | rfl | hc)
  · exact howner.1.not_isSpace hc
  · exact not_isSpace_of_all (by decide) c hc
  · exact hname.not_isSpace c hc
  · decide
  · exact (hts t ht).not_isSpace hc
  · decide
  · exact hreturned.not_isSpace hc

theorem IsMethodReference.not_mem {key : List Char} (h : IsMethodReference key) : '\n' ∉ key :=
  fun hmem => absurd (h.not_isSpace '\n' hmem) (by decide)

theorem IsClassKey.not_mem {key : List Char} (h : IsClassKey key) : '\n' ∉ key := by
  obtain ⟨n,_,hn,rfl⟩ := h
  have hfeed : '\n' ∉ n := fun hmem => absurd (hn '\n' hmem).2 (by decide)
  simp [hfeed]

theorem IsClassKey.ne_nil {key : List Char} (h : IsClassKey key) : key ≠ [] := by
  obtain ⟨n,_,_,rfl⟩ := h
  simp

theorem IsReferenceKey.ne_nil {key : List Char} (h : IsReferenceKey key) : key ≠ [] := by
  rcases h with h | h | h <;> exact h.ne_nil

theorem IsReferenceKey.not_mem {key : List Char} (h : IsReferenceKey key) : '\n' ∉ key := by
  rcases h with h | h | h <;> exact h.not_mem

/-! ### Occurrences in lines -/

variable {d : Document}

theorem Line.exists_tail (l : Line) :
    ∃ returns more, l.content = dropEndWhile (· == '\r') l.content ++ returns ∧
      l.tail = l.content ++ more ∧ '\n' ∉ l.content := by
  obtain ⟨returns,hreturns⟩ := prefix_of_dropEndWhile (· == '\r') l.content
  refine ⟨returns,l.tail.dropWhile (· ≠ '\n'),hreturns.symm,
    List.takeWhile_append_dropWhile.symm,fun hmem => ?_⟩
  have hfeed := of_mem_takeWhile hmem
  simp at hfeed

/-- A line that starts with a text shows it, where the text is not a part of the end of the line. -/
theorem Line.text_append {l : Line} {xs ys : List Char} (h : l.tail = xs ++ ys) (hx : '\n' ∉ xs)
    (hlast : xs.getLast?.all (fun x => !(x == '\r')) = true) :
    dropEndWhile (· == '\r') l.content =
      xs ++ dropEndWhile (· == '\r') (ys.takeWhile (· ≠ '\n')) := by
  have hline : ∀ x ∈ xs, decide (x ≠ '\n') = true := by
    intro x hxs
    simpa using fun h : x = '\n' => hx (h ▸ hxs)
  rw [content, h, List.takeWhile_append_of_pos hline, dropEndWhile_append hlast]

theorem Cursor.At.prefix_chars {c : Cursor} {before key r : List Char} (h : c.At d before)
    (hrest : c.rest = key ++ r) : before ++ key <+: d.chars := by
  rw [h.chars, hrest, List.prefix_append_right_inj]
  exact List.prefix_append _ r

theorem shows_of_apart {c : Cursor} {before key r : List Char} (hne : key ≠ [])
    (hat : c.At d before) (hrest : c.rest = key ++ r)
    (hapart : ∀ xs, xs ++ key <+: d.chars → xs.length < before.length →
      (xs ++ key).length ≤ before.length) :
    d.Shows before key (c.spanTo (c.advance key.length)) :=
  ⟨hne,hat.prefix_chars hrest,by rw [hat.spanTo_advance, Cursor.take_length_rest hrest],hapart⟩

theorem shows_of_isClassKey {c : Cursor} {before key r : List Char} (hkey : IsClassKey key)
    (hat : c.At d before) (hrest : c.rest = key ++ r) :
    d.Shows before key (c.spanTo (c.advance key.length)) := by
  have hoccurs := hat.prefix_chars hrest
  refine shows_of_apart hkey.ne_nil hat hrest fun xs hx h => ?_
  obtain ⟨n,_,hn,rfl⟩ := hkey
  have hbody : ';' ∉ 'L' :: n := by
    refine List.not_mem_cons_of_ne_of_not_mem (by decide) fun hmem => ?_
    exact (hn ';' hmem).1 rfl
  exact apart_of_last hbody hx hoccurs h

/-- A key stands in a line at a cursor. -/
structure Cursor.Finds (d : Document) (line : Nat) (before key : List Char) (c : Cursor) : Prop where
  at_before : c.At d before
  rest : ∃ r, c.rest = key ++ r
  start : d.lineStart line ≤ byteCount before
  stop : byteCount (before ++ key) ≤ d.lineStop line
  shows : d.Shows before key (c.spanTo (c.advance key.length))

/-- The first match in the line that it is found in. No match starts further left. -/
theorem Pattern.Takes.exists_content {p : Pattern} {kind : List Char → Prop} (hp : p.Takes kind)
    {line : Nat} {m : Match} (h : p.findFirst? (d.lineText line) = some m) :
    ∃ l pre post returns more, d.lines[line]? = some l ∧
      l.content = pre ++ (m.chars ++ (post ++ returns)) ∧ l.tail = l.content ++ more ∧
      '\n' ∉ l.content ∧ kind m.chars ∧ m.start = byteCount pre ∧
      ∀ xs ys, pre = xs ++ ys → ys ≠ [] → ¬m.chars <+: ys ++ (m.chars ++ post) := by
  unfold Document.lineText at h
  cases hl : d.lines[line]? with
  | none =>
    rw [hl] at h
    cases h
  | some l =>
    simp only [hl] at h
    obtain ⟨returns,more,hcontent,htail,hfeed⟩ := l.exists_tail
    obtain ⟨pre,post,hline,hm,hstart,hfirst⟩ := hp.of_findFirst? h
    rw [hline, List.append_assoc, List.append_assoc] at hcontent
    exact ⟨l,pre,post,returns,more,rfl,hcontent,htail,hfeed,hm,hstart,hfirst⟩

theorem Cursor.finds_of_findFirst? {p : Pattern} {kind : List Char → Prop} (hp : p.Takes kind)
    (hkind : ∀ key, kind key → IsReferenceKey key) {line : Nat} {m : Match}
    (h : p.findFirst? (d.lineText line) = some m) :
    kind m.chars ∧ ∃ before, (atPosition d ⟨line,m.start⟩).Finds d line before m.chars := by
  obtain ⟨l,pre,post,returns,more,hl,hcontent,htail,hfeed,hm,hstart,hfirst⟩ := hp.exists_content h
  rw [hcontent] at htail hfeed
  have hpre : '\n' ∉ pre := fun hmem => hfeed (by simp [hmem])
  have hsplit : l.tail = pre ++ (m.chars ++ (post ++ (returns ++ more))) := by simp [htail]
  obtain ⟨before,hchars,hbefore,hoffset,hat,hrest⟩ := Cursor.at_atPosition hl hsplit hpre
  rw [← hstart] at hat hrest
  refine ⟨hm,before ++ pre,hat,⟨_,hrest⟩,?_,?_,?_⟩
  · simp [Document.lineStart, hl, hoffset]
  · simp only [Document.lineStop, hl, Line.stop, hcontent, hoffset, byteCount_append]
    omega
  · refine shows_of_apart (hkind _ hm).ne_nil hat hrest fun xs hx hlt => ?_
    rw [hchars, hsplit] at hx
    exact apart_of_first_in_line hbefore (hkind _ hm).not_mem hfirst hx hlt

namespace Document.Shows

variable {before key : List Char} {span : Span}

theorem start_eq (h : d.Shows before key span) : span.start = d.positionAt (byteCount before) := by
  rw [h.span_eq]
  rfl

theorem start_lt_stop (h : d.Shows before key span) : span.start < span.stop := by
  obtain ⟨r,hr⟩ := h.occurs
  have hkey : 0 < key.length := List.length_pos_iff.mpr h.ne_nil
  have hbytes := length_le_byteCount key
  have hsize := Document.byteCount_le_size hr.symm
  rw [h.span_eq]
  exact d.positionAt_lt (by rw [byteCount_append]; omega) hsize

end Document.Shows

end SmaliNavigator
