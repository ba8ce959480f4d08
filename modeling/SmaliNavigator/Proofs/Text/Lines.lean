import SmaliNavigator.Text.Document

/-!
The table of lines of a document. Every line starts at the start of the document or behind a line
feed, later lines start later, and so no two offsets have the same position.
-/

set_option autoImplicit false

namespace SmaliNavigator

open Text

namespace Line

theorem mem_following {offset : Nat} {cs : List Char} {l : Line} (h : l ∈ following offset cs) :
    ∃ before, cs = before ++ '\n' :: l.tail ∧ l.start = offset + byteCount (before ++ ['\n']) := by
  induction cs generalizing offset with
  | nil => simp [following] at h
  | cons c cs ih =>
    unfold following at h
    split at h
    · next hc =>
      subst hc
      rcases List.mem_cons.mp h with rfl | h
      · exact ⟨[],rfl,by simp⟩
      · obtain ⟨before,hcs,hstart⟩ := ih h
        refine ⟨'\n' :: before,by rw [hcs]; rfl,?_⟩
        rw [hstart, List.cons_append, byteCount_cons, Nat.add_assoc]
    · obtain ⟨before,hcs,hstart⟩ := ih h
      refine ⟨c :: before,by rw [hcs]; rfl,?_⟩
      rw [hstart, List.cons_append, byteCount_cons, Nat.add_assoc]

/-- A line is what follows a part of the text that is empty or ends in a line feed. -/
theorem mem_table {cs : List Char} {l : Line} (h : l ∈ table cs) :
    ∃ before, cs = before ++ l.tail ∧ l.start = byteCount before ∧
      (before = [] ∨ before.getLast? = some '\n') := by
  rcases List.mem_cons.mp h with rfl | h
  · exact ⟨[],rfl,rfl,.inl rfl⟩
  · obtain ⟨before,hcs,hstart⟩ := mem_following h
    exact ⟨before ++ ['\n'],by simp [hcs],by simpa using hstart,.inr (by simp)⟩

theorem mem_following_of {offset : Nat} (before tail : List Char) :
    ⟨offset + byteCount (before ++ ['\n']),tail⟩ ∈ following offset (before ++ '\n' :: tail) := by
  induction before generalizing offset with
  | nil => simp [following]
  | cons c before ih =>
    have hlater : ⟨offset + c.utf8Size + byteCount (before ++ ['\n']),tail⟩ ∈
        following (offset + c.utf8Size) (before ++ '\n' :: tail) := ih
    rw [Nat.add_assoc, ← byteCount_cons] at hlater
    rw [List.cons_append, following]
    split
    · exact List.mem_cons_of_mem _ hlater
    · exact hlater

theorem mem_table_of {before tail cs : List Char} (h : cs = before ++ tail)
    (hb : before = [] ∨ before.getLast? = some '\n') : ⟨byteCount before,tail⟩ ∈ table cs := by
  subst h
  rcases hb with rfl | hb
  · exact List.mem_cons_self
  · obtain ⟨front,rfl⟩ := List.getLast?_eq_some_iff.mp hb
    have hmem : ⟨0 + byteCount (front ++ ['\n']),tail⟩ ∈ following 0 (front ++ '\n' :: tail) :=
      mem_following_of front tail
    rw [Nat.zero_add] at hmem
    rw [List.append_assoc, List.singleton_append]
    exact List.mem_cons_of_mem _ hmem

theorem lt_start_of_mem_following {offset : Nat} {cs : List Char} {l : Line}
    (h : l ∈ following offset cs) : offset < l.start := by
  obtain ⟨before,_,hstart⟩ := mem_following h
  have hsize := Char.utf8Size_pos '\n'
  rw [hstart, byteCount_append, byteCount_cons]
  omega

theorem pairwise_following (offset : Nat) (cs : List Char) :
    (following offset cs).Pairwise (·.start < ·.start) := by
  induction cs generalizing offset with
  | nil => exact .nil
  | cons c cs ih =>
    unfold following
    split
    · exact .cons (fun l hl => lt_start_of_mem_following hl) (ih _)
    · exact ih _

theorem pairwise_table (cs : List Char) : (table cs).Pairwise (·.start < ·.start) :=
  .cons (fun _ hl => lt_start_of_mem_following hl) (pairwise_following 0 cs)

theorem exists_getElem?_countP {offset : Nat} {l : Line} {ls : List Line}
    (hsorted : (l :: ls).Pairwise (·.start < ·.start)) (h : l.start ≤ offset) :
    ∃ m, (l :: ls)[(l :: ls).countP (·.start ≤ offset) - 1]? = some m ∧ m.start ≤ offset ∧
      ∀ k ∈ l :: ls, k.start ≤ offset → k.start ≤ m.start := by
  induction ls generalizing l with
  | nil => exact ⟨l,by simp [h],h,by simp⟩
  | cons k ks ih =>
    obtain ⟨hl,hks⟩ := List.pairwise_cons.mp hsorted
    by_cases hk : k.start ≤ offset
    · obtain ⟨m,hm,hle,hmax⟩ := ih hks hk
      refine ⟨m,?_,hle,fun j hj hjle => ?_⟩
      · have hcount : 0 < (k :: ks).countP (·.start ≤ offset) :=
          List.countP_pos_iff.mpr ⟨k,by simp,by simpa using hk⟩
        rw [List.countP_cons_of_pos (by simpa using h), Nat.add_sub_cancel]
        rw [← hm]
        obtain ⟨n,hn⟩ := Nat.exists_eq_succ_of_ne_zero (Nat.pos_iff_ne_zero.mp hcount)
        rw [hn, List.getElem?_cons_succ]
        rfl
      · have hlk := hl k (by simp)
        have hkm := hmax k (by simp) hk
        rcases List.mem_cons.mp hj with rfl | hj
        · omega
        · exact hmax j hj hjle
    · -- no later line can start at the offset or before it
      have hnone : (k :: ks).countP (·.start ≤ offset) = 0 := by
        rw [List.countP_eq_zero]
        intro m hm
        have hkm : k.start ≤ m.start := by
          rcases List.mem_cons.mp hm with rfl | hm
          · exact Nat.le_refl _
          · exact Nat.le_of_lt ((List.pairwise_cons.mp hks).1 m hm)
        simp only [decide_eq_true_eq]
        omega
      refine ⟨l,?_,h,fun j hj hjle => ?_⟩
      · rw [List.countP_cons_of_pos (by simpa using h), hnone]
        rfl
      · rcases List.mem_cons.mp hj with rfl | hj
        · exact Nat.le_refl _
        · exact absurd hjle (by simpa using List.countP_eq_zero.mp hnone j hj)

end Line

namespace Document

theorem exists_line (d : Document) (offset : Nat) :
    ∃ l, d.lines[d.lineOf offset]? = some l ∧ l.start ≤ offset ∧
      ∀ k ∈ Line.table d.chars, k.start ≤ offset → k.start ≤ l.start := by
  unfold lineOf
  rw [d.lines_eq]
  exact Line.exists_getElem?_countP (Line.pairwise_table d.chars) (Nat.zero_le offset)

theorem lineStart_le (d : Document) (offset : Nat) : d.lineStart (d.lineOf offset) ≤ offset := by
  obtain ⟨l,hl,hle,_⟩ := d.exists_line offset
  simpa [lineStart, hl] using hle

/-- What is at the start of a line before an offset is before the line of the offset. -/
theorem le_lineStart {d : Document} {before tail : List Char} (h : d.chars = before ++ tail)
    (hb : before = [] ∨ before.getLast? = some '\n') {offset : Nat}
    (hle : byteCount before ≤ offset) : byteCount before ≤ d.lineStart (d.lineOf offset) := by
  obtain ⟨l,hl,_,hmax⟩ := d.exists_line offset
  have hstart := hmax _ (Line.mem_table_of h hb) hle
  simpa [lineStart, hl] using hstart

theorem lineOf_zero (d : Document) : d.lineOf 0 = 0 := by
  have hnone : (Line.following 0 d.chars).countP (·.start ≤ 0) = 0 := by
    rw [List.countP_eq_zero]
    intro l hl
    have hlt := Line.lt_start_of_mem_following hl
    simp only [decide_eq_true_eq]
    omega
  simp only [lineOf, d.lines_eq, Line.table]
  rw [List.countP_cons_of_pos (by simp), hnone]

@[simp] theorem positionAt_zero (d : Document) : d.positionAt 0 = ⟨0,0⟩ := by
  simp [positionAt, lineOf_zero]

theorem lineOf_mono (d : Document) {i j : Nat} (h : i ≤ j) : d.lineOf i ≤ d.lineOf j := by
  have hcount : d.lines.countP (·.start ≤ i) ≤ d.lines.countP (·.start ≤ j) := by
    refine List.countP_mono_left fun l _ hl => ?_
    simp only [decide_eq_true_eq] at hl ⊢
    omega
  unfold lineOf
  omega

theorem positionAt_lt (d : Document) {i j : Nat} (h : i < j) (hj : j ≤ d.size) :
    d.positionAt i < d.positionAt j := by
  have hline := d.lineOf_mono (Nat.le_of_lt h)
  have hstart := d.lineStart_le i
  have hi : i ≤ d.size := by omega
  simp only [Position.lt_def, positionAt, Nat.min_eq_left hi, Nat.min_eq_left hj]
  rcases Nat.lt_or_eq_of_le hline with hlt | heq
  · exact .inl hlt
  · refine .inr ⟨heq,?_⟩
    rw [← heq]
    omega

theorem positionAt_min (d : Document) (offset : Nat) :
    d.positionAt (min offset d.size) = d.positionAt offset := by
  simp only [positionAt, Nat.min_assoc, Nat.min_self]

theorem positionAt_le (d : Document) {i j : Nat} (h : i ≤ j) :
    d.positionAt i ≤ d.positionAt j := by
  rcases Nat.lt_or_eq_of_le (show min i d.size ≤ min j d.size by omega) with hlt | heq
  · have hpos := d.positionAt_lt hlt (Nat.min_le_right j d.size)
    rw [positionAt_min, positionAt_min] at hpos
    simp only [Position.lt_def, Position.le_def] at hpos ⊢
    omega
  · rw [← positionAt_min d i, heq, positionAt_min]
    simp [Position.le_def]

theorem positionAt_le_end (d : Document) (offset : Nat) :
    d.positionAt offset ≤ d.positionAt d.size := by
  rw [← positionAt_min]
  exact d.positionAt_le (Nat.min_le_right _ _)

theorem positionAt_inj (d : Document) {i j : Nat} (hi : i ≤ d.size) (hj : j ≤ d.size)
    (h : d.positionAt i = d.positionAt j) : i = j := by
  have hstarti := d.lineStart_le i
  have hstartj := d.lineStart_le j
  simp only [positionAt, Nat.min_eq_left hi, Nat.min_eq_left hj, Position.mk.injEq] at h
  obtain ⟨hline,hcol⟩ := h
  rw [hline] at hcol hstarti
  omega

theorem lineOf_start {d : Document} {line : Nat} {l : Line} (h : d.lines[line]? = some l) :
    d.lineOf l.start = line := by
  obtain ⟨m,hm,hle,hmax⟩ := d.exists_line l.start
  have hstart := hmax l (by rw [← d.lines_eq]; exact List.mem_of_getElem? h) (Nat.le_refl _)
  have hsorted := Line.pairwise_table d.chars
  rw [← d.lines_eq, List.pairwise_iff_getElem] at hsorted
  obtain ⟨hi,hl⟩ := List.getElem?_eq_some_iff.mp h
  obtain ⟨hj,hm⟩ := List.getElem?_eq_some_iff.mp hm
  have hbefore := hsorted (d.lineOf l.start) line hj hi
  have hbehind := hsorted line (d.lineOf l.start) hi hj
  rw [hl, hm] at hbefore hbehind
  omega

theorem positionAt_start {d : Document} {line : Nat} {l : Line} (h : d.lines[line]? = some l) :
    d.positionAt l.start = ⟨line,0⟩ := by
  have hmem : l ∈ Line.table d.chars := by
    rw [← d.lines_eq]
    exact List.mem_of_getElem? h
  obtain ⟨before,hchars,hstart,_⟩ := Line.mem_table hmem
  have hsize : l.start ≤ d.size := by
    rw [d.size_eq, hchars, byteCount_append, hstart]
    omega
  simp [positionAt, Nat.min_eq_left hsize, lineOf_start h, lineStart, h]

/-! ### Places inside of lines -/

section Split

variable {d : Document} {before rest : List Char}

theorem byteCount_le_size (h : d.chars = before ++ rest) : byteCount before ≤ d.size := by
  rw [d.size_eq, h, byteCount_append]
  omega

/-- The line of a place between two characters, and what the line has in front of the place. -/
theorem exists_front (h : d.chars = before ++ rest) :
    ∃ l front x, d.lines[d.lineOf (byteCount before)]? = some l ∧ before = front ++ x ∧
      l.start = byteCount front ∧ l.tail = x ++ rest ∧ '\n' ∉ x ∧
      d.positionAt (byteCount before) = ⟨d.lineOf (byteCount before),byteCount x⟩ := by
  obtain ⟨l,hl,hle,hmax⟩ := d.exists_line (byteCount before)
  have hmem : l ∈ Line.table d.chars := by
    rw [← d.lines_eq]
    exact List.mem_of_getElem? hl
  obtain ⟨front,hchars,hstart,_⟩ := Line.mem_table hmem
  obtain ⟨x,rfl⟩ : front <+: before := by
    rcases List.prefix_or_prefix_of_prefix ⟨_,hchars.symm⟩ ⟨_,h.symm⟩ with hp | hp
    · exact hp
    · obtain ⟨y,rfl⟩ := hp
      have hy := length_le_byteCount y
      rw [hstart, byteCount_append] at hle
      obtain rfl : y = [] := List.length_eq_zero_iff.mp (by omega)
      simp
  have htail : l.tail = x ++ rest := by
    rw [h, List.append_assoc] at hchars
    exact (List.append_cancel_left hchars).symm
  have hpos : d.positionAt (byteCount (front ++ x)) =
      ⟨d.lineOf (byteCount (front ++ x)),byteCount x⟩ := by
    have hline : d.lineStart (d.lineOf (byteCount (front ++ x))) = byteCount front := by
      simp only [lineStart, hl, hstart]
    simp only [positionAt, Nat.min_eq_left (byteCount_le_size h), hline]
    rw [byteCount_append, Nat.add_sub_cancel_left]
  refine ⟨l,front,x,hl,rfl,hstart,htail,fun hfeed => ?_,hpos⟩
  -- a line feed in between would start a line that is nearer
  obtain ⟨u,v,rfl⟩ := List.append_of_mem hfeed
  have hsplit : d.chars = (front ++ u ++ ['\n']) ++ (v ++ rest) := by simp [h]
  have hnear := hmax _ (Line.mem_table_of hsplit (.inr (by simp))) (by simp)
  have hsize := Char.utf8Size_pos '\n'
  simp only [byteCount_append, byteCount_cons, hstart] at hnear
  omega

theorem eq_of_positionAt {before' rest' : List Char} (h : d.chars = before ++ rest)
    (h' : d.chars = before' ++ rest')
    (heq : d.positionAt (byteCount before) = d.positionAt (byteCount before')) :
    before = before' := by
  have hbytes := d.positionAt_inj (byteCount_le_size h) (byteCount_le_size h') heq
  have htake := takeBytes?_byteCount before rest
  rw [← h, h', hbytes, takeBytes?_byteCount] at htake
  exact (Option.some.inj htake).symm

theorem mod_offsetCount {offset : Nat} (h : offset ≤ d.size) : offset % d.offsetCount = offset := by
  refine Nat.mod_eq_of_lt ?_
  unfold offsetCount
  omega

theorem offsetAt_positionAt (h : d.chars = before ++ rest) :
    d.offsetAt (d.positionAt (byteCount before)) = byteCount before := by
  obtain ⟨l,front,x,hl,rfl,hstart,htail,hfeed,hpos⟩ := exists_front h
  have hline : ∀ c ∈ x, decide (c ≠ '\n') = true := by
    intro c hc
    simpa using fun h : c = '\n' => hfeed (h ▸ hc)
  have hstop : l.start + byteCount x ≤ l.stop := by
    unfold Line.stop Line.content
    rw [htail, List.takeWhile_append_of_pos hline, byteCount_append]
    omega
  have hsize := byteCount_le_size h
  rw [byteCount_append, ← hstart] at hsize
  rw [hpos]
  simp only [offsetAt, hl, mod_offsetCount hsize, Nat.min_eq_left hstop]
  rw [byteCount_append, hstart]

variable {key : List Char}

theorem lineOf_append (h : d.chars = before ++ (key ++ rest)) (hkey : '\n' ∉ key) :
    d.lineOf (byteCount (before ++ key)) = d.lineOf (byteCount before) := by
  unfold lineOf
  congr 1
  refine List.countP_congr fun l hl => ?_
  simp only [decide_eq_true_eq]
  refine ⟨fun hle => ?_,fun hle => by rw [byteCount_append]; omega⟩
  rw [d.lines_eq] at hl
  obtain ⟨front,hchars,hstart,hfirst⟩ := Line.mem_table hl
  refine Classical.byContradiction fun hlt => hkey ?_
  -- the line starts inside of the text, so that the text has the line feed in front of it
  have hbefore : before <+: front := by
    rcases List.prefix_or_prefix_of_prefix ⟨_,h.symm⟩ ⟨_,hchars.symm⟩ with hp | hp
    · exact hp
    · obtain ⟨y,rfl⟩ := hp
      rw [hstart, byteCount_append] at hlt
      omega
  obtain ⟨y,rfl⟩ := hbefore
  have hkeys : y <+: key := by
    have hchars' := hchars
    rw [h, List.append_assoc] at hchars'
    have heq := List.append_cancel_left hchars'
    rcases List.prefix_or_prefix_of_prefix ⟨_,heq⟩ ⟨_,rfl⟩ with hp | hp
    · obtain ⟨z,rfl⟩ := hp
      have hz := length_le_byteCount z
      rw [hstart] at hle
      simp only [byteCount_append] at hle
      obtain rfl : z = [] := List.length_eq_zero_iff.mp (by omega)
      simp
    · exact hp
  cases hy : y.getLast? with
  | none =>
    rw [List.getLast?_eq_none_iff.mp hy, List.append_nil] at hstart
    omega
  | some c =>
    have hlast : (before ++ y).getLast? = some c := by simp [List.getLast?_append, hy]
    rcases hfirst with hnil | hfeed
    · rw [hnil] at hlast
      cases hlast
    · obtain rfl : '\n' = c := Option.some.inj (hfeed.symm.trans hlast)
      exact hkeys.subset (List.mem_of_getLast? hy)

theorem positionAt_append (h : d.chars = before ++ (key ++ rest)) (hkey : '\n' ∉ key) :
    d.positionAt (byteCount (before ++ key)) =
      (d.positionAt (byteCount before)).right (byteCount key) := by
  have hline := lineOf_append h hkey
  have hstart := byteCount_le_size h
  have hall : d.chars = (before ++ key) ++ rest := by simp [h]
  have hstop := byteCount_le_size hall
  have hle := d.lineStart_le (byteCount before)
  simp only [Position.right, positionAt, Nat.min_eq_left hstart, Nat.min_eq_left hstop, hline,
    Position.mk.injEq, true_and]
  rw [byteCount_append]
  omega

theorem isSingleLine_spanOf (h : d.chars = before ++ (key ++ rest)) (hkey : '\n' ∉ key) :
    (d.spanOf (byteCount before) (byteCount (before ++ key))).isSingleLine = true := by
  have hline := lineOf_append h hkey
  have hstart := byteCount_le_size h
  have hall : d.chars = (before ++ key) ++ rest := by simp [h]
  have hstop := byteCount_le_size hall
  simp only [Span.isSingleLine, spanOf, positionAt, Nat.min_eq_left hstart, Nat.min_eq_left hstop,
    hline, beq_self_eq_true]

theorem slice_spanOf (h : d.chars = before ++ (key ++ rest)) :
    d.slice (d.spanOf (byteCount before) (byteCount (before ++ key))) = String.ofList key := by
  have hstart := offsetAt_positionAt h
  have hall : d.chars = (before ++ key) ++ rest := by simp [h]
  have hstop := offsetAt_positionAt hall
  have hle : byteCount before ≤ byteCount (before ++ key) := by
    rw [byteCount_append]
    omega
  have hlength : byteCount (before ++ key) - byteCount before = byteCount key := by
    rw [byteCount_append]
    omega
  simp only [slice, spanOf, hstart, hstop, Nat.max_eq_left hle, charsBetween, h,
    takeBytes?_byteCount, dropBytes_byteCount, hlength, Option.getD_some]

end Split

end Document

end SmaliNavigator
