import SmaliNavigator.Proofs.Class.Names
import SmaliNavigator.Proofs.Spot.References

/-!
Matches anywhere in a line. A match is a piece of its line, and so it stands in the document where its
columns say. What is read there, and which text a label has, can be told from the pattern.
-/

set_option autoImplicit false

namespace SmaliNavigator

open Text

namespace Pattern

/-- A pattern that gives an end of the text that it is asked for. -/
def LeavesEnd (p : Pattern) : Prop := ∀ cs r, p cs = some r → r <:+ cs

theorem Takes.leavesEnd {p : Pattern} {kind : List Char → Prop} (hp : Takes p kind) :
    p.LeavesEnd := by
  intro cs r h
  obtain ⟨key,_,rfl⟩ := (hp cs r).mp h
  exact List.suffix_append key r

theorem LeavesEnd.of_mem_findFrom {p : Pattern} (hp : p.LeavesEnd) {skip col : Nat} {cs : List Char}
    {m : Match} (h : m ∈ p.findFrom skip col cs) :
    ∃ pre post, cs = pre ++ (m.chars ++ post) ∧ m.start = col + byteCount pre ∧
      p (m.chars ++ post) = some post := by
  induction cs generalizing skip col with
  | nil => simp [findFrom] at h
  | cons c cs ih =>
    have hlater {skip : Nat} (h : m ∈ p.findFrom skip (col + c.utf8Size) cs) :
        ∃ pre post, c :: cs = pre ++ (m.chars ++ post) ∧ m.start = col + byteCount pre ∧
          p (m.chars ++ post) = some post := by
      obtain ⟨pre,post,hcs,hstart,hpost⟩ := ih h
      exact ⟨c :: pre,post,by rw [hcs, List.cons_append],
        by rw [hstart, byteCount_cons, Nat.add_assoc],hpost⟩
    unfold findFrom at h
    dsimp only at h
    split at h
    · exact hlater h
    · split at h
      · exact hlater h
      · next rest hrest =>
        rcases List.mem_cons.mp h with rfl | h
        · obtain ⟨key,hkey⟩ := hp _ _ hrest
          have htaken : (c :: cs).take ((c :: cs).length - rest.length) = key := by
            rw [← hkey]
            simp
          refine ⟨[],rest,?_,rfl,?_⟩
          · dsimp only
            rw [htaken, hkey, List.nil_append]
          · dsimp only
            rw [htaken, hkey, hrest]
        · exact hlater h

theorem LeavesEnd.of_mem_findAll {p : Pattern} (hp : p.LeavesEnd) {cs : List Char} {m : Match}
    (h : m ∈ p.findAll cs) : ∃ pre post, cs = pre ++ (m.chars ++ post) ∧ m.start = byteCount pre ∧
      p (m.chars ++ post) = some post := by
  obtain ⟨pre,post,hcs,hstart,hpost⟩ := hp.of_mem_findFrom h
  exact ⟨pre,post,hcs,by simpa using hstart,hpost⟩

theorem Takes.isKind_of_mem_findAll {p : Pattern} {kind : List Char → Prop} (hp : Takes p kind)
    {cs : List Char} {m : Match} (h : m ∈ p.findAll cs) : kind m.chars := by
  obtain ⟨_,post,_,_,hpost⟩ := hp.leavesEnd.of_mem_findAll h
  obtain ⟨key,hkey,heq⟩ := (hp _ _).mp hpost
  rwa [List.append_cancel_right heq]

theorem label_eq_some_iff {cs r : List Char} : label cs = some r ↔
    ∃ bare, bare ≠ [] ∧ (∀ c ∈ bare, isLabelChar c = true) ∧ cs = ':' :: (bare ++ r) ∧
      Stops isLabelChar r := by
  unfold label
  rw [seq_eq_some_iff]
  constructor
  · rintro ⟨_,hcolon,hbare⟩
    obtain ⟨bare,hne,hall,rfl,hstops⟩ := some1_eq_some_iff.mp hbare
    exact ⟨bare,hne,hall,literal_eq_some_iff.mp hcolon,hstops⟩
  · rintro ⟨bare,hne,hall,rfl,hstops⟩
    exact ⟨_,literal_eq_some_iff.mpr rfl,some1_eq_some_iff.mpr ⟨bare,hne,hall,rfl,hstops⟩⟩

theorem leavesEnd_label : LeavesEnd label := by
  intro cs r h
  obtain ⟨bare,_,_,rfl,_⟩ := label_eq_some_iff.mp h
  exact ⟨':' :: bare,by simp⟩

end Pattern

/-! ### Matches do not overlap -/

namespace Pattern

variable {p : Pattern}

theorem le_start_of_mem_findFrom {skip col : Nat} {cs : List Char} {m : Match}
    (h : m ∈ p.findFrom skip col cs) : col + byteCount (cs.take skip) ≤ m.start := by
  induction cs generalizing skip col with
  | nil => simp [findFrom] at h
  | cons c cs ih =>
    unfold findFrom at h
    cases skip with
    | succ n =>
      have hstart := ih h
      rw [List.take_succ_cons, byteCount_cons]
      omega
    | zero =>
      rw [List.take_zero, byteCount_nil, Nat.add_zero]
      dsimp only at h
      split at h
      · exact Nat.le_trans (by omega) (ih h)
      · rcases List.mem_cons.mp h with rfl | h
        · exact Nat.le_refl _
        · exact Nat.le_trans (by omega) (ih h)

theorem byteCount_take_le (c : Char) (cs : List Char) (n : Nat) :
    byteCount ((c :: cs).take n) ≤
      c.utf8Size + byteCount (cs.take (((c :: cs).take n).length - 1)) := by
  cases n with
  | zero => simp
  | succ n =>
    have htake : cs.take (cs.take n).length = cs.take n := by
      rw [List.length_take, ← List.take_take, List.take_length]
    refine Nat.le_of_eq ?_
    rw [List.take_succ_cons, byteCount_cons, List.length_cons, Nat.add_sub_cancel, htake]

theorem pairwise_findFrom (p : Pattern) (skip col : Nat) (cs : List Char) :
    (p.findFrom skip col cs).Pairwise (·.stop ≤ ·.start) := by
  induction cs generalizing skip col with
  | nil => exact .nil
  | cons c cs ih =>
    unfold findFrom
    cases skip with
    | succ n => exact ih n _
    | zero =>
      dsimp only
      split
      · exact ih 0 _
      · next rest _ =>
        refine .cons (fun m hm => ?_) (ih _ _)
        have hstart := le_start_of_mem_findFrom hm
        dsimp only
        have htaken := byteCount_take_le c cs ((c :: cs).length - rest.length)
        omega

end Pattern

theorem Match.find?_covers {ms : List Match} (h : ms.Pairwise (·.stop ≤ ·.start)) {m : Match}
    (hm : m ∈ ms) {col : Nat} (hcol : m.covers col = true) : ms.find? (·.covers col) = some m := by
  induction ms with
  | nil => cases hm
  | cons k ms ih =>
    obtain ⟨hk,hms⟩ := List.pairwise_cons.mp h
    rcases List.mem_cons.mp hm with rfl | hm
    · simp only [List.find?_cons, hcol]
    · have hnone : k.covers col = false := by
        have hle := hk m hm
        simp only [covers, Bool.and_eq_true, decide_eq_true_eq, Bool.and_eq_false_iff,
          decide_eq_false_iff_not] at hcol ⊢
        omega
      simp only [List.find?_cons, hnone, ih hms hm]

/-! ### Labels -/

/-- Whether a text is a colon and a name behind it. -/
def IsLabel (text : List Char) : Prop :=
  ∃ bare, bare ≠ [] ∧ (∀ c ∈ bare, Pattern.isLabelChar c = true) ∧ text = ':' :: bare

theorem IsLabel.exists_bare {text : List Char} (h : IsLabel text) :
    ∃ bare, ':' ∉ bare ∧ text = ':' :: bare := by
  obtain ⟨bare,_,hall,rfl⟩ := h
  refine ⟨bare,fun hmem => ?_,rfl⟩
  exact absurd (hall ':' hmem) (by decide)

theorem isLabel_of_mem_labelsOn {line : List Char} {m : Match} (h : m ∈ Document.labelsOn line) :
    IsLabel m.chars := by
  obtain ⟨_,post,_,_,hpost⟩ := Pattern.leavesEnd_label.of_mem_findAll (List.mem_filter.mp h).1
  obtain ⟨bare,hne,hall,heq,_⟩ := Pattern.label_eq_some_iff.mp hpost
  rw [← List.cons_append] at heq
  exact ⟨bare,hne,hall,List.append_cancel_right heq⟩

namespace Document

variable {d : Document} {line : Nat}

/-- A piece of a line stands in the document, and there is the cursor that is asked for at its
column. -/
theorem exists_of_lineText {pre text post : List Char} (h : d.lineText line = pre ++ (text ++ post))
    (hne : text ≠ []) : ∃ before rest, d.chars = before ++ (text ++ rest) ∧ '\n' ∉ text ∧
      Span.within line (byteCount pre) (byteCount (pre ++ text)) =
        d.spanOf (byteCount before) (byteCount (before ++ text)) ∧
      (Cursor.atPosition d ⟨line,byteCount pre⟩).At d before ∧
      (Cursor.atPosition d ⟨line,byteCount pre⟩).rest = text ++ rest := by
  unfold lineText at h
  cases hl : d.lines[line]? with
  | none =>
    rw [hl] at h
    exact absurd (List.append_eq_nil_iff.mp (List.append_eq_nil_iff.mp h.symm).2).1 hne
  | some l =>
    simp only [hl] at h
    obtain ⟨returns,more,hcontent,htail,hfeed⟩ := l.exists_tail
    rw [h] at hcontent
    have hpre : '\n' ∉ pre := fun hmem => hfeed (by rw [hcontent]; simp [hmem])
    have htext : '\n' ∉ text := fun hmem => hfeed (by rw [hcontent]; simp [hmem])
    have hsplit : l.tail = pre ++ (text ++ (post ++ (returns ++ more))) := by simp [htail, hcontent]
    obtain ⟨before,hchars,_,_,hat,hrest⟩ := Cursor.at_atPosition hl hsplit hpre
    have hplace := hat.chars
    rw [hrest] at hplace
    have hstart := Cursor.position_atPosition hl hsplit hpre
    refine ⟨before ++ pre,_,hplace,htext,?_,hat,hrest⟩
    have hspan := hat.spanTo_advance text.length
    rw [Cursor.take_length_rest hrest] at hspan
    rw [← hspan, Cursor.spanTo, hat.position_advance hrest htext, hstart, byteCount_append]
    rfl

theorem exists_of_mem_findAll {p : Pattern} (hp : p.LeavesEnd) {m : Match}
    (h : m ∈ p.findAll (d.lineText line)) (hne : m.chars ≠ []) :
    ∃ before rest, d.chars = before ++ (m.chars ++ rest) ∧ '\n' ∉ m.chars ∧
      m.span line = d.spanOf (byteCount before) (byteCount (before ++ m.chars)) ∧
      (Cursor.atPosition d ⟨line,m.start⟩).At d before ∧
      (Cursor.atPosition d ⟨line,m.start⟩).rest = m.chars ++ rest := by
  obtain ⟨pre,post,hline,hstart,_⟩ := hp.of_mem_findAll h
  have hstop := Pattern.stop_of_mem_findFrom h
  rw [hstart, ← byteCount_append] at hstop
  rw [Match.span, hstart, hstop]
  exact exists_of_lineText hline hne

theorem exists_of_labelAt? {p : Position} {u : LabelUse} (h : d.labelAt? p = some u) :
    IsLabel u.name.text.toList ∧ ∀ s ∈ u.occurrences, ∃ before rest,
      d.chars = before ++ (u.name.text.toList ++ rest) ∧
      s = d.spanOf (byteCount before) (byteCount (before ++ u.name.text.toList)) := by
  obtain ⟨m,hm,h⟩ := Option.bind_eq_some_iff.mp h
  obtain ⟨⟨first,last⟩,_,h⟩ := Option.bind_eq_some_iff.mp h
  obtain rfl := Option.some.inj h
  have htext : m.text.toList = m.chars := String.toList_ofList
  rw [htext]
  refine ⟨isLabel_of_mem_labelsOn (List.mem_of_find?_eq_some hm),fun s hs => ?_⟩
  obtain ⟨⟨s',opens⟩,hs',rfl⟩ := List.mem_map.mp hs
  obtain ⟨line,_,hline⟩ := List.mem_flatMap.mp hs'
  obtain ⟨use,huse,heq⟩ := List.mem_map.mp hline
  obtain ⟨rfl,_⟩ := Prod.mk.inj heq
  obtain ⟨hlabel,hchars⟩ := List.mem_filter.mp huse
  have hchars := eq_of_beq hchars
  have hne : use.chars ≠ [] := by
    obtain ⟨_,_,hbare⟩ := (isLabel_of_mem_labelsOn hlabel).exists_bare
    simp [hbare]
  obtain ⟨before,rest,hplace,_,hspan,_⟩ :=
    exists_of_mem_findAll Pattern.leavesEnd_label (List.mem_filter.mp hlabel).1 hne
  rw [hchars] at hplace hspan
  exact ⟨before,rest,hplace,hspan⟩

end Document

end SmaliNavigator
