import SmaliNavigator.Proofs.Class.Bodies
import SmaliNavigator.Proofs.Spot.Matches

/-!
Labels and the methods around them. The question for a label looks for its method line by line, upwards
to a line that opens one and downwards to a line that is an end marker and nothing else. The reader of a
file finds the same method where its body is written plainly; elsewhere the two may differ.

Main statement: `Class.labels_isConfined_iff`, when exactly the uses of a label are those of the body
that it is asked in.
-/

set_option autoImplicit false

namespace SmaliNavigator

open Text

namespace Document

variable {d : Document}

theorem pairwise_labelsOn (line : List Char) : (labelsOn line).Pairwise (·.stop ≤ ·.start) :=
  (Pattern.pairwise_findFrom _ _ _ _).filter _

theorem covers_start_of_mem_labelsOn {line : List Char} {m : Match} (h : m ∈ labelsOn line) :
    m.covers m.start = true := by
  have hstop := Pattern.stop_of_mem_findFrom (List.mem_filter.mp h).1
  obtain ⟨bare,-,hchars⟩ := (isLabel_of_mem_labelsOn h).exists_bare
  have hcolon := Char.utf8Size_pos ':'
  rw [hchars, byteCount_cons] at hstop
  simp only [Match.covers, Bool.and_eq_true, decide_eq_true_eq]
  omega

/-! ### The method around a line -/

/-- An end that stands alone on its line, with white space of any script around it. -/
theorem exists_of_endsMethod {line : Nat} (h : d.endsMethod line = true) :
    ∃ xs ys, d.lineText line = xs ++ (".end method".toList ++ ys) ∧
      (∀ x ∈ xs, isBlank x = true) ∧ ∀ y ∈ ys, isBlank y = true := by
  obtain ⟨xs,ys,htext,hx,hy⟩ := exists_of_trim (d.lineText line)
  rw [eq_of_beq h] at htext
  exact ⟨xs,ys,htext,hx,hy⟩

theorem endsMethod_eq_false_of_opensWith {line : Nat} (h : d.opensWith line ".method" = true) :
    d.endsMethod line = false := by
  rw [Bool.eq_false_iff]
  intro hends
  obtain ⟨xs,ys,htext,hx,-⟩ := exists_of_endsMethod hends
  have hend : ".end".toList.all (fun x => !isBlank x) = true := by decide
  have hword : firstWord (xs ++ (".end".toList ++ (" method".toList ++ ys))) = ".end".toList :=
    firstWord_append hx (fun x hx => by simpa using List.all_eq_true.mp hend x hx) (by decide)
      (stops_cons.mpr (by decide))
  rw [opensWith, htext] at h
  exact absurd (hword.symm.trans (eq_of_beq h)) (by decide)

/-- The method around a line, as it is looked for: from the nearest line above that opens one to the
next end. -/
structure Around (d : Document) (line first last : Nat) : Prop where
  first_le : first ≤ line
  le_last : line ≤ last
  opens : d.opensWith first ".method" = true
  nearest : ∀ k, first < k → k ≤ line → d.opensWith k ".method" = false
  above : ∀ k, first < k → k < line → d.endsMethod k = false
  ends : d.endsMethod last = true
  below : ∀ k, line ≤ k → k < last → d.endsMethod k = false

/-- The nearest line that opens a method, at a line or above it, where no method ends in between. The
line that was asked for may be an end. -/
structure OpensAbove (d : Document) (line n first : Nat) : Prop where
  le : first ≤ n
  opens : d.opensWith first ".method" = true
  nearest : ∀ k, first < k → k ≤ n → d.opensWith k ".method" = false
  unended : ∀ k, first < k → k ≤ n → k ≠ line → d.endsMethod k = false

theorem opensAbove_self {line n first : Nat} (h : d.opensWith n ".method" = true) :
    d.OpensAbove line n first ↔ n = first := by
  constructor
  · intro habove
    refine Classical.byContradiction fun hne => ?_
    have hle := habove.le
    have hnone := habove.nearest n (by omega) (Nat.le_refl _)
    rw [h] at hnone
    cases hnone
  · rintro rfl
    exact ⟨Nat.le_refl _,h,fun k hk hkn => absurd hk (Nat.not_lt_of_le hkn),
      fun k hk hkn => absurd hk (Nat.not_lt_of_le hkn)⟩

theorem OpensAbove.lt {line n first : Nat} (h : d.OpensAbove line n first)
    (hopens : d.opensWith n ".method" = false) : first < n := by
  refine Nat.lt_of_le_of_ne h.le ?_
  rintro rfl
  rw [h.opens] at hopens
  cases hopens

theorem opensAbove_succ {line n first : Nat} (h : d.opensWith (n + 1) ".method" = false) :
    d.OpensAbove line (n + 1) first ↔
      (n + 1 ≠ line → d.endsMethod (n + 1) = false) ∧ d.OpensAbove line n first := by
  constructor
  · intro habove
    have hlt := habove.lt h
    exact ⟨habove.unended (n + 1) hlt (Nat.le_refl _),by omega,habove.opens,
      fun k hk hkn => habove.nearest k hk (by omega),fun k hk hkn => habove.unended k hk (by omega)⟩
  · rintro ⟨hend,habove⟩
    refine ⟨Nat.le_succ_of_le habove.le,habove.opens,fun k hk hkn => ?_,fun k hk hkn => ?_⟩
    · rcases Nat.eq_or_lt_of_le hkn with rfl | hlt
      · exact h
      · exact habove.nearest k hk (Nat.le_of_lt_succ hlt)
    · rcases Nat.eq_or_lt_of_le hkn with rfl | hlt
      · exact hend
      · exact habove.unended k hk (Nat.le_of_lt_succ hlt)

theorem methodStart?_eq_some_iff {line n first : Nat} :
    d.methodStart? line n = some first ↔ d.OpensAbove line n first := by
  induction n with
  | zero =>
    cases hopens : d.opensWith 0 ".method" with
    | true => simp [methodStart?, hopens, opensAbove_self hopens]
    | false =>
      have hnone : ¬d.OpensAbove line 0 first := fun h => absurd (h.lt hopens) (Nat.not_lt_zero _)
      simp [methodStart?, hopens, hnone]
  | succ n ih =>
    cases hopens : d.opensWith (n + 1) ".method" with
    | true => simp [methodStart?, hopens, opensAbove_self hopens]
    | false =>
      rw [opensAbove_succ hopens, ← ih, methodStart?, if_neg (by simp [hopens])]
      split
      · next hend =>
        simp only [Bool.and_eq_true, decide_eq_true_eq] at hend
        simp [hend.1, hend.2]
      · next hend =>
        have hline : n + 1 ≠ line → d.endsMethod (n + 1) = false := by
          simpa using hend
        rw [and_iff_right hline]

theorem lt_lineCount_of_endsMethod {line : Nat} (h : d.endsMethod line = true) :
    line < d.lineCount := by
  refine Classical.byContradiction fun hlt => ?_
  have hl : d.lines[line]? = none := List.getElem?_eq_none_iff.mpr (Nat.le_of_not_lt hlt)
  simp only [endsMethod, lineText, hl] at h
  revert h
  decide

theorem find?_endsMethod_eq_some_iff {line last : Nat} :
    (List.range' line (d.lineCount - line)).find? d.endsMethod = some last ↔
      line ≤ last ∧ d.endsMethod last = true ∧
        ∀ k, line ≤ k → k < last → d.endsMethod k = false := by
  simp only [List.find?_range'_eq_some, Bool.not_eq_true', List.mem_range'_1]
  constructor
  · rintro ⟨hends,⟨hle,-⟩,hnone⟩
    exact ⟨hle,hends,hnone⟩
  · rintro ⟨hle,hends,hnone⟩
    have hlt := lt_lineCount_of_endsMethod hends
    exact ⟨hends,⟨hle,by omega⟩,hnone⟩

theorem methodAround?_eq_some_iff {line first last : Nat} :
    d.methodAround? line = some (first,last) ↔ d.Around line first last := by
  simp only [methodAround?, Option.bind_eq_bind, Option.bind_eq_some_iff, Option.pure_def,
    Option.some.injEq, Prod.mk.injEq, methodStart?_eq_some_iff, find?_endsMethod_eq_some_iff]
  constructor
  · rintro ⟨_,⟨hle,hopens,hnearest,hunended⟩,_,⟨hlast,hends,hbelow⟩,rfl,rfl⟩
    exact ⟨hle,hlast,hopens,hnearest,
      fun k hk hkn => hunended k hk (Nat.le_of_lt hkn) (Nat.ne_of_lt hkn),hends,hbelow⟩
  · rintro ⟨hfirst,hlast,hopens,hnearest,habove,hends,hbelow⟩
    exact ⟨first,⟨hfirst,hopens,hnearest,
      fun k hk hkn hne => habove k hk (Nat.lt_of_le_of_ne hkn hne)⟩,last,
      ⟨hlast,hends,hbelow⟩,rfl,rfl⟩

namespace Around

variable {line first last : Nat}

/-- Further up in the method the same lines are found, and further down until a line opens a method. -/
theorem of_line (h : d.Around line first last) {line' : Nat} (hfirst : first ≤ line')
    (hlast : line' ≤ last)
    (hnearest : ∀ k, line < k → k ≤ line' → d.opensWith k ".method" = false) :
    d.Around line' first last where
  first_le := hfirst
  le_last := hlast
  opens := h.opens
  nearest k hk hkn := by
    rcases Nat.lt_or_ge line k with hlt | hle
    · exact hnearest k hlt hkn
    · exact h.nearest k hk hle
  above k hk hkn := by
    rcases Nat.lt_or_ge k line with hlt | hle
    · exact h.above k hk hlt
    · exact h.below k hle (by omega)
  ends := h.ends
  below k hk hkn := by
    rcases Nat.lt_or_ge k line with hlt | hle
    · rcases Nat.eq_or_lt_of_le (Nat.le_trans hfirst hk) with rfl | hfirst
      · exact endsMethod_eq_false_of_opensWith h.opens
      · exact h.above k hfirst hlt
    · exact h.below k hle hkn

end Around

/-! ### Uses of labels -/

/-- The uses of a label on the lines of a method, each with whether it is the line of the label. -/
def labelUses (d : Document) (name : List Char) (first last : Nat) : List (Span × Bool) :=
  (List.range' first (last + 1 - first)).flatMap fun line =>
    ((labelsOn (d.lineText line)).filter (·.chars == name)).map fun use =>
      (use.span line,isLabelLine (d.lineText line) use)

theorem mem_map_labelUses {name : List Char} {first last : Nat} {s : Span} :
    s ∈ (d.labelUses name first last).map (·.1) ↔ ∃ line, first ≤ line ∧ line ≤ last ∧
      ∃ use ∈ labelsOn (d.lineText line), use.chars = name ∧ s = use.span line := by
  constructor
  · intro h
    obtain ⟨x,hx,rfl⟩ := List.mem_map.mp h
    obtain ⟨line,hline,hx⟩ := List.mem_flatMap.mp hx
    obtain ⟨use,huse,rfl⟩ := List.mem_map.mp hx
    obtain ⟨hlabel,hname⟩ := List.mem_filter.mp huse
    have hrange := List.mem_range'_1.mp hline
    exact ⟨line,hrange.1,by omega,use,hlabel,eq_of_beq hname,rfl⟩
  · rintro ⟨line,hfirst,hlast,use,hlabel,hname,rfl⟩
    refine List.mem_map.mpr ⟨(use.span line,isLabelLine (d.lineText line) use),?_,rfl⟩
    refine List.mem_flatMap.mpr ⟨line,List.mem_range'_1.mpr (by omega),?_⟩
    exact List.mem_map.mpr ⟨use,List.mem_filter.mpr ⟨hlabel,by simp [hname]⟩,rfl⟩

theorem labelAt?_eq_some_iff {p : Position} {u : LabelUse} : d.labelAt? p = some u ↔
    ∃ m first last, (labelsOn (d.lineText p.line)).find? (·.covers p.col) = some m ∧
      d.Around p.line first last ∧
      u = ⟨⟨m.text,m.span p.line⟩,((d.labelUses m.chars first last).find? (·.2)).map (·.1),
        (d.labelUses m.chars first last).map (·.1)⟩ := by
  simp only [← methodAround?_eq_some_iff]
  constructor
  · intro h
    obtain ⟨m,hm,h⟩ := Option.bind_eq_some_iff.mp h
    obtain ⟨⟨first,last⟩,haround,h⟩ := Option.bind_eq_some_iff.mp h
    exact ⟨m,first,last,hm,haround,(Option.some.inj h).symm⟩
  · rintro ⟨m,first,last,hm,haround,rfl⟩
    simp only [labelAt?, hm, haround]
    rfl

/-- A label on the lines of a span, outside of string literals. -/
def UsesLabel (d : Document) (b : Span) (name : String) (s : Span) : Prop :=
  ∃ line, b.start.line ≤ line ∧ line ≤ b.stop.line ∧ ∃ use ∈ labelsOn (d.lineText line),
    use.text = name ∧ d.stringAt? ⟨line,use.start⟩ = none ∧ s = use.span line

end Document

/-- The uses of a label are those of a body that are not in a string literal, and the answer is the same
at each of them. -/
structure LabelUse.IsConfined (d : Document) (b : Span) (u : LabelUse) : Prop where
  exact : ∀ s, s ∈ u.occurrences ↔ d.UsesLabel b u.name.text s
  stable : ∀ s ∈ u.occurrences, ∃ u', d.labelAt? s.start = some u' ∧
    u'.definition? = u.definition? ∧ u'.occurrences = u.occurrences

/-- The question at a position finds the label where the body has it: nowhere else, everywhere in the
body, and no line in between opens another method. -/
structure LabelUse.InScope (d : Document) (b : Span) (p : Position) (u : LabelUse) : Prop where
  inside : ∀ s ∈ u.occurrences, b.start.line ≤ s.start.line ∧ s.start.line ≤ b.stop.line
  all : ∀ s, d.UsesLabel b u.name.text s → s ∈ u.occurrences
  unbroken : ∀ s ∈ u.occurrences, ∀ line, p.line < line → line ≤ s.start.line →
    d.opensWith line ".method" = false

/-- A body that is written as usual: the keyword opens its line and no other line of the body, the
signature is on that line, the lines are indented with blanks and tabs, and the end marker stands
alone. -/
structure Method.IsPlain (d : Document) (m : Method) (b : Span) : Prop where
  opens : d.opensWith b.start.line ".method" = true
  single : ∀ line, b.start.line < line → line ≤ b.stop.line → d.opensWith line ".method" = false
  signature : m.returnType.span.stop.line = b.start.line
  indented : ∀ line, b.start.line < line → line < b.stop.line →
    ∀ x ∈ (d.lineText line).takeWhile isBlank, isSpace x = true
  alone : ∀ x ∈ dropBytes b.stop.col (d.lineText b.stop.line), isBlank x = true

variable {d : Document}

namespace Method.HasBody

variable {m : Method} {b : Span}

theorem endsMethod_stop (h : m.HasBody d b) (hplain : m.IsPlain d b) :
    d.endsMethod b.stop.line = true := by
  obtain ⟨space,behind,hmarked,hcol⟩ := h.marked
  have hbehind := hplain.alone
  rw [hmarked.text, hcol, dropBytes_byteCount] at hbehind
  have htrim : trim (space ++ (".end method".toList ++ behind)) = ".end method".toList :=
    trim_append (fun x hx => isBlank_of_isSpace (hmarked.isSpace x hx)) hbehind (by decide)
      (stops_cons.mpr (by decide)) (by decide)
  rw [Document.endsMethod, hmarked.text, List.append_assoc, htrim]
  exact beq_self_eq_true _

theorem endsMethod_inside (h : m.HasBody d b) (hplain : m.IsPlain d b) {line : Nat}
    (hstart : b.start.line < line) (hstop : line < b.stop.line) : d.endsMethod line = false := by
  rw [Bool.eq_false_iff]
  intro hends
  obtain ⟨xs,ys,htext,hx,-⟩ := Document.exists_of_endsMethod hends
  have hindent : (d.lineText line).takeWhile isBlank = xs := by
    rw [htext]
    exact takeWhile_append_stops hx (stops_cons.mpr (by decide))
  have hspace := hplain.indented line hstart hstop
  rw [hindent] at hspace
  rw [← List.append_assoc] at htext
  exact h.first line (hplain.signature ▸ hstart) hstop ⟨xs,ys,htext,hspace⟩

theorem around (h : m.HasBody d b) (hplain : m.IsPlain d b) {line : Nat}
    (hstart : b.start.line ≤ line) (hstop : line ≤ b.stop.line) :
    d.Around line b.start.line b.stop.line where
  first_le := hstart
  le_last := hstop
  opens := hplain.opens
  nearest k hk hkn := hplain.single k hk (by omega)
  above k hk hkn := h.endsMethod_inside hplain hk (by omega)
  ends := h.endsMethod_stop hplain
  below k hk hkn := by
    rcases Nat.eq_or_lt_of_le (Nat.le_trans hstart hk) with rfl | hlt
    · exact Document.endsMethod_eq_false_of_opensWith hplain.opens
    · exact h.endsMethod_inside hplain hlt hkn

end Method.HasBody

namespace LabelUse

variable {b : Span} {p : Position} {u : LabelUse}

/-- What a place lists: the label on the lines of the method around it, also where it is in a string. -/
theorem exists_around (h : d.labelAt? p = some u) : ∃ first last, d.Around p.line first last ∧
    (∀ s, s ∈ u.occurrences ↔ ∃ line, first ≤ line ∧ line ≤ last ∧
      ∃ use ∈ Document.labelsOn (d.lineText line), use.text = u.name.text ∧ s = use.span line) ∧
    ∃ s ∈ u.occurrences, s.start.line = p.line := by
  obtain ⟨m,first,last,hm,haround,rfl⟩ := Document.labelAt?_eq_some_iff.mp h
  have hname (use : Match) : use.chars = m.chars ↔ use.text = m.text :=
    ⟨congrArg String.ofList,fun heq => by simpa [Match.text] using congrArg String.toList heq⟩
  refine ⟨first,last,haround,fun s => ?_,m.span p.line,?_,rfl⟩
  · simp only [Document.mem_map_labelUses, hname]
  · exact Document.mem_map_labelUses.mpr ⟨p.line,haround.first_le,haround.le_last,m,
      List.mem_of_find?_eq_some hm,rfl,rfl⟩

theorem exists_same (h : d.labelAt? p = some u) {s : Span} (hs : s ∈ u.occurrences)
    (hnearest : ∀ line, p.line < line → line ≤ s.start.line → d.opensWith line ".method" = false) :
    ∃ u', d.labelAt? s.start = some u' ∧ u'.definition? = u.definition? ∧
      u'.occurrences = u.occurrences := by
  obtain ⟨m,first,last,hm,haround,rfl⟩ := Document.labelAt?_eq_some_iff.mp h
  obtain ⟨line,hfirst,hlast,use,huse,hchars,rfl⟩ := Document.mem_map_labelUses.mp hs
  have hfind := Match.find?_covers (Document.pairwise_labelsOn (d.lineText line)) huse
    (Document.covers_start_of_mem_labelsOn huse)
  refine ⟨_,Document.labelAt?_eq_some_iff.mpr
    ⟨use,first,last,hfind,haround.of_line hfirst hlast hnearest,rfl⟩,?_,?_⟩
  · rw [hchars]
  · rw [hchars]

/-- A label is confined exactly if none of the uses that are listed is in a string and they are looked
for where the body is. -/
theorem isConfined_iff (h : d.labelAt? p = some u) : u.IsConfined d b ↔
    u.InScope d b p ∧ ∀ s ∈ u.occurrences, d.stringAt? s.start = none := by
  obtain ⟨first,last,haround,hmem,own,hown,hline⟩ := exists_around h
  constructor
  · rintro ⟨hexact,hstable⟩
    refine ⟨⟨fun s hs => ?_,fun s hs => (hexact s).mpr hs,fun s hs line hlt hle => ?_⟩,fun s hs => ?_⟩
    · obtain ⟨line,hstart,hstop,use,-,-,-,rfl⟩ := (hexact s).mp hs
      exact ⟨hstart,hstop⟩
    · -- a method that opens in between does not have the place that was asked for
      obtain ⟨u',hu',-,hsame⟩ := hstable s hs
      obtain ⟨first',last',haround',hmem',-⟩ := exists_around hu'
      rw [Bool.eq_false_iff]
      intro hopens
      have hfirst : line ≤ first' := by
        refine Classical.byContradiction fun hlt => ?_
        have hnone := haround'.nearest line (by omega) hle
        rw [hopens] at hnone
        cases hnone
      rw [← hsame] at hown
      obtain ⟨k,hk,-,use,-,-,rfl⟩ := (hmem' own).mp hown
      have hkline : k = p.line := hline
      omega
    · obtain ⟨line,-,-,use,-,-,hnone,rfl⟩ := (hexact s).mp hs
      exact hnone
  · rintro ⟨⟨hinside,hall,hunbroken⟩,hcode⟩
    refine ⟨fun s => ⟨fun hs => ?_,hall s⟩,fun s hs => exists_same h hs (hunbroken s hs)⟩
    obtain ⟨line,-,-,use,huse,hname,rfl⟩ := (hmem s).mp hs
    obtain ⟨hstart,hstop⟩ := hinside _ hs
    exact ⟨line,hstart,hstop,use,huse,hname,hcode _ hs,rfl⟩

theorem inScope_of_isPlain {m : Method} (h : d.labelAt? p = some u) (hbody : m.HasBody d b)
    (hplain : m.IsPlain d b) (hp : b.contains p = true) : u.InScope d b p := by
  have hlines : b.start.line ≤ p.line ∧ p.line ≤ b.stop.line := by
    simp only [Span.contains, Bool.and_eq_true, decide_eq_true_eq, Position.le_def] at hp
    omega
  obtain ⟨first,last,haround,hmem,-⟩ := exists_around h
  obtain ⟨rfl,rfl⟩ : first = b.start.line ∧ last = b.stop.line := by
    have hbounds := Document.methodAround?_eq_some_iff.mpr (hbody.around hplain hlines.1 hlines.2)
    rw [Document.methodAround?_eq_some_iff.mpr haround] at hbounds
    simpa using hbounds
  refine ⟨fun s hs => ?_,fun s hs => ?_,fun s hs line hlt hle => ?_⟩
  · obtain ⟨line,hstart,hstop,use,-,-,rfl⟩ := (hmem s).mp hs
    exact ⟨hstart,hstop⟩
  · obtain ⟨line,hstart,hstop,use,huse,hname,-,rfl⟩ := hs
    exact (hmem _).mpr ⟨line,hstart,hstop,use,huse,hname,rfl⟩
  · obtain ⟨k,hstart,hstop,use,-,-,rfl⟩ := (hmem s).mp hs
    have hk : line ≤ k := hle
    exact hplain.single line (by omega) (by omega)

end LabelUse

namespace Class

/-- Asked in the body of a method, a label has exactly the uses in that body if and only if they are
looked for where the body is and none of them is in a string literal. The former is so in every body
that is written plainly. -/
theorem labels_isConfined_iff {text : String} {c : Class} (h : ofString text = .ok c) {m : Method}
    (hm : m ∈ c.allMethods) {b : Span} (hb : m.body? = some b) {p : Position}
    (hp : b.contains p = true) {u : LabelUse} (hu : c.document.labelAt? p = some u) :
    (u.IsConfined c.document b ↔ u.InScope c.document b p ∧
      ∀ s ∈ u.occurrences, c.document.stringAt? s.start = none) ∧
    (m.IsPlain c.document b → u.InScope c.document b p) := by
  refine ⟨LabelUse.isConfined_iff hu,fun hplain => ?_⟩
  have hd : c.document = .ofString text := document_of_ofDocument h
  obtain ⟨b',hb',hbody⟩ := hasBody_of_mem_allMethods h hm
  obtain rfl : b' = b := Option.some.inj (hb'.symm.trans hb)
  rw [hd] at hu hplain ⊢
  exact LabelUse.inScope_of_isPlain hu hbody hplain hp

/-- A label in a method that has a string without labels. -/
theorem labels_isConfined_goto :
    let d := Document.ofString
      ".class LA;\n.super Lb;\n.method a()V\n  goto :x\n  const-string v0, \"y\"\n  :x\n.end method\n"
    ∃ u, d.labelAt? ⟨3,7⟩ = some u ∧ u.IsConfined d ⟨⟨2,0⟩,⟨6,11⟩⟩ ∧
      u.definition? = some (.within 5 2 4) ∧
      u.occurrences = [.within 3 7 9,.within 5 2 4] := by
  intro d
  let b : Span := ⟨⟨2,0⟩,⟨6,11⟩⟩
  have hmethod : (ofDocument d).toOption.any (fun c => c.allMethods.any fun m =>
      decide (m.body? = some b) && m.returnType.span.stop.line == 2) = true := by decide +kernel
  have hlabel : d.labelAt? ⟨3,7⟩ = some ⟨⟨":x",.within 3 7 9⟩,some (.within 5 2 4),
      [.within 3 7 9,.within 5 2 4]⟩ := by decide +kernel
  have hlines : ∀ line : Fin 7, 2 < line.val → d.opensWith line ".method" = false ∧
      ((d.lineText line).takeWhile isBlank).all isSpace = true := by decide +kernel
  cases hc : ofDocument d with
  | error e => simp [hc, Except.toOption] at hmethod
  | ok c =>
    rw [hc] at hmethod
    obtain ⟨m,hm,hmethod⟩ := List.any_eq_true.mp hmethod
    simp only [Bool.and_eq_true, decide_eq_true_eq, beq_iff_eq] at hmethod
    have hd : c.document = d := document_of_ofDocument hc
    have hplain : m.IsPlain d b := by
      refine ⟨by decide +kernel,fun line hlt hle => ?_,hmethod.2,fun line hlt hle x hx => ?_,
        List.all_eq_true.mp (by decide +kernel)⟩
      · exact (hlines ⟨line,Nat.lt_succ_of_le hle⟩ hlt).1
      · exact List.all_eq_true.mp (hlines ⟨line,Nat.lt_succ_of_lt hle⟩ hlt).2 x hx
    have hboth := labels_isConfined_iff hc hm hmethod.1 (by decide) (hd ▸ hlabel)
    rw [hd] at hboth
    refine ⟨_,hlabel,hboth.1.mpr ⟨hboth.2 hplain,by decide +kernel⟩,rfl,rfl⟩

/-- A label in a string is listed as a use. -/
theorem not_labels_isConfined : ¬∀ (text : String) (c : Class), ofString text = .ok c →
    ∀ m ∈ c.allMethods, ∀ b, m.body? = some b → ∀ p, b.contains p = true →
      ∀ u, c.document.labelAt? p = some u → u.IsConfined c.document b := by
  intro hall
  let d := Document.ofString
    ".class LA;\n.super Lb;\n.method a()V\n    goto :x\n    const-string v0, \" :x\"\n    :x\n.end method\n"
  let b : Span := ⟨⟨2,0⟩,⟨6,11⟩⟩
  have hmethod : (ofDocument d).toOption.any (fun c => c.allMethods.any fun m =>
      decide (m.body? = some b)) = true := by decide +kernel
  have hlabel : d.labelAt? ⟨3,9⟩ = some ⟨⟨":x",.within 3 9 11⟩,some (.within 5 4 6),
      [.within 3 9 11,.within 4 23 25,.within 5 4 6]⟩ := by decide +kernel
  cases hc : ofDocument d with
  | error e => simp [hc, Except.toOption] at hmethod
  | ok c =>
    rw [hc] at hmethod
    obtain ⟨m,hm,hmethod⟩ := List.any_eq_true.mp hmethod
    obtain hd : c.document = d := document_of_ofDocument hc
    have hconfined := hall _ c hc m hm b (of_decide_eq_true hmethod) ⟨3,9⟩ (by decide) _ (hd ▸ hlabel)
    obtain ⟨line,-,-,use,-,-,hnone,heq⟩ := (hconfined.exact (.within 4 23 25)).mp (by decide)
    have hplace : (⟨line,use.start⟩ : Position) = ⟨4,23⟩ := (congrArg Span.start heq).symm
    have hstring : (d.stringAt? ⟨4,23⟩).isSome = true := by decide +kernel
    rw [hd, hplace] at hnone
    rw [hnone] at hstring
    cases hstring

end Class

end SmaliNavigator
