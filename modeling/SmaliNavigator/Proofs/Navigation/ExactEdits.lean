import SmaliNavigator.Proofs.Navigation.Edits
import SmaliNavigator.Proofs.Query.Findings
import SmaliNavigator.Proofs.Spot.Matches

/-!
What the edits of a rename replace: nothing but the old name, and no place twice.

A name is told from its surroundings by one character: that of a member by the separator behind it,
that of a class by its semicolon, a label by its colon. So no two places of a name share a character,
and as places are kept in order and once each, the edits of a file come one behind the other.
-/

set_option autoImplicit false

namespace SmaliNavigator

open Text

/-! ### Places that share no character -/

/-- Occurrences of a text with another one behind it share no character of the first. -/
def Text.Apart (text behind : List Char) : Prop :=
  ∀ {cs xs ys : List Char}, xs ++ (text ++ behind) <+: cs → ys ++ (text ++ behind) <+: cs →
    xs.length < ys.length → (xs ++ text).length ≤ ys.length

theorem apart_name {name : List Char} {separator : Char} (h : separator ∉ name) :
    Apart name [separator] := by
  intro cs xs ys hx hy hlt
  have hwhole := apart_of_last h hx hy hlt
  simp only [List.length_append] at hwhole ⊢
  omega

theorem IsClassKey.apart {key : List Char} (h : IsClassKey key) : Apart key [] := by
  obtain ⟨n,_,hn,rfl⟩ := h
  intro cs xs ys hx hy hlt
  have hbody : ';' ∉ 'L' :: n := by
    refine List.not_mem_cons_of_ne_of_not_mem (by decide) fun hmem => ?_
    exact (hn ';' hmem).1 rfl
  rw [List.append_nil] at hx hy
  exact apart_of_last hbody hx hy hlt

theorem IsLabel.apart {text : List Char} (h : IsLabel text) : Apart text [] := by
  obtain ⟨bare,hbare,rfl⟩ := h.exists_bare
  intro cs xs ys hx hy hlt
  rw [List.append_nil] at hx hy
  refine Classical.byContradiction fun hover => hbare ?_
  simp only [List.length_append, List.length_cons] at hover
  obtain ⟨t,rfl⟩ := hx
  obtain ⟨u,hu⟩ := hy
  -- the colon of the second one is a character of the first one
  have hcolon : (ys ++ ':' :: bare ++ u)[ys.length]? = some ':' := by simp
  obtain ⟨k,hk⟩ : ∃ k, ys.length = xs.length + (k + 1) := ⟨ys.length - xs.length - 1,by omega⟩
  rw [hu, List.append_assoc, List.getElem?_append_right (by omega), hk, Nat.add_sub_cancel_left,
    List.cons_append, List.getElem?_cons_succ, List.getElem?_append_left (by omega)] at hcolon
  exact List.mem_of_getElem? hcolon

/-- A span has a text, and directly behind it stands another one. -/
def Document.HasText (d : Document) (text behind : List Char) (span : Span) : Prop :=
  ∃ before rest, d.chars = before ++ (text ++ (behind ++ rest)) ∧
    span = d.spanOf (byteCount before) (byteCount (before ++ text))

theorem Document.Names.hasText {d : Document} {separator : Char} {name : String} {span : Span}
    (h : d.Names separator name span) : d.HasText name.toList [separator] span := by
  obtain ⟨before,rest,hchars,hspan⟩ := h.shown
  exact ⟨before,rest,by simpa using hchars,hspan⟩

namespace Document.HasText

variable {d : Document} {text behind : List Char} {s t : Span}

theorem slice (h : d.HasText text behind s) : d.slice s = String.ofList text := by
  obtain ⟨before,rest,hchars,rfl⟩ := h
  exact slice_spanOf hchars

theorem positionAt_apart (hapart : Apart text behind) {before before' rest rest' : List Char}
    (h : d.chars = before ++ (text ++ (behind ++ rest)))
    (h' : d.chars = before' ++ (text ++ (behind ++ rest'))) (hlt : before.length < before'.length) :
    d.positionAt (byteCount before) < d.positionAt (byteCount before') ∧
      d.positionAt (byteCount (before ++ text)) ≤ d.positionAt (byteCount before') := by
  have hends : before ++ text <+: d.chars := ⟨behind ++ rest,by simp [h]⟩
  have hstarts : before <+: d.chars := ⟨_,h.symm⟩
  have hstarts' : before' <+: d.chars := ⟨_,h'.symm⟩
  have hbegins : before ++ (text ++ behind) <+: d.chars := ⟨rest,by simp [h]⟩
  have hbegins' : before' ++ (text ++ behind) <+: d.chars := ⟨rest',by simp [h']⟩
  have hlength := hapart hbegins hbegins' hlt
  obtain ⟨u,rfl⟩ := List.prefix_of_prefix_length_le hends hstarts' hlength
  constructor
  · obtain ⟨v,hv⟩ := List.prefix_of_prefix_length_le hstarts hstarts' (by omega)
    have hbytes := length_le_byteCount v
    have hpos : 0 < v.length := by
      have hsum := congrArg List.length hv
      rw [List.length_append] at hsum
      omega
    rw [← hv, byteCount_append]
    refine d.positionAt_lt (by omega) ?_
    rw [← byteCount_append, hv]
    exact byteCount_le_size h'
  · refine d.positionAt_le ?_
    rw [byteCount_append (before ++ text)]
    omega

theorem apart (h : d.HasText text behind s) (h' : d.HasText text behind t)
    (hapart : Apart text behind) (hle : s.le t = true) (hne : s ≠ t) :
    s.start < t.start ∧ s.stop ≤ t.start := by
  obtain ⟨before,rest,hchars,rfl⟩ := h
  obtain ⟨before',rest',hchars',rfl⟩ := h'
  rcases Nat.lt_trichotomy before.length before'.length with hlt | heq | hgt
  · exact positionAt_apart hapart hchars hchars' hlt
  · obtain rfl : before = before' := (List.append_inj (hchars.symm.trans hchars') heq).1
    exact absurd rfl hne
  · have hback := (positionAt_apart hapart hchars' hchars hgt).1
    rcases Span.le_iff.mp hle with hlt | ⟨heq,-⟩
    · simp only [spanOf, Position.lt_def] at hlt hback
      omega
    · change d.positionAt (byteCount before) = d.positionAt (byteCount before') at heq
      simp only [heq, Position.lt_def] at hback
      omega

end Document.HasText

/-! ### Edits at places of a text -/

namespace RenameEdits

/-- The edits of each file follow one another in its text, and each of them replaces the old text and
nothing more. -/
def IsExact (r : RenameEdits) (source : Source) (old : String) : Prop :=
  ∀ file edits, r.edits.get? file = some edits → ∃ d, source.textOf? file = some d ∧
    edits.Pairwise (fun a b => a.span.start < b.span.start ∧ a.span.stop ≤ b.span.start) ∧
    ∀ e ∈ edits, d.slice e.span = old

variable {source : Source}

/-- The edits of a file are those that were collected for it, in order and once each. -/
theorem exists_edits_ofEdits {es : List (Path × TextEdit)} {moves : List (Path × Path)} {file : Path}
    {edits : List TextEdit} (h : (ofEdits es moves).edits.get? file = some edits) :
    edits ≠ [] ∧ (∀ e ∈ edits, ∃ x ∈ es, x.1.same file = true ∧ x.2 = e) ∧
      edits.Pairwise (fun a b => a.le b = true ∧ a ≠ b) := by
  rw [get?_edits_ofEdits] at h
  split at h
  · cases h
  next hsome =>
  obtain rfl := Option.some.inj h
  have hmem {e : TextEdit} : e ∈ dropRepeats (· == ·)
      (((es.filter (·.1.same file)).map (·.2)).mergeSort TextEdit.le) ↔
      ∃ x ∈ es, x.1.same file = true ∧ x.2 = e := by
    rw [mem_dropRepeats, List.mem_mergeSort]
    simp only [List.mem_map, List.mem_filter, and_assoc]
  refine ⟨?_,fun e he => hmem.mp he,?_⟩
  · obtain ⟨x,hx⟩ : ∃ x, x ∈ es.filter (·.1.same file) :=
      List.exists_mem_of_ne_nil _ fun hnil => hsome (by simp [hnil])
    obtain ⟨hes,hsame⟩ := List.mem_filter.mp hx
    exact List.ne_nil_of_mem (hmem.mpr ⟨x,hes,hsame,rfl⟩)
  · have hordered := List.pairwise_mergeSort TextEdit.le_trans TextEdit.le_total
      ((es.filter (·.1.same file)).map (·.2))
    exact (hordered.sublist (dropRepeats_sublist (· == ·) _)).and
      (nodup_dropRepeats (fun _ _ => TextEdit.le_antisymm) hordered)

theorem isExact_ofEdits (hspelling : source.IgnoresSpelling) {es : List (Path × TextEdit)}
    {moves : List (Path × Path)} {old : String} (new : String) {behind : List Char}
    (hapart : Apart old.toList behind)
    (h : ∀ x ∈ es, x.2.text = new ∧
      ∃ d, source.textOf? x.1 = some d ∧ d.HasText old.toList behind x.2.span) :
    (ofEdits es moves).IsExact source old := by
  intro file edits hedits
  obtain ⟨hnil,hmem,hordered⟩ := exists_edits_ofEdits hedits
  have hcollected {e : TextEdit} (he : e ∈ edits) : e.text = new ∧
      ∃ d, source.textOf? file = some d ∧ d.HasText old.toList behind e.span := by
    obtain ⟨x,hx,hsame,rfl⟩ := hmem e he
    rw [← hspelling.textOf? hsame]
    exact h x hx
  obtain ⟨e,he⟩ := List.exists_mem_of_ne_nil edits hnil
  obtain ⟨-,d,hd,-⟩ := hcollected he
  have hplace {e : TextEdit} (he : e ∈ edits) :
      e.text = new ∧ d.HasText old.toList behind e.span := by
    obtain ⟨htext,d',hd',hhas⟩ := hcollected he
    obtain rfl : d = d' := Option.some.inj (hd.symm.trans hd')
    exact ⟨htext,hhas⟩
  refine ⟨d,hd,hordered.imp_of_mem fun {a b} ha hb hab => ?_,fun e he => ?_⟩
  · obtain ⟨hatext,hahas⟩ := hplace ha
    obtain ⟨hbtext,hbhas⟩ := hplace hb
    refine hahas.apart hbhas hapart (TextEdit.le_iff.mp hab.1).1 fun hspan => hab.2 ?_
    cases a
    cases b
    simp_all
  · rw [(hplace he).2.slice, String.ofList_toList]

end RenameEdits

/-! ### Names in keys -/

/-- A name of a class whose end can be told in a key. -/
structure IsOwnerName (owner : String) : Prop where
  no_arrow : ¬"->".toList <:+: owner.toList
  inline : '\n' ∉ owner.toList

theorem IsOwnerName.of_not_mem {owner : String} (h : '>' ∉ owner.toList) (hinline : '\n' ∉ owner.toList) :
    IsOwnerName owner :=
  ⟨fun harrow => h (harrow.subset (by decide)),hinline⟩

theorem IsOwnerName.nameColumn? {owner descriptor : String} (h : IsOwnerName owner) {col : Nat}
    (hcol : RenameEdits.nameColumn? (referenceKey owner descriptor) = some col) :
    col = byteCount (owner.toList ++ "->".toList) := by
  obtain ⟨front,behind,⟨z,hz⟩,rfl,hkey⟩ := RenameEdits.exists_of_nameColumn? hcol
  have hsplit : z ++ ("->".toList ++ descriptor.toList) = "->".toList ++ behind := by
    have hwhole : front ++ (z ++ ("->".toList ++ descriptor.toList)) =
        front ++ ("->".toList ++ behind) := by
      rw [← hkey, referenceKey, ← List.append_assoc, hz]
      simp
    exact List.append_cancel_left hwhole
  rcases z with - | ⟨c,- | ⟨c',z⟩⟩
  · rw [← hz, List.append_nil]
  · simp at hsplit
  · simp only [String.reduceToList, List.cons_append, List.nil_append, List.cons.injEq] at hsplit
    obtain ⟨rfl,rfl,_⟩ := hsplit
    exact absurd ⟨front,z,by simpa using hz⟩ h.no_arrow

/-- A name of a member has its end where the separator comes. -/
structure IsEndedBy (separator : Char) (name : String) : Prop where
  not_mem : separator ∉ name.toList
  inline : '\n' ∉ name.toList

theorem IsEndedBy.names {separator : Char} {name owner more : String}
    (h : IsEndedBy separator name) (howner : IsOwnerName owner) {file : Path} {d : Document}
    {l : Location}
    (hl : l ∈ symbolLocations (referenceKey owner (name ++ separator.toString ++ more)) file d)
    {col : Nat} (hcol : RenameEdits.nameColumn?
      (referenceKey owner (name ++ separator.toString ++ more)) = some col) :
    d.Names separator name
      ⟨l.span.start.right col,(l.span.start.right col).right name.utf8ByteSize⟩ := by
  obtain ⟨before,rest,hchars,rfl,-⟩ := exists_place_of_mem_symbolLocations hl
  obtain rfl := howner.nameColumn? hcol
  have hkey : (referenceKey owner (name ++ separator.toString ++ more)).toList =
      (owner.toList ++ "->".toList) ++ (name.toList ++ separator :: more.toList) := by
    simp [referenceKey, Char.toString]
  have hfeed : '\n' ∉ owner.toList ++ "->".toList := by simp [howner.inline]
  rw [hkey, List.append_assoc] at hchars
  have hstart := Document.positionAt_append hchars hfeed
  rw [← List.append_assoc, List.append_assoc name.toList] at hchars
  have hstop := Document.positionAt_append hchars h.inline
  rw [byteCount_toList name] at hstop
  refine ⟨⟨_,more.toList ++ rest,hchars,?_⟩,h.not_mem,h.inline⟩
  change _ = (⟨d.positionAt _,d.positionAt _⟩ : Span)
  rw [hstop, hstart]
  rfl

/-- The keys of a family have the name behind an owner that it can be told from, and where the family
is declared the name stands. -/
structure MemberFamily.IsNamed (family : MemberFamily) (source : Source) (separator : Char)
    (name : String) : Prop where
  symbols : ∀ key ∈ family.symbols, ∃ owner more, IsOwnerName owner ∧
    key = referenceKey owner (name ++ separator.toString ++ more)
  declarations : ∀ l ∈ family.declarations, ∃ d, source.textOf? l.file = some d ∧
    d.Names separator name l.span

theorem RenameEdits.isExact_ofMember {source : Source} (hspelling : source.IgnoresSpelling)
    {family : MemberFamily} {separator : Char} {old new : String}
    (hfamily : family.IsNamed source separator old) (hold : IsEndedBy separator old)
    {texts : List (Path × Document)} (htexts : ∀ x ∈ texts, source.textOf? x.1 = some x.2) :
    (ofMember (occurrencesIn family.symbols texts) family.declarations old new).IsExact source old := by
  refine isExact_ofEdits hspelling new (apart_name hold.not_mem) fun x hx => ?_
  rcases List.mem_append.mp hx with hx | hx
  · obtain ⟨y,hy,hedit⟩ := List.mem_flatMap.mp hx
    obtain ⟨key,hkey,rfl⟩ := List.mem_map.mp hy
    dsimp only at hedit
    split at hedit
    · cases hedit
    · next col hcol =>
      obtain ⟨l,hl,rfl⟩ := List.mem_map.mp hedit
      obtain ⟨⟨g,d⟩,hgd,hl⟩ := List.mem_flatMap.mp hl
      obtain ⟨owner,more,howner,rfl⟩ := hfamily.symbols key (List.mem_eraseDups.mp hkey)
      obtain ⟨_,_,_,hfile,_⟩ := exists_of_mem_symbolLocations hl
      refine ⟨rfl,d,?_,(hold.names howner hl hcol).hasText⟩
      rw [hfile]
      exact htexts _ hgd
  · obtain ⟨l,hl,rfl⟩ := List.mem_map.mp hx
    obtain ⟨d,hd,hnames⟩ := hfamily.declarations l hl
    exact ⟨rfl,d,hd,hnames.hasText⟩

end SmaliNavigator
