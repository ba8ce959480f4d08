import SmaliNavigator.Proofs.Class.Fuel
import SmaliNavigator.Slicer

/-!
Reading by byte offsets against reading with a cursor. A reading by offsets follows a reader where it
has an outcome at each place of a document, and this outcome and the offset behind it are those of the
reader.
-/

set_option autoImplicit false

namespace SmaliNavigator

open Text

/-! ### Cuts -/

namespace Text

theorem takeBytes?_eq_some_iff {n : Nat} {cs xs : List Char} :
    takeBytes? n cs = some xs ↔ ∃ ys, cs = xs ++ ys ∧ n = byteCount xs := by
  constructor
  · intro h
    fun_induction takeBytes? n cs generalizing xs with
    | case1 cs => cases h; exact ⟨cs,rfl,rfl⟩
    | case2 => cases h
    | case3 n c cs hc ih =>
      obtain ⟨ys,hys,rfl⟩ := Option.map_eq_some_iff.mp h
      obtain ⟨zs,rfl,hn⟩ := ih hys
      exact ⟨zs,rfl,by rw [byteCount_cons]; omega⟩
    | case4 => cases h
  · rintro ⟨ys,rfl,rfl⟩
    exact takeBytes?_byteCount xs ys

theorem cut?_eq_some_iff {cs text : List Char} {start stop : Nat} :
    cut? cs start stop = some text ↔ ∃ before after, cs = before ++ (text ++ after) ∧
      start = byteCount before ∧ stop = byteCount (before ++ text) := by
  constructor
  · intro h
    unfold cut? at h
    split at h
    · next hle =>
      obtain ⟨before,hbefore,htext⟩ := Option.bind_eq_some_iff.mp h
      obtain ⟨tail,rfl,rfl⟩ := takeBytes?_eq_some_iff.mp hbefore
      rw [List.drop_left] at htext
      obtain ⟨after,rfl,hstop⟩ := takeBytes?_eq_some_iff.mp htext
      exact ⟨before,after,rfl,rfl,by rw [byteCount_append]; omega⟩
    · cases h
  · rintro ⟨before,after,rfl,rfl,rfl⟩
    have hlength : byteCount (before ++ text) - byteCount before = byteCount text := by
      rw [byteCount_append, Nat.add_sub_cancel_left]
    rw [cut?, if_pos (by rw [byteCount_append]; exact Nat.le_add_right _ _), takeBytes?_byteCount,
      Option.bind_some, List.drop_left, hlength, takeBytes?_byteCount]

theorem cut?_append (before text after : List Char) :
    cut? (before ++ (text ++ after)) (byteCount before) (byteCount (before ++ text)) = some text :=
  cut?_eq_some_iff.mpr ⟨before,after,rfl,rfl,rfl⟩

end Text

namespace Cursor

variable {d : Document} {c c' : Cursor}

theorem offset_advance_length {xs ys : List Char} (h : c.rest = xs ++ ys) :
    (c.advance xs.length).offset = c.offset + byteCount xs := by
  change c.offset + byteCount (c.rest.take xs.length) = _
  rw [take_length_rest h]

theorem offset_advance_succ {xs ys : List Char} {x : Char} (h : c.rest = xs ++ x :: ys) :
    (c.advance (xs.length + 1)).offset = c.offset + (byteCount xs + x.utf8Size) := by
  have hsplit : c.rest = (xs ++ [x]) ++ ys := by simpa using h
  have hoffset := offset_advance_length hsplit
  rwa [List.length_append, byteCount_append, byteCount_cons, byteCount_nil, Nat.add_zero] at hoffset

theorem offset_advance_one {x : Char} {ys : List Char} (h : c.rest = x :: ys) :
    (c.advance 1).offset = c.offset + x.utf8Size := by
  have hoffset := @offset_advance_succ _ [] ys x h
  rwa [byteCount_nil, Nat.zero_add] at hoffset

theorem offset_skipWhile (c : Cursor) (p : Char → Bool) :
    (c.skipWhile p).offset = c.offset + byteCount (c.rest.takeWhile p) :=
  offset_advance_length List.takeWhile_append_dropWhile.symm

theorem On.spanOf_eq (h : c.On d) (hr : c.Reaches c') :
    d.spanOf c.offset c'.offset = c.spanTo c' := by
  rw [spanTo, position, position, h.document, (h.reaches hr).document]
  rfl

theorem On.positionAt_eq (h : c.On d) : d.positionAt c.offset = c.position := by
  rw [position, h.document]

end Cursor

namespace Slicer

variable {α β : Type} {d : Document} {c : Cursor}

/-! ### Cuts between characters -/

theorem readFrom_between (hc : c.On d) (n o : Nat) :
    (between c.offset (c.advance n).offset).readFrom d o = some (.ok (c.rest.take n),o) := by
  obtain ⟨before,hb⟩ := hc
  have hcut : cut? d.chars c.offset (c.advance n).offset = some (c.rest.take n) := by
    rw [(hb.advance n).offset, hb.offset, hb.chars]
    simpa using cut?_append before (c.rest.take n) (c.rest.drop n)
  simp only [between, cut, readFrom_bind, readFrom_asks, readFrom_of, hcut, Option.map_some]

theorem readFrom_rest (hc : c.On d) : rest.readFrom d c.offset = some (.ok c.rest,c.offset) := by
  have hsize : d.size = (c.advance c.rest.length).offset := by
    obtain ⟨before,hb⟩ := hc
    rw [(hb.advance _).offset, d.size_eq, hb.chars, List.take_length]
  have hread := readFrom_between hc c.rest.length c.offset
  rw [List.take_length, ← hsize] at hread
  simp only [rest, readFrom_bind, readFrom_asks, readFrom_offset, hread]

theorem readFrom_cut_front {cs text : List Char} (h : text <+: cs) (o : Nat) :
    (cut cs 0 (byteCount text)).readFrom d o = some (.ok text,o) := by
  obtain ⟨after,rfl⟩ := h
  have hcut := cut?_append [] text after
  simp only [List.nil_append, byteCount_nil] at hcut
  rw [cut, readFrom_of, hcut, Option.map_some]

theorem readFrom_cut_suffix {cs before text : List Char} (h : cs = before ++ text) (o : Nat) :
    (cut cs (byteCount before) (byteCount cs)).readFrom d o = some (.ok text,o) := by
  have hcut := cut?_append before text []
  rw [List.append_nil] at hcut
  rw [h, cut, readFrom_of, hcut, Option.map_some]

/-! ### Following a reader -/

/-- From each place of a document a reading by offsets comes to what a reader comes to, which is never
in front of that place. -/
structure Follows (s : Slicer α) (r : Reader α) : Prop where
  reads : ∀ {d : Document} {c : Cursor}, c.On d →
    s.readFrom d c.offset = some ((r.read c).1,(r.read c).2.offset)
  reaches : ∀ c : Cursor, c.Reaches (r.read c).2

theorem Follows.bind {s : Slicer α} {r : Reader α} {f : α → Slicer β} {g : α → Reader β}
    (h : s.Follows r) (hf : ∀ a, (f a).Follows (g a)) : Follows (s >>= f) (r >>= g) where
  reads {d c} hc := by
    have hreach := h.reaches c
    rw [readFrom_bind, h.reads hc, Reader.read_bind]
    rcases heq : r.read c with ⟨x | a,e⟩
    · rfl
    · rw [heq] at hreach
      exact (hf a).reads (hc.reaches hreach)
  reaches c := by
    have hreach := h.reaches c
    rw [Reader.read_bind]
    rcases heq : r.read c with ⟨x | a,e⟩
    · rwa [heq] at hreach
    · rw [heq] at hreach
      exact hreach.trans ((hf a).reaches e)

theorem follows_pure (a : α) : Follows (pure a) (pure a) where
  reads _ := rfl
  reaches c := .refl c

theorem Follows.dropped {s : Slicer α} {r : Reader α} (h : s.Follows r) :
    Follows (do let _ ← s) (do let _ ← r) :=
  h.bind fun _ => follows_pure ()

theorem follows_asks {f : Document → Nat → α} {g : Cursor → α}
    (h : ∀ c : Cursor, f c.document c.offset = g c) : Follows (asks f) (Reader.asks g) where
  reads {d c} hc := by
    rw [readFrom_asks, ← hc.document, h]
    rfl
  reaches c := .refl c

end Slicer

/-! ### The scanner -/

namespace Reader

variable {α : Type}

@[simp] theorem read_total (f : Cursor → α × Cursor) (c : Cursor) :
    (total f).read c = (.ok (f c).1,(f c).2) := rfl

/-- Moves the cursor. -/
def moves (f : Cursor → Cursor) : Reader Unit := total fun c => ((),f c)

/-- Moves the cursor where that is possible, and tells whether it is. -/
def tries (f : Cursor → Option Cursor) : Reader Bool :=
  total fun c => match f c with
    | some after => (true,after)
    | none => (false,c)

@[simp] theorem read_moves (f : Cursor → Cursor) (c : Cursor) :
    (moves f).read c = (.ok (),f c) := rfl

end Reader

namespace Slicer

theorem follows_skipWhile (p : Char → Bool) :
    (skipWhile p).Follows (Reader.moves fun c => c.skipWhile p) where
  reads {d c} hc := by
    simp only [skipWhile, readFrom_bind, readFrom_rest hc, readFrom_moveBy, Reader.read_moves,
      Cursor.offset_skipWhile]
  reaches c := .advance c _

theorem follows_skipSpace : skipSpace.Follows (Reader.moves Cursor.skipSpace) :=
  follows_skipWhile isSpace

theorem follows_skipInlineSpace : skipInlineSpace.Follows (Reader.moves Cursor.skipInlineSpace) :=
  follows_skipWhile isInlineSpace

theorem follows_skipLine : skipLine.Follows (Reader.moves Cursor.skipLine) where
  reads {d c} hc := by
    obtain ⟨xs,ys,hrest,hrun,hall,hstops⟩ := c.exists_run (· ≠ '\n')
    have hfeed : '\n' ∉ xs := fun hx => by simpa using hall '\n' hx
    have htake : c.rest.takeWhile (· ≠ '\n') = xs := by
      rw [hrest, takeWhile_append_stops hall hstops]
    simp only [skipLine, readFrom_bind, readFrom_rest hc, htake, Reader.read_moves]
    cases ys with
    | nil =>
      have hskip : c.skipLine.rest = [] := by
        rw [Cursor.skipLine, Cursor.rest_advance, hrun, List.drop_eq_nil_of_le (by simp [hrest])]
      obtain ⟨before,hb⟩ := hc.reaches (.skipLine c)
      have hsize : d.size = c.skipLine.offset := by
        rw [d.size_eq, hb.chars, hskip, List.append_nil, hb.offset]
      rw [List.append_nil] at hrest
      rw [if_neg (by simpa [hrest] using hfeed)]
      simp only [readFrom_bind, readFrom_asks, readFrom_moveTo, hsize]
    | cons y ys =>
      obtain rfl : y = '\n' := by simpa using stops_cons.mp hstops
      rw [if_pos (by simp [hrest]), readFrom_moveBy, Cursor.skipLine, hrun,
        Cursor.offset_advance_succ hrest]
      rfl
  reaches c := .skipLine c

theorem follows_expectBehind (p : Char → Bool) (literal : String) :
    (expectBehind p literal).Follows
      (Reader.tries fun c => (c.skipWhile p).literal? literal) where
  reads {d c} hc := by
    have hskip : (c.skipWhile p).On d := hc.reaches (.advance _ _)
    simp only [expectBehind, readFrom_bind, readFrom_offset, (follows_skipWhile p).reads hc,
      Reader.read_moves, readFrom_rest hskip, Reader.tries, Reader.read_total, Cursor.literal?]
    split
    · next hp =>
      obtain ⟨r,hr⟩ := List.isPrefixOf_iff_prefix.mp hp
      simp only [readFrom_bind, readFrom_moveBy, readFrom_pure,
        Cursor.offset_advance_length hr.symm]
    · rfl
  reaches c := by
    rw [Reader.tries, Reader.read_total]
    split
    · next h => exact .trans (.advance c _) (.literal? h)
    · exact .refl c

theorem follows_expect (literal : String) :
    (expect literal).Follows (Reader.tries fun c => c.expect? literal) :=
  follows_expectBehind isSpace literal

theorem follows_expectOnLine (literal : String) :
    (expectOnLine literal).Follows (Reader.tries fun c => c.expectOnLine? literal) :=
  follows_expectBehind isInlineSpace literal

theorem follows_peekChar : peekChar.Follows (Reader.asks fun c => c.rest.head?) where
  reads hc := by
    simp only [peekChar, readFrom_bind, readFrom_rest hc]
    rfl
  reaches c := .refl c

theorem follows_readToken : readToken.Follows (Reader.total Cursor.readToken) where
  reads {d c} hc := by
    have hskip := hc.reaches (.skipSpace c)
    have hword := (follows_skipWhile fun x => !isSpace x).reads hskip
    simp only [readToken, readFrom_bind, readFrom_offset, readFrom_spanFrom, readFrom_pure,
      follows_skipSpace.reads hc, Reader.read_moves, hword]
    simp only [Cursor.skipWhile, readFrom_between hskip, hskip.spanOf_eq (.advance _ _)]
    rfl
  reaches c := .readToken c

theorem follows_peekToken : peekToken.Follows (Reader.asks Cursor.peekToken) where
  reads {d c} hc := by
    simp only [peekToken, readFrom_bind, readFrom_offset, follows_readToken.reads hc,
      Reader.read_total, readFrom_moveTo]
    rfl
  reaches c := .refl c

theorem follows_tokenUntil (separator : Char) :
    (tokenUntil separator).Follows (Reader.tokenUntil separator) where
  reads {d c} hc := by
    have hskip := hc.reaches (.skipSpace c)
    simp only [tokenUntil, readFrom_bind, readFrom_offset, follows_skipSpace.reads hc,
      Reader.read_moves, readFrom_rest hskip, readFrom_cut_front (List.takeWhile_prefix _),
      Reader.tokenUntil, Reader.read_of]
    generalize c.skipSpace = c at hskip
    split
    · next hmem =>
      obtain ⟨after,hafter⟩ := List.takeWhile_prefix (l := c.rest) (· ≠ '\n')
      obtain ⟨name,more,hline,hname⟩ := List.eq_append_cons_of_mem (List.contains_iff_mem.mp hmem)
      have hrest : c.rest = name ++ separator :: (more ++ after) := by
        rw [← hafter, hline]
        simp
      have htake : (c.rest.takeWhile (· ≠ '\n')).takeWhile (· ≠ separator) = name := by
        rw [hline, takeWhile_append_stops _ (stops_cons.mpr (by simp))]
        exact fun x hx => by simpa using fun h : x = separator => hname (h ▸ hx)
      have hprefix : name <+: c.rest := ⟨_,hrest.symm⟩
      simp only [htake, readFrom_bind, readFrom_moveBy, readFrom_spanFrom, readFrom_pure,
        readFrom_cut_front hprefix, Cursor.run_of_not_mem hrest hname,
        Cursor.offset_advance_succ hrest, Cursor.token, Cursor.take_length_rest hrest,
        ← hskip.spanOf_eq (.advance _ _), Cursor.offset_advance_length hrest, Nat.add_assoc]
    · simp only [readFrom_bind, readFrom_spanBetween, readFrom_fail,
        ← Cursor.offset_advance_length List.takeWhile_append_dropWhile.symm,
        hskip.spanOf_eq (.advance _ _)]
  reaches c := by
    simp only [Reader.tokenUntil, Reader.read_of]
    split
    · exact (Cursor.Reaches.skipSpace c).trans (.advance _ _)
    · exact .skipSpace c

theorem follows_restOfLine : restOfLine.Follows (Reader.total Cursor.readRestOfLine) where
  reads {d c} hc := by
    have hskip := hc.reaches (.skipInlineSpace c)
    simp only [restOfLine, readFrom_bind, readFrom_offset, follows_skipInlineSpace.reads hc,
      Reader.read_moves, readFrom_rest hskip, readFrom_cut_front (List.takeWhile_prefix _),
      readFrom_moveBy, readFrom_spanFrom, readFrom_pure, Reader.read_total, Cursor.readRestOfLine]
    have hprefix : trimEnd (c.skipInlineSpace.rest.takeWhile (· ≠ '\n')) <+: c.skipInlineSpace.rest :=
      (prefix_of_dropEndWhile _ _).trans (List.takeWhile_prefix _)
    obtain ⟨after,hafter⟩ := hprefix
    rw [← Cursor.offset_advance_length hafter.symm, hskip.spanOf_eq (.advance _ _), Cursor.token,
      Cursor.take_length_rest hafter.symm]
  reaches c := .readRestOfLine c

end Slicer

end SmaliNavigator
