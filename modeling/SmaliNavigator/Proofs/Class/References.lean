import SmaliNavigator.Proofs.Class.Shown
import SmaliNavigator.Proofs.Member.Types

/-!
Where the references of a class are. The reader goes through the text once, and what it records
stands in the text as it says: in the order of the text, each reference behind the last one of the
same key, and all of them in front of the place that the reader has come to.

What is known of the references that were read is carried from one reader to the next by `Keeps`,
whatever it is.

A type operand is the one thing that is read ahead. Where the operands of an instruction end with a
comma, the type is that of the next line, and then that line is no instruction.
-/

set_option autoImplicit false

namespace SmaliNavigator

open Text

/-- References that are in a document in front of an offset, in the order in which they were
read. -/
structure Laid (d : Document) (rs : List Reference) (offset : Nat) : Prop where
  isIn : ∀ r ∈ rs, r.IsIn d
  isKey : ∀ r ∈ rs, IsReferenceKey r.key.toList
  below : ∀ r ∈ rs, r.span.stop ≤ d.positionAt offset
  apart : rs.Pairwise fun a b => a.key = b.key → a.span.stop ≤ b.span.start

/-- The cursor is in a document behind references that were read. -/
structure Cursor.Past (d : Document) (rs : List Reference) (c : Cursor) : Prop where
  on : c.On d
  laid : Laid d rs c.offset

variable {d : Document} {rs : List Reference}

namespace Laid

variable {cs : List Reference} {r : Reference} {lo hi : Nat}

theorem nil (d : Document) (offset : Nat) : Laid d [] offset :=
  ⟨by simp,by simp,by simp,.nil⟩

theorem mono (h : Laid d rs lo) (hle : lo ≤ hi) : Laid d rs hi :=
  ⟨h.isIn,h.isKey,fun r hr => Position.le_trans (h.below r hr) (d.positionAt_le hle),h.apart⟩

/-- One more reference behind an offset, with references in between that have other keys. -/
theorem concat (h : Laid d rs lo) (hcs : Laid d (rs ++ cs) hi) (hin : r.IsIn d)
    (hkey : IsReferenceKey r.key.toList) (hne : ∀ a ∈ cs, a.key ≠ r.key)
    (hstart : d.positionAt lo ≤ r.span.start) (hstop : r.span.stop ≤ d.positionAt hi) :
    Laid d (rs ++ cs ++ [r]) hi where
  isIn := by
    intro a ha
    rcases List.mem_append.mp ha with ha | ha
    · exact hcs.isIn a ha
    · exact List.mem_singleton.mp ha ▸ hin
  isKey := by
    intro a ha
    rcases List.mem_append.mp ha with ha | ha
    · exact hcs.isKey a ha
    · exact List.mem_singleton.mp ha ▸ hkey
  below := by
    intro a ha
    rcases List.mem_append.mp ha with ha | ha
    · exact hcs.below a ha
    · exact List.mem_singleton.mp ha ▸ hstop
  apart := by
    refine List.pairwise_append.mpr ⟨hcs.apart,List.pairwise_singleton _ _,fun a ha b hb heq => ?_⟩
    obtain rfl := List.mem_singleton.mp hb
    rcases List.mem_append.mp ha with ha | ha
    · exact Position.le_trans (h.below a ha) hstart
    · exact absurd heq (hne a ha)

end Laid

namespace Cursor.Past

variable {c c' : Cursor}

theorem start (d : Document) : (start d).Past d [] := ⟨⟨[],at_start d⟩,.nil d _⟩

theorem reaches (h : c.Past d rs) (hr : c.Reaches c') : c'.Past d rs :=
  ⟨h.on.reaches hr,h.laid.mono hr.offset_le⟩

theorem forget (h : c.Past d rs) : c.Past d [] := ⟨h.on,.nil d _⟩

theorem concat {cs : List Reference} {before key : List Char} (h : c.Past d rs)
    (hcs : (c.advance key.length).Past d (rs ++ cs)) (hkey : IsReferenceKey key)
    (hne : ∀ a ∈ cs, a.key ≠ String.ofList key) (hat : c.At d before)
    (hshows : d.Shows before key (c.spanTo (c.advance key.length))) :
    (c.advance key.length).Past d
      (rs ++ cs ++ [⟨String.ofList key,c.spanTo (c.advance key.length)⟩]) := by
  refine ⟨hcs.on,h.laid.concat hcs.laid ⟨before,by simpa using hshows⟩ (by simpa using hkey) hne
    ?_ ?_⟩
  · simp only [spanTo, position, hat.document]
    exact Position.le_refl _
  · simp only [spanTo, position, hcs.on.document]
    exact Position.le_refl _

end Cursor.Past

/-! ### Types -/

theorem ClassName.of_ofIdentifier? {cs : List Char} {span : Span} {n : ClassName}
    (h : ofIdentifier? cs span = some n) :
    n.identifier.toList = cs ∧ n.span = span ∧ ∃ body, body ≠ [] ∧ cs = 'L' :: (body ++ [';']) := by
  unfold ofIdentifier? at h
  split at h
  · next c rest =>
    split at h
    · next hlast =>
      cases h
      obtain ⟨body,hbody⟩ := List.getLast?_eq_some_iff.mp hlast.1
      refine ⟨by simp [identifier, hbody],rfl,body,?_,by rw [hbody]⟩
      rintro rfl
      exact hlast.2 (List.cons.inj hbody).2
    · cases h
  · cases h

/-- A class name is what the text has from one cursor to another. -/
structure ClassName.Between (n : ClassName) (c c' : Cursor) : Prop where
  isKey : IsClassKey n.identifier.toList
  rest : c.rest = n.identifier.toList ++ c'.rest
  after : c' = c.advance n.identifier.toList.length
  span : n.span = c.spanTo c'

theorem Element.read_cases {c c' : Cursor} {e : Element}
    (h : Element.reader.read c = (.ok e,c')) :
    (c.Reaches c' ∧ e.className? = none) ∨ ∃ n, e = .object n ∧ n.Between c c' := by
  simp only [Element.reader, Reader.read_of] at h
  split at h
  · cases h
  · split at h
    · cases h
      exact .inl ⟨.advance c 1,rfl⟩
    · split at h
      · obtain ⟨xs,r,hrest,hrun,hall,_⟩ := c.exists_run fun x => x != ';' && !isSpace x
        rw [hrun] at h
        split at h
        · next hsemi =>
          obtain ⟨r,rfl⟩ : ∃ r', r = ';' :: r' := by
            rw [hrest, List.drop_left] at hsemi
            exact List.head?_eq_some_iff.mp hsemi
          have hrest' : c.rest = (xs ++ [';']) ++ r := by simpa using hrest
          have htake : c.rest.take (xs.length + 1) = xs ++ [';'] := by
            simpa using Cursor.take_length_rest hrest'
          rw [htake] at h
          split at h
          · next name hname =>
            cases h
            obtain ⟨hid,hspan,body,hne,hbody⟩ := ClassName.of_ofIdentifier? hname
            obtain rfl : xs = 'L' :: body := by
              rw [← List.cons_append] at hbody
              exact List.append_cancel_right hbody
            refine .inr ⟨name,rfl,⟨body,hne,fun x hx => ?_,by simpa using hid⟩,?_,?_,hspan⟩
            · simpa using hall x (by simp [hx])
            · rw [hid, Cursor.rest_advance, hrest']
              simp
            · rw [hid, List.length_append]
              rfl
          · cases h
        · cases h
      · cases h

theorem Element.written_of_read {c c' : Cursor} {e : Element}
    (h : Element.reader.read c = (.ok e,c')) :
    c.rest = e.raw.toList ++ c'.rest ∧ '\n' ∉ e.raw.toList ∧
      c' = c.advance e.raw.toList.length ∧ e.span = c.spanTo c' := by
  rcases Element.read_cases h with ⟨-,hnone⟩ | ⟨n,rfl,hn⟩
  · cases e with
    | object n => cases hnone
    | primitive p s =>
      have hfeed : '\n' ≠ p.code := by cases p <;> decide
      simp only [Element.reader, Reader.read_of] at h
      split at h
      · cases h
      · next code rest hrest =>
        split at h
        · next hcode =>
          cases h
          obtain rfl := Primitive.code_of_ofCode? hcode
          simp [raw, span, hrest, hfeed]
        · split at h
          · split at h
            · split at h <;> cases h
            · cases h
          · cases h
  · exact ⟨hn.rest,hn.isKey.not_mem,hn.after,hn.span⟩

namespace Descriptor

theorem written_of_read {c c' : Cursor} {t : Descriptor} (h : Descriptor.reader.read c = (.ok t,c')) :
    c.skipSpace.rest = t.raw.toList ++ c'.rest ∧ '\n' ∉ t.raw.toList ∧
      c' = c.skipSpace.advance t.raw.toList.length ∧ t.span = c.skipSpace.spanTo c' := by
  obtain ⟨xs,r,hrest,hrun,hall,-⟩ := c.skipSpace.exists_run (· = '[')
  have hxs : List.replicate xs.length '[' = xs :=
    (List.eq_replicate_of_mem fun x hx => by simpa using hall x hx).symm
  have hfeed : '\n' ∉ xs := fun hmem => by simpa using hall '\n' hmem
  simp only [Descriptor.reader, Reader.read_of, hrun] at h
  split at h
  · next e after hread =>
    obtain ⟨hwritten,hline,hafter,hspan⟩ := Element.written_of_read hread
    cases h
    rw [Cursor.rest_advance_length hrest] at hwritten
    have hraw : (if xs.length = 0 then single e
        else array e xs.length (c.skipSpace.spanTo c')).raw.toList = xs ++ e.raw.toList := by
      split
      · next hzero => simp [raw, dimensions, element, List.length_eq_zero_iff.mp hzero]
      · simp [raw, dimensions, element, hxs]
    rw [hraw]
    refine ⟨by rw [hrest, hwritten, List.append_assoc],by simp [hfeed, hline],?_,?_⟩
    · rw [hafter, Cursor.advance_append]
    · split
      · next hzero => rw [span, hspan, hzero, Cursor.advance_zero]
      · rfl
  · cases h

theorem references_eq (t : Descriptor) :
    t.references = (t.element.className?.map fun n => ⟨n.identifier,n.span⟩).toList := by
  unfold references className?
  cases t.element.className? <;> rfl

theorem read_cases {c c' : Cursor} {t : Descriptor} (h : Descriptor.reader.read c = (.ok t,c')) :
    (c.Reaches c' ∧ t.references = []) ∨
      ∃ (n : ClassName) (k : Nat), t.references = [⟨n.identifier,n.span⟩] ∧
        c.skipSpace.rest = List.replicate k '[' ++ (c.skipSpace.advance k).rest ∧
        n.Between (c.skipSpace.advance k) c' := by
  obtain ⟨xs,r,hrest,hrun,hall,_⟩ := c.skipSpace.exists_run (· = '[')
  simp only [Descriptor.reader, Reader.read_of, hrun] at h
  split at h
  · next e after hread =>
    cases h
    rw [references_eq]
    have helement : (if xs.length = 0 then single e
        else array e xs.length (c.skipSpace.spanTo c')).element = e := by
      split <;> rfl
    rw [helement]
    rcases Element.read_cases hread with ⟨hreach,hnone⟩ | ⟨n,rfl,hn⟩
    · refine .inl ⟨(Cursor.Reaches.skipSpace c).trans ((Cursor.Reaches.advance _ _).trans hreach),?_⟩
      simp [hnone]
    · refine .inr ⟨n,xs.length,rfl,?_,hn⟩
      rw [Cursor.rest_advance_length hrest, hrest]
      congr 1
      exact List.eq_replicate_of_mem fun x hx => by simpa using hall x hx
  · cases h

theorem isClassKey_of_read {c c' : Cursor} {t : Descriptor} (h : Descriptor.reader.read c = (.ok t,c'))
    {id : String} (hid : t.classIdentifier? = some id) : IsClassKey id.toList := by
  obtain ⟨name,hname,rfl⟩ := Option.map_eq_some_iff.mp hid
  have hreferences : t.references = [⟨name.identifier,name.span⟩] := by
    rw [references_eq]
    exact congrArg (fun n? => (Option.map _ n?).toList) hname
  rcases read_cases h with ⟨-,hnone⟩ | ⟨n,_,hn,-,hbetween⟩
  · rw [hreferences] at hnone
    cases hnone
  · rw [hreferences] at hn
    obtain ⟨heq,-⟩ := Reference.mk.inj (List.singleton_inj.mp hn)
    exact heq ▸ hbetween.isKey

theorem past_of_read {c c' : Cursor} {t : Descriptor} (h : Descriptor.reader.read c = (.ok t,c'))
    (hc : c.Past d rs) : c'.Past d (rs ++ t.references) := by
  rcases read_cases h with ⟨hreach,hnone⟩ | ⟨n,k,hn,hdims,hbetween⟩
  · rw [hnone, List.append_nil]
    exact hc.reaches hreach
  · have hstart := hc.reaches ((Cursor.Reaches.skipSpace c).trans (.advance _ k))
    have hstop := hstart.reaches (.advance _ n.identifier.toList.length)
    obtain ⟨before,hb⟩ := hstart.on
    have hshows := shows_of_isClassKey hbetween.isKey hb hbetween.rest
    rw [← rs.append_nil] at hstop
    have hlaid := hstart.concat hstop (.inl hbetween.isKey) (by simp) hb hshows
    rw [hn, hbetween.span, hbetween.after]
    simpa using hlaid

end Descriptor

/-! ### What is kept while references are read -/

/-- What is known of the references that were read and of the cursor behind them. It stays known when
the cursor is moved, and where a type is read that adds what the type names. -/
structure Keeps (known : List Reference → Cursor → Prop) : Prop where
  reaches : ∀ {rs c c'}, known rs c → c.Reaches c' → known rs c'
  type : ∀ {rs c c' t}, known rs c → Descriptor.reader.read c = (.ok t,c') →
    known (rs ++ t.references) c'

theorem Cursor.keeps_past (d : Document) : Keeps (Past d) :=
  ⟨fun h hr => h.reaches hr,fun h hread => Descriptor.past_of_read hread h⟩

variable {known : List Reference → Cursor → Prop}

theorem Keeps.gathers (hk : Keeps known) (rs : List Reference) :
    Gathers fun ts => known (rs ++ ts.flatMap Descriptor.references) where
  reaches h hr := hk.reaches h hr
  type h hread := by simpa using hk.type h hread

theorem Descriptor.records_reader (hk : Keeps known) :
    Reader.Triple (known rs) Descriptor.reader fun t => known (rs ++ t.references) :=
  fun _ _ _ hc hread => hk.type hc hread

/-! ### Members -/

theorem Field.records_reader (hk : Keeps known) :
    Reader.Triple (known rs) Field.reader fun f => known (rs ++ f.type.references) := by
  simpa using @Gathers.field _ [] (hk.gathers rs)

theorem Method.records_reader (hk : Keeps known) :
    Reader.Triple (known rs) Method.reader fun m =>
      known (rs ++ m.parameters.flatMap Descriptor.references ++ m.returnType.references) := by
  simpa using @Gathers.method _ [] (hk.gathers rs)

theorem FieldReference.known_of_read (hk : Keeps known) {c c' : Cursor} {r : FieldReference}
    (h : FieldReference.reader.read c = (.ok r,c')) (hc : known rs c) :
    known (rs ++ (r.owner.references ++ r.field.type.references)) c' := by
  simpa using @Gathers.fieldReference _ [] (hk.gathers rs) c r c' (by simpa using hc) h

theorem MethodReference.known_of_read (hk : Keeps known) {c c' : Cursor} {r : MethodReference}
    (h : MethodReference.reader.read c = (.ok r,c')) (hc : known rs c) :
    known (rs ++ (r.owner.references ++ r.method.parameters.flatMap Descriptor.references ++
      r.method.returnType.references)) c' := by
  simpa using @Gathers.methodReference _ [] (hk.gathers rs) c r c' (by simpa using hc) h

/-! ### Keys of members -/

theorem Descriptor.length_key_le {t : Descriptor} {a : Reference} (h : a ∈ t.references) :
    a.key.length ≤ t.raw.length := by
  rw [references_eq] at h
  unfold raw
  generalize t.element = e at h ⊢
  cases e with
  | primitive p s => simp [Element.className?] at h
  | object n =>
    obtain rfl : a = ⟨n.identifier,n.span⟩ := by simpa [Element.className?] using h
    simp [Element.raw]

theorem length_le_join {s : String} {ss : List String} (h : s ∈ ss) :
    s.length ≤ (String.join ss).length := by
  rw [← String.length_toList, ← String.length_toList, String.toList_join]
  exact (List.sublist_flatten_of_mem (List.mem_map_of_mem h)).length_le

theorem FieldReference.key_ne {r : FieldReference} {a : Reference}
    (h : a ∈ r.owner.references ++ r.field.type.references) : a.key ≠ r.key := by
  intro heq
  have hlength := congrArg String.length heq
  simp only [key, Field.key, Field.descriptor, referenceKey, String.length_append] at hlength
  rcases List.mem_append.mp h with h | h
  all_goals
    have hle := Descriptor.length_key_le h
    have harrow : "->".length = 2 := rfl
    omega

theorem MethodReference.key_ne {r : MethodReference} {a : Reference}
    (h : a ∈ r.owner.references ++ r.method.parameters.flatMap Descriptor.references ++
      r.method.returnType.references) : a.key ≠ r.key := by
  intro heq
  have hlength := congrArg String.length heq
  have harrow : "->".length = 2 := rfl
  simp only [key, Method.key, Method.descriptor, referenceKey, String.length_append] at hlength
  rw [List.append_assoc, List.mem_append, List.mem_append, List.mem_flatMap] at h
  rcases h with h | ⟨t,ht,h⟩ | h
  · have hle := Descriptor.length_key_le h
    omega
  · have hle := Descriptor.length_key_le h
    have hjoin := length_le_join (List.mem_map_of_mem (f := Descriptor.raw) ht)
    omega
  · have hle := Descriptor.length_key_le h
    omega

/-! ### Outcomes -/

/-- An outcome that is good if there is one. -/
def Gives {α : Type} (good : α → Prop) (x : Except Diagnostic α) : Prop :=
  ∀ a, x = .ok a → good a

namespace Gives

variable {α β : Type} {good : α → Prop} {good' : β → Prop}

theorem ok {a : α} (h : good a) : Gives good (.ok a) := by
  rintro _ ⟨rfl⟩
  exact h

theorem error (e : Diagnostic) : Gives good (.error e) := fun _ h => by cases h

theorem self {x : Except Diagnostic α} : Gives (fun a => x = .ok a) x := fun _ h => h

theorem bind {x : Except Diagnostic α} {f : α → Except Diagnostic β} (hx : Gives good x)
    (hf : ∀ a, good a → Gives good' (f a)) : Gives good' (x >>= f) := by
  cases x with
  | error e => exact .error e
  | ok a => exact hf a (hx a rfl)

theorem always {x : Except Diagnostic α} {f : α → Except Diagnostic β}
    (h : ∀ a, Gives good' (f a)) : Gives good' (x >>= f) :=
  self.bind fun a _ => h a

end Gives

/-! ### Instructions -/

/-- The text goes on with what may be a class or an array of one. -/
def OpensType (cs : List Char) : Prop := cs.head? = some '[' ∨ cs.head? = some 'L'

instance (cs : List Char) : Decidable (OpensType cs) := inferInstanceAs (Decidable (_ ∨ _))

/-- In front of a line of a method, behind references that were read. The last of them may be in the
line itself, which then starts with it. -/
structure Cursor.Before (d : Document) (rs : List Reference) (c : Cursor) : Prop where
  on : c.On d
  opens : c.OpensLine d
  laid : Laid d rs c.offset ∨
    OpensType c.skipSpace.rest ∧ Laid d rs c.skipSpace.skipLine.offset

theorem Cursor.Past.before_skipLine {c c' : Cursor} (h : c'.Past d rs) (hc : c.On d)
    (hle : c'.offset ≤ c.skipLine.offset) : c.skipLine.Before d rs :=
  ⟨hc.reaches (.skipLine c),hc.opensLine_skipLine,.inl (h.laid.mono hle)⟩

namespace Instruction

variable {c c' : Cursor}

theorem opensType_append {xs ys : List Char} (hne : xs ≠ []) :
    OpensType (xs ++ ys) ↔ OpensType xs := by
  cases xs with
  | nil => exact absurd rfl hne
  | cons x xs => exact Iff.rfl

theorem expect?_of_opensType {literal : String} (hne : literal.toList ≠ [])
    (hliteral : ¬OpensType literal.toList) (h : OpensType c.skipSpace.rest) :
    c.expect? literal = none := by
  refine Option.eq_none_iff_forall_ne_some.mpr fun c' hc' => ?_
  obtain ⟨r,hr,_⟩ := Cursor.literal?_eq_some hc'
  rw [hr] at h
  exact hliteral ((opensType_append hne).mp h)

theorem references_of_opensType (h : OpensType c.skipSpace.rest) : references c = .ok [] := by
  have hopcodes : ∀ op ∈ callOpcode :: fieldOpcodes ++ typeOpcodes,
      op.toList ≠ [] ∧ ¬OpensType op.toList := by decide
  have hnone : ∀ op ∈ callOpcode :: fieldOpcodes ++ typeOpcodes, c.expect? op = none :=
    fun op hop => expect?_of_opensType (hopcodes op hop).1 (hopcodes op hop).2 h
  have hfield : fieldOpcodes.any (fun op => (c.expect? op).isSome) = false := by
    refine List.any_eq_false.mpr fun op hop => ?_
    simp [hnone op (by simp [hop])]
  have htype : typeOpcodes.find? (c.peekToken.text == ·) = none := by
    refine List.find?_eq_none.mpr fun op hop heq => ?_
    have htoken : c.peekToken.text.toList <+: c.skipSpace.rest := by
      simpa [Cursor.peekToken, Cursor.readToken, Cursor.token] using List.take_prefix _ _
    rw [eq_of_beq heq] at htoken
    obtain ⟨r,hr⟩ := htoken
    obtain ⟨hne,hnot⟩ := hopcodes op (by simp [hop])
    rw [← hr] at h
    exact hnot ((opensType_append hne).mp h)
  unfold references
  simp [hfield, hnone callOpcode (by simp), htype]

theorem inline_expect? {op : String} (hop : op ∈ typeOpcodes) (hspace : c.skipSpace = c)
    (h : c.expect? op = some c') : c.Inline c' := by
  have hall : ∀ op ∈ typeOpcodes, '\n' ∉ op.toList := by decide
  unfold Cursor.expect? at h
  rw [hspace] at h
  obtain ⟨r,hrest,rfl⟩ := Cursor.literal?_eq_some h
  exact .of_rest hrest (hall op hop)

theorem inline_lastOperand? (h : lastOperand? c = some c') : c.Inline c' := by
  unfold lastOperand? at h
  dsimp only at h
  split at h
  · cases h
    refine c.inline_skipInlineSpace.trans (.advance ?_)
    have hlength := (prefix_of_dropEndWhile isBlank
      (c.skipInlineSpace.rest.takeWhile (· ≠ '\n'))).length_le
    exact Nat.le_trans (Nat.sub_le _ _) hlength
  · cases h

/-- A member that is found in the line of the cursor is recorded behind the classes of its types. -/
theorem before_of_finds {before key : List Char} {cs : List Reference} (hon : c.On d)
    (h : Laid d rs (d.lineStart c.line)) (hfinds : c'.Finds d c.line before key)
    (hkey : IsReferenceKey key)
    (hcs : c'.Past d rs → (c'.advance key.length).Past d (rs ++ cs))
    (hne : ∀ a ∈ cs, a.key ≠ String.ofList key) :
    c.skipLine.Before d
      (rs ++ (cs ++ [⟨String.ofList key,c'.spanTo (c'.advance key.length)⟩])) := by
  obtain ⟨hat,⟨r,hrest⟩,hstart,hstop,hshows⟩ := hfinds
  have hpast : c'.Past d rs := ⟨⟨before,hat⟩,h.mono (by rw [hat.offset]; exact hstart)⟩
  have hall := hpast.concat (hcs hpast) hkey hne hat hshows
  rw [List.append_assoc] at hall
  have hbehind := (hat.advance key.length).offset
  rw [Cursor.take_length_rest hrest] at hbehind
  exact hall.before_skipLine hon (by rw [hbehind]; exact Nat.le_trans hstop hon.lineStop_le)

/-- What a pattern finds in the line of the cursor is read at its place, and recorded so. -/
theorem exists_before_of_findFirst? {α : Type} {reader : Reader α} {span : α → Span}
    {types : α → List Reference} {p : Pattern} {kind : List Char → Prop} {m : Match} (hon : c.On d)
    (h : Laid d rs (d.lineStart c.line)) (hp : p.Takes kind)
    (hkind : ∀ key, kind key → IsReferenceKey key)
    (hread : ∀ (c' : Cursor) (key r : List Char), kind key → c'.rest = key ++ r →
      ∃ x, reader.read c' = (.ok x,c'.advance key.length) ∧
        span x = c'.spanTo (c'.advance key.length) ∧
        (c'.Past d rs → (c'.advance key.length).Past d (rs ++ types x)) ∧
        ∀ a ∈ types x, a.key ≠ String.ofList key)
    (hm : p.findFirst? (d.lineText c.line) = some m) :
    ∃ x, reader.value (.atPosition d ⟨c.line,m.start⟩) = .ok x ∧
      c.skipLine.Before d (rs ++ (types x ++ [⟨m.text,span x⟩])) := by
  obtain ⟨hkey,before,hfinds⟩ := Cursor.finds_of_findFirst? hp hkind hm
  obtain ⟨r,hrest⟩ := hfinds.rest
  obtain ⟨x,hx,hspan,htypes,hne⟩ := hread _ _ r hkey hrest
  refine ⟨x,by rw [Reader.value, hx],?_⟩
  rw [hspan]
  exact before_of_finds hon h hfinds (hkind _ hkey) htypes hne

theorem opensType_of_between {n : ClassName} {k : Nat} (hn : n.Between (c.advance k) c')
    (hrest : c.rest = List.replicate k '[' ++ (c.advance k).rest) : OpensType c.rest := by
  obtain ⟨body,_,_,hbody⟩ := hn.isKey
  rw [hrest, hn.rest, hbody]
  cases k with
  | zero => exact .inr rfl
  | succ k => exact .inl rfl

theorem inline_of_between {n : ClassName} {k : Nat} (hn : n.Between (c.advance k) c')
    (hrest : c.rest = List.replicate k '[' ++ (c.advance k).rest) : c.Inline c' := by
  refine Cursor.Inline.trans ?_ ⟨_,hn.rest,hn.isKey.not_mem,hn.after⟩
  refine ⟨List.replicate k '[',hrest,fun hmem => ?_,by rw [List.length_replicate]⟩
  exact absurd (List.eq_of_mem_replicate hmem) (by decide)

/-- The type is read in the line, or from the next line, which then starts with it. -/
theorem before_of_operand {t : Descriptor} {after : Cursor} (h : c.Past d rs) (hc : c.Inline c')
    (hread : Descriptor.reader.read c' = (.ok t,after)) :
    c.skipLine.Before d (rs ++ t.references) := by
  have hafter := Descriptor.past_of_read hread (h.reaches hc.reaches)
  rcases Descriptor.read_cases hread with ⟨_,hnone⟩ | ⟨n,k,_,hdims,hbetween⟩
  · rw [hnone, List.append_nil]
    exact h.before_skipLine h.on (Cursor.Reaches.skipLine c).offset_le
  · have htype := inline_of_between hbetween hdims
    rcases c'.skipSpace_cases with hspace | hspace
    · exact hafter.before_skipLine h.on ((hc.trans hspace).trans htype).offset_le_skipLine
    · -- the operands of the line end with its last comma
      rw [hc.skipLine_eq] at hspace
      refine ⟨h.on.reaches (.skipLine c),h.on.opensLine_skipLine,.inr ⟨?_,?_⟩⟩
      · rw [← hspace]
        exact opensType_of_between hbetween hdims
      · rw [← hspace]
        exact hafter.laid.mono htype.offset_le_skipLine

/-- What an instruction names can be read. It stands behind what was read before its line, and in
front of the next one but for a type that the next one starts with. -/
theorem exists_references (hon : c.On d) (hspace : c.skipSpace = c)
    (h : Laid d rs (d.lineStart c.line)) :
    ∃ here, references c = .ok here ∧ c.skipLine.Before d (rs ++ here) := by
  have hpast : c.Past d rs := ⟨hon,h.mono hon.lineStart_le⟩
  have hnothing : c.skipLine.Before d (rs ++ []) := by
    rw [List.append_nil]
    exact hpast.before_skipLine hon (Cursor.Reaches.skipLine c).offset_le
  unfold references
  dsimp only
  rw [hon.document]
  split
  · split
    · exact ⟨_,rfl,hnothing⟩
    · next m hm =>
      obtain ⟨x,hvalue,hbefore⟩ := exists_before_of_findFirst? hon h Pattern.takes_fieldReference
        (fun _ hkey => .inr (.inl hkey)) (fun c' key r hkey hrest => by
          obtain ⟨x,hread,hspan,hx⟩ := FieldReference.read_of_isFieldReference hkey hrest
          exact ⟨x,hread,hspan,FieldReference.known_of_read (Cursor.keeps_past d) hread,
            fun a ha => hx ▸ x.key_ne ha⟩) hm
      rw [hvalue]
      exact ⟨_,rfl,hbefore⟩
  · split
    · split
      · exact ⟨_,rfl,hnothing⟩
      · next m hm =>
        obtain ⟨x,hvalue,hbefore⟩ := exists_before_of_findFirst? hon h Pattern.takes_methodReference
          (fun _ hkey => .inr (.inr hkey)) (fun c' key r hkey hrest => by
            obtain ⟨x,hread,hspan,hx⟩ := MethodReference.read_of_isMethodReference hkey hrest
            exact ⟨x,hread,hspan,MethodReference.known_of_read (Cursor.keeps_past d) hread,
              fun a ha => hx ▸ x.key_ne ha⟩) hm
        rw [hvalue]
        exact ⟨_,rfl,hbefore⟩
    · split
      · exact ⟨_,rfl,hnothing⟩
      · next op hop =>
        split
        · exact ⟨_,rfl,hnothing⟩
        · next operand hoperand =>
          obtain ⟨after,hafter,hlast⟩ := Option.bind_eq_some_iff.mp hoperand
          have hinline : c.Inline operand :=
            (inline_expect? (List.mem_of_find?_eq_some hop) hspace hafter).trans
              (inline_lastOperand? hlast)
          split
          · next t ht =>
            exact ⟨_,rfl,before_of_operand hpast hinline (Prod.ext ht rfl)⟩
          · exact ⟨_,rfl,hnothing⟩

end Instruction

/-! ### Whole classes -/

namespace Class

variable {c : Cursor}

theorem gives_expectKeyword (keyword : String) :
    Gives (Cursor.Reaches c) (expectKeyword c keyword) := by
  unfold expectKeyword
  split
  · next hafter => exact .ok (.expect? hafter)
  · exact .error _

theorem gives_of_triple {α : Type} {r : Reader α} {before : Cursor → Prop}
    {after : α → Cursor → Prop} {c' : Cursor} {x : Except Diagnostic α}
    (h : Reader.Triple before r after) (hc : before c) (hr : r.read c = (x,c')) :
    Gives (fun a => after a c') x := by
  rintro a rfl
  exact h c a c' hc hr

/-- What is kept through a whole file: also where the name of the class is passed, which is not
recorded, and in the lines of a method. -/
structure Keeps (known : List Reference → Cursor → Prop) : Prop
    extends SmaliNavigator.Keeps known where
  forget : ∀ {rs c}, known rs c → known [] c
  body : ∀ {rs c line fuel}, known rs c →
    Gives (fun x => known (rs ++ x.1) x.2) (readInstructions line fuel c.skipLine)

theorem gives_readHeader (hk : Keeps known) (h : known [] c) :
    Gives (fun x => known x.1.superclass.references x.2) (readHeader c) := by
  have hrecords (rs : List Reference) :
      Reader.Triple (known rs) Descriptor.reader fun t => known (rs ++ t.references) :=
    Descriptor.records_reader hk.toKeeps
  unfold readHeader
  refine .bind (gives_expectKeyword ".class") fun c₁ hc₁ => ?_
  have hmodifiers := hk.reaches (hk.reaches h hc₁) (Modifier.reaches_readAll c₁)
  rcases hm : Modifier.readAll c₁ with ⟨modifiers,c₂⟩
  rw [hm] at hmodifiers
  dsimp only at hmodifiers ⊢
  rcases hd : Descriptor.reader.read c₂ with ⟨named,c₃⟩
  refine .bind (gives_of_triple (hrecords []) hmodifiers hd) fun type hc₃ => ?_
  cases type.asClass? with
  | none => exact .error _
  | some name =>
    simp only [pure_bind]
    refine .bind (gives_expectKeyword ".super") fun c₄ hc₄ => ?_
    have hsuper := hk.reaches (hk.forget hc₃) hc₄
    rcases hd : Descriptor.reader.read c₄ with ⟨extended,c₅⟩
    refine .bind (gives_of_triple (hrecords []) hsuper hd) fun superclass hc₅ => ?_
    dsimp only
    split
    · exact .ok hc₅
    · next after hafter =>
      exact .ok (hk.reaches hc₅ ((Cursor.Reaches.expect? hafter).trans (.readRestOfLine after)))

theorem gives_skipBlock (line fuel : Nat) : Gives (Cursor.Reaches c) (skipBlock line fuel c) := by
  induction fuel generalizing c with
  | zero => exact .error _
  | succ fuel ih =>
    simp only [skipBlock]
    split
    · next hafter => exact .ok (.expect? hafter)
    · split
      · exact .error _
      · exact fun a ha => (Cursor.Reaches.skipLine c).trans (ih a ha)

/-- One line after the other. A line that starts with a type that was read ahead has nothing to
add, and behind it all is as before. -/
theorem gives_readInstructions (line fuel : Nat) (h : c.Before d rs) :
    Gives (fun x => x.2.Past d (rs ++ x.1)) (readInstructions line fuel c) := by
  induction fuel generalizing c rs with
  | zero => exact .error _
  | succ fuel ih =>
    obtain ⟨hon,hopens,hlaid⟩ := h
    have hspace := hon.reaches (.skipSpace c)
    simp only [readInstructions]
    split
    · exact .error _
    · next hmore =>
      have hne : c.skipSpace.rest ≠ [] := fun hnil => hmore (by simp [Cursor.atEnd, hnil])
      rcases hlaid with hlaid | ⟨htype,hlaid⟩
      · split
        · next after hafter =>
          have hreach := (Cursor.Reaches.skipSpace c).trans (.expect? hafter)
          exact .ok (by simpa using (⟨hon,hlaid⟩ : c.Past d rs).reaches hreach)
        · have hline := hopens.offset_le_lineStart hon (.skipSpace c) hne
          obtain ⟨here,hread,hhere⟩ :=
            Instruction.exists_references hspace c.skipSpace_skipSpace (hlaid.mono hline)
          rw [hread]
          refine Gives.bind (.ok rfl : Gives (· = here) _) fun _ hsame => ?_
          rw [hsame]
          refine .bind (ih hhere) fun x hx => .ok ?_
          simpa using hx
      · rw [← c.skipSpace_skipSpace] at htype
        rw [Instruction.expect?_of_opensType (by decide) (by decide) htype,
          Instruction.references_of_opensType htype]
        have hnext : c.skipSpace.skipLine.Before d rs :=
          ⟨hspace.reaches (.skipLine _),hspace.opensLine_skipLine,.inl hlaid⟩
        refine .bind (.ok rfl : Gives (· = []) _) fun here hhere => ?_
        refine .bind (ih hnext) fun x hx => .ok ?_
        simpa [hhere] using hx

theorem keeps_past (d : Document) : Keeps (Cursor.Past d) where
  toKeeps := Cursor.keeps_past d
  forget := Cursor.Past.forget
  body h := gives_readInstructions _ _
    (h.before_skipLine h.on (Cursor.Reaches.skipLine _).offset_le)

theorem gives_readMethod (hk : Keeps known) (line : Nat) (h : known rs c) :
    Gives (fun x => known (rs ++ x.1.references) x.2) (readMethod line c) := by
  unfold readMethod
  rcases hd : Method.reader.read c with ⟨signature,c₁⟩
  refine .bind (gives_of_triple (Method.records_reader hk.toKeeps) h hd) fun m hm => ?_
  refine .bind (hk.body hm) fun x hx => .ok ?_
  simpa [BodyItem.references] using hx

theorem gives_readItem (hk : Keeps known) (keyword : Token) (h : known rs c) :
    Gives (fun x => known (rs ++ x.1.toList.flatMap BodyItem.references) x.2)
      (readItem keyword c) := by
  unfold readItem
  split
  · rcases hd : Descriptor.reader.read c with ⟨type,c₁⟩
    refine .bind (gives_of_triple (Descriptor.records_reader hk.toKeeps) h hd) fun t ht => .ok ?_
    simpa [BodyItem.references] using ht
  · refine .bind (gives_skipBlock _ _) fun c₁ hc₁ => .ok ?_
    simpa using hk.reaches h hc₁
  · rcases hd : Field.reader.read c with ⟨field,c₁⟩
    refine .bind (gives_of_triple (Field.records_reader hk.toKeeps) h hd) fun f hf => .ok ?_
    simpa [BodyItem.references] using hf
  · refine .bind (gives_readMethod hk _ h) fun x hx => .ok ?_
    simpa using hx
  · exact .ok (by simpa using hk.reaches h (.skipLine c))

theorem gives_readItems (hk : Keeps known) (fuel : Nat) (h : known rs c) :
    Gives (fun items => ∃ c', known (rs ++ items.flatMap BodyItem.references) c')
      (readItems fuel c) := by
  induction fuel generalizing c rs with
  | zero => exact .ok ⟨c,by simpa using h⟩
  | succ fuel ih =>
    simp only [readItems]
    split
    · exact .ok ⟨c,by simpa using h⟩
    · refine .bind (gives_readItem hk _ (hk.reaches h (.readToken c))) fun x hx => ?_
      refine .bind (ih hx) fun items hitems => .ok ?_
      simpa using hitems

/-- The spans under a key are those of the references that have the key, in their order. -/
theorem getD_indexReferences (rs : List Reference) (key : String) :
    ((indexReferences rs).get? key).getD [] = (rs.filter (·.key == key)).map (·.span) := by
  have hfold (rs : List Reference) (m : OrdMap String (List Span)) :
      ((rs.foldl (fun m r =>
        m.insert r.key ((m.get? r.key).getD [] ++ [r.span])) m).get? key).getD [] =
      (m.get? key).getD [] ++ (rs.filter (·.key == key)).map (·.span) := by
    induction rs generalizing m with
    | nil => simp
    | cons r rs ih =>
      rw [List.foldl_cons, ih, OrdMap.get?_insert, List.filter_cons]
      split
      · next hkey =>
        obtain rfl := Std.LawfulEqOrd.eq_of_compare hkey
        simp
      · next hkey =>
        have hne : (r.key == key) = false := by
          refine beq_eq_false_iff_ne.mpr fun heq => hkey ?_
          rw [heq]
          exact Std.ReflCmp.compare_self
        simp [hne]
  rw [indexReferences, hfold]
  simp [OrdMap.get?_empty]

theorem exists_known (hk : Keeps known) (hstart : known [] (.start d)) {c : Class}
    (h : ofDocument d = .ok c) : c.document = d ∧ ∃ rs c', known rs c' ∧
      ∀ key, c.referencesTo key = (rs.filter (·.key == key)).map (·.span) := by
  have hall : Gives (fun c : Class => c.document = d ∧ ∃ rs c', known rs c' ∧
      ∀ key, c.referencesTo key = (rs.filter (·.key == key)).map (·.span)) (ofDocument d) := by
    unfold ofDocument
    refine .bind (gives_readHeader hk hstart) fun x hx => ?_
    refine .bind (gives_readItems hk _ hx) fun items ⟨c',hitems⟩ => .ok ⟨rfl,_,c',hitems,?_⟩
    exact fun key => getD_indexReferences _ key
  exact hall c h

theorem exists_laid {c : Class} (h : ofDocument d = .ok c) : c.document = d ∧
    ∃ rs offset, Laid d rs offset ∧
      ∀ key, c.referencesTo key = (rs.filter (·.key == key)).map (·.span) := by
  obtain ⟨hd,rs,c',hpast,hall⟩ := exists_known (keeps_past d) (.start d) h
  exact ⟨hd,rs,_,hpast.laid,hall⟩

theorem document_of_ofDocument {c : Class} (h : ofDocument d = .ok c) : c.document = d :=
  (exists_laid h).1

theorem mem_of_mem_referencesTo {c : Class} {key : String} {span : Span}
    (h : c.referencesTo key = (rs.filter (·.key == key)).map (·.span))
    (hspan : span ∈ c.referencesTo key) : (⟨key,span⟩ : Reference) ∈ rs := by
  rw [h] at hspan
  obtain ⟨r,hr,rfl⟩ := List.mem_map.mp hspan
  obtain ⟨hmem,hkey⟩ := List.mem_filter.mp hr
  obtain rfl := eq_of_beq hkey
  exact hmem

theorem isIn_of_mem_referencesTo {c : Class} (h : ofDocument d = .ok c) {key : String} {span : Span}
    (hspan : span ∈ c.referencesTo key) : (⟨key,span⟩ : Reference).IsIn d := by
  obtain ⟨_,rs,_,hlaid,hall⟩ := exists_laid h
  exact hlaid.isIn _ (mem_of_mem_referencesTo (hall key) hspan)

theorem exists_entry_of_mem_referencesTo {c : Class} {key : String} {span : Span}
    (h : span ∈ c.referencesTo key) : ∃ spans, (key,spans) ∈ c.references.entries ∧ span ∈ spans := by
  unfold referencesTo at h
  cases hspans : c.references.get? key with
  | none => simp [hspans] at h
  | some spans =>
    rw [hspans] at h
    exact ⟨spans,(c.references.get?_eq_some_iff key spans).mp hspans,h⟩

theorem isReferenceKey_of_mem_referencesTo {c : Class} (h : ofDocument d = .ok c) {key : String}
    {span : Span} (hspan : span ∈ c.referencesTo key) : IsReferenceKey key.toList := by
  obtain ⟨_,rs,_,hlaid,hall⟩ := exists_laid h
  exact hlaid.isKey _ (mem_of_mem_referencesTo (hall key) hspan)

end Class

end SmaliNavigator
