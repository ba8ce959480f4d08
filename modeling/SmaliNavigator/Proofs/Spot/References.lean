import SmaliNavigator.Proofs.Spot.Declarations

/-!
Member references asked for by their places. The reader of a file takes the first match of the line of
an instruction, the question for a place the match that covers the place. Inside of what was recorded
that is the same match, and so the same reference is read.

Apart from the names of classes nothing else is recorded, which is kept through a file.
-/

set_option autoImplicit false

namespace SmaliNavigator

open Text

variable {d : Document}

/-! ### Kinds of keys -/

theorem IsClassKey.not_mem_dropLast {key : List Char} (h : IsClassKey key) : ';' ∉ key.dropLast := by
  obtain ⟨n,_,hn,rfl⟩ := h
  rw [← List.cons_append, List.dropLast_concat, List.mem_cons, not_or]
  exact ⟨by decide,fun hmem => (hn ';' hmem).1 rfl⟩

theorem TypeShape.IsOwner.mem_dropLast {t : TypeShape} (h : t.IsOwner) {xs : List Char}
    (hne : xs ≠ []) : ';' ∈ (t.chars ++ xs).dropLast := by
  obtain ⟨_,n,hn⟩ := h
  rw [List.dropLast_append_of_ne_nil hne, TypeShape.chars_eq, hn,
    ElementShape.toList_raw_object]
  simp

theorem IsFieldReference.not_isClassKey {key : List Char} (h : IsFieldReference key) :
    ¬IsClassKey key := by
  intro hclass
  obtain ⟨owner,type,name,howner,_,_,rfl⟩ := h
  rw [List.append_assoc, List.append_assoc] at hclass
  exact hclass.not_mem_dropLast (howner.mem_dropLast (by simp))

theorem IsMethodReference.not_isClassKey {key : List Char} (h : IsMethodReference key) :
    ¬IsClassKey key := by
  intro hclass
  obtain ⟨owner,returned,ts,name,howner,_,_,_,rfl⟩ := h
  rw [List.append_assoc, List.append_assoc] at hclass
  exact hclass.not_mem_dropLast (howner.mem_dropLast (by simp))

theorem IsFieldReference.not_isMethodReference {key : List Char} (h : IsFieldReference key) :
    ¬IsMethodReference key := by
  obtain ⟨owner,type,name,howner,htype,hname,rfl⟩ := h
  have hnone : '(' ∉ owner.chars ++ "->".toList ++ name ++ ':' :: type.chars := by
    simp only [List.mem_append, List.mem_cons, not_or]
    refine ⟨⟨⟨howner.1.not_mem_chars (by decide),by decide⟩,fun hmem => ?_⟩,by decide,
      htype.not_mem_chars (by decide)⟩
    exact absurd (hname.2 '(' hmem) (by decide)
  rintro ⟨_,_,_,_,_,_,_,_,hkey⟩
  rw [hkey] at hnone
  simp at hnone

/-! ### The match at a place -/

namespace Pattern

theorem stop_of_mem_findFrom {p : Pattern} {skip col : Nat} {cs : List Char} {m : Match}
    (h : m ∈ p.findFrom skip col cs) : m.stop = m.start + byteCount m.chars := by
  induction cs generalizing skip col with
  | nil => simp [findFrom] at h
  | cons c cs ih =>
    unfold findFrom at h
    split at h
    · exact ih h
    · split at h
      · exact ih h
      · rcases List.mem_cons.mp h with rfl | h
        · rfl
        · exact ih h

theorem stop_of_findFirst? {p : Pattern} {cs : List Char} {m : Match}
    (h : p.findFirst? cs = some m) : m.stop = m.start + byteCount m.chars :=
  stop_of_mem_findFrom (List.mem_of_mem_head? h)

theorem matchAt?_of_findFirst? {p : Pattern} {cs : List Char} {m : Match} {col : Nat}
    (h : p.findFirst? cs = some m) (hm : m.covers col = true) : p.matchAt? cs col = some m := by
  obtain ⟨ms,hms⟩ := List.head?_eq_some_iff.mp h
  rw [matchAt?, hms, List.find?_cons]
  simp only [hm]

end Pattern

theorem Span.covers_within {line start stop : Nat} {q : Position} :
    (within line start stop).covers q = true ↔ q.line = line ∧ start ≤ q.col ∧ q.col < stop := by
  simp only [covers, within, Bool.and_eq_true, decide_eq_true_eq, Position.le_def, Position.lt_def]
  omega

/-! ### What is read from the first match of a line -/

/-- What a reader makes of the texts of a kind: it takes up such a text and nothing more, and gives a
value with that key and that place. -/
def Reader.Reads {α : Type} (r : Reader α) (kind : List Char → Prop) (key : α → String)
    (span : α → Span) : Prop :=
  ∀ {c : Cursor} {text rest : List Char}, kind text → c.rest = text ++ rest →
    ∃ x, r.read c = (.ok x,c.advance text.length) ∧
      span x = c.spanTo (c.advance text.length) ∧ key x = String.ofList text

/-- A reference is to what is read from the first match of a line. -/
def Reference.IsFirst {α : Type} (d : Document) (p : Pattern) (r : Reader α) (span : α → Span)
    (a : Reference) : Prop :=
  ∃ line m x, p.findFirst? (d.lineText line) = some m ∧
    r.value (.atPosition d ⟨line,m.start⟩) = .ok x ∧ a = ⟨m.text,span x⟩

namespace Reference.IsFirst

variable {α : Type} {p : Pattern} {kind : List Char → Prop} {r : Reader α} {key : α → String}
  {span : α → Span} {a : Reference}

theorem isKind (h : a.IsFirst d p r span) (hp : p.Takes kind) : kind a.key.toList := by
  obtain ⟨line,m,x,hm,_,rfl⟩ := h
  obtain ⟨_,_,_,hkind,_⟩ := hp.of_findFirst? hm
  simpa [Match.text] using hkind

/-- Inside of its place the same match is found, and the same reference is read. -/
theorem exists_found (h : a.IsFirst d p r span) (hp : p.Takes kind) (hr : r.Reads kind key span)
    (hfeed : ∀ text, kind text → '\n' ∉ text) :
    ∃ x, key x = a.key ∧ span x = a.span ∧ ∀ q : Position, a.span.covers q = true →
      ((p.matchAt? (d.lineText q.line) q.col).bind fun m => d.valueAt? r q.line m.start) =
        some x := by
  obtain ⟨line,m,x,hm,hx,rfl⟩ := h
  obtain ⟨l,pre,post,returns,more,hl,hcontent,htail,hline,hkind,hstart,_⟩ := hp.exists_content hm
  rw [hcontent, List.append_assoc, List.append_assoc] at htail
  have hpre : '\n' ∉ pre := fun hmem => hline (by simp [hcontent, hmem])
  obtain ⟨before,hchars,_,_,hat,hrest⟩ := Cursor.at_atPosition hl htail hpre
  have hposition := Cursor.position_atPosition hl htail hpre
  rw [← hstart] at hat hrest hposition
  generalize hc : Cursor.atPosition d ⟨line,m.start⟩ = c at *
  obtain ⟨y,hread,hspan,hkey⟩ := hr hkind hrest
  obtain rfl : x = y := by
    rw [Reader.value, hread] at hx
    exact (Except.ok.inj hx).symm
  have hstop : (c.advance m.chars.length).position = ⟨line,m.stop⟩ := by
    rw [hat.position_advance hrest (hfeed _ hkind), hposition, Pattern.stop_of_findFirst? hm]
    rfl
  have hplace : span x = .within line m.start m.stop := by
    rw [hspan, Cursor.spanTo, hposition, hstop]
    rfl
  refine ⟨x,hkey,rfl,fun q hq => ?_⟩
  rw [hplace, Span.covers_within] at hq
  obtain ⟨rfl,hcol⟩ := hq
  have hcovers : m.covers q.col = true := by simpa [Match.covers] using hcol
  rw [Pattern.matchAt?_of_findFirst? hm hcovers, Option.bind_some, Document.valueAt?, hc, hx]
  rfl

end Reference.IsFirst

/-! ### What a file records -/

/-- A reference is to a class, or to the member that the first match of a line gives. -/
def Reference.IsSourced (d : Document) (a : Reference) : Prop :=
  IsClassKey a.key.toList ∨
  a.IsFirst d .fieldReference FieldReference.reader (·.field.span) ∨
  a.IsFirst d .methodReference MethodReference.reader (·.method.span)

/-- The cursor is in a document behind references that were read from it. -/
structure Cursor.Sourced (d : Document) (rs : List Reference) (c : Cursor) : Prop where
  document : c.document = d
  sourced : ∀ a ∈ rs, a.IsSourced d

variable {rs : List Reference}

namespace Cursor.Sourced

variable {c c' : Cursor}

theorem reaches (h : c.Sourced d rs) (hr : c.Reaches c') : c'.Sourced d rs := by
  obtain ⟨n,rfl⟩ := hr
  exact ⟨h.document,h.sourced⟩

theorem append {as : List Reference} (h : c.Sourced d rs) (has : ∀ a ∈ as, a.IsSourced d) :
    c.Sourced d (rs ++ as) :=
  ⟨h.document,List.forall_mem_append.mpr ⟨h.sourced,has⟩⟩

theorem of_read {t : Descriptor} (h : c.Sourced d rs)
    (hread : Descriptor.reader.read c = (.ok t,c')) : c'.Sourced d (rs ++ t.references) := by
  rcases Descriptor.read_cases hread with ⟨hreach,hnone⟩ | ⟨n,k,hn,_,hbetween⟩
  · rw [hnone, List.append_nil]
    exact h.reaches hreach
  · have hafter := h.reaches ((Reaches.skipSpace c).trans (.advance _ k))
    rw [hn, hbetween.after]
    refine (hafter.reaches (.advance _ _)).append fun a ha => ?_
    rw [List.mem_singleton.mp ha]
    exact .inl hbetween.isKey

theorem keeps (d : Document) : Keeps (Cursor.Sourced d) := ⟨reaches,of_read⟩

end Cursor.Sourced

theorem Cursor.document_atPosition (d : Document) (p : Position) :
    (atPosition d p).document = d := by
  unfold atPosition
  split <;> rfl

namespace Instruction

variable {c c' : Cursor}

theorem sourced_references (hc : c.document = d) :
    Gives (fun as => ∀ a ∈ as, a.IsSourced d) (references c) := by
  have hnothing : Gives (fun as : List Reference => ∀ a ∈ as, a.IsSourced d) (.ok []) :=
    .ok (by simp)
  have hstart (p : Position) : (Cursor.atPosition d p).Sourced d [] :=
    ⟨Cursor.document_atPosition d p,by simp⟩
  unfold references
  dsimp only
  rw [hc]
  split
  · split
    · exact hnothing
    · next m hm =>
      refine Gives.self.bind fun r hr => .ok (List.forall_mem_append.mpr ⟨?_,?_⟩)
      · exact (FieldReference.known_of_read (Cursor.Sourced.keeps d) (Prod.ext hr rfl)
          (hstart ⟨c.line,m.start⟩)).sourced
      · exact List.forall_mem_singleton.mpr (.inr (.inl ⟨c.line,m,r,hm,hr,rfl⟩))
  · split
    · split
      · exact hnothing
      · next m hm =>
        refine Gives.self.bind fun r hr => .ok (List.forall_mem_append.mpr ⟨?_,?_⟩)
        · exact (MethodReference.known_of_read (Cursor.Sourced.keeps d) (Prod.ext hr rfl)
            (hstart ⟨c.line,m.start⟩)).sourced
        · exact List.forall_mem_singleton.mpr (.inr (.inr ⟨c.line,m,r,hm,hr,rfl⟩))
    · split
      · exact hnothing
      · next op hop =>
        split
        · exact hnothing
        · next operand hoperand =>
          obtain ⟨after,hafter,hlast⟩ := Option.bind_eq_some_iff.mp hoperand
          have hreach := (Cursor.Reaches.expect? hafter).trans (inline_lastOperand? hlast).reaches
          split
          · next t ht =>
            have hoperand : c.Sourced d [] := ⟨hc,by simp⟩
            exact .ok ((hoperand.reaches hreach).of_read (Prod.ext ht rfl)).sourced
          · exact hnothing

end Instruction

namespace Class

variable {c : Cursor}

theorem sourced_readInstructions (line fuel : Nat) (h : c.Sourced d rs) :
    Gives (fun x => x.2.Sourced d (rs ++ x.1)) (readInstructions line fuel c) := by
  induction fuel generalizing c rs with
  | zero => exact .error _
  | succ fuel ih =>
    have hspace := h.reaches (.skipSpace c)
    simp only [readInstructions]
    split
    · exact .error _
    · split
      · next after hafter => exact .ok (by simpa using hspace.reaches (.expect? hafter))
      · refine .bind (Instruction.sourced_references hspace.document) fun here hhere => ?_
        refine .bind (ih ((hspace.append hhere).reaches (.skipLine _))) fun x hx => .ok ?_
        simpa using hx

theorem keeps_sourced (d : Document) : Keeps (Cursor.Sourced d) where
  toKeeps := Cursor.Sourced.keeps d
  forget h := ⟨h.document,by simp⟩
  body h := sourced_readInstructions _ _ (h.reaches (.skipLine _))

theorem isSourced_of_mem_referencesTo {c : Class} (h : ofDocument d = .ok c) {key : String}
    {s : Span} (hs : s ∈ c.referencesTo key) : (⟨key,s⟩ : Reference).IsSourced d := by
  obtain ⟨_,rs,_,hsourced,hall⟩ := exists_known (keeps_sourced d) ⟨rfl,by simp⟩ h
  exact hsourced.sourced _ (mem_of_mem_referencesTo (hall key) hs)

theorem exists_fieldReferenceAt? {c : Class} (h : ofDocument d = .ok c) {key : String} {s : Span}
    (hs : s ∈ c.referencesTo key) (hkey : IsFieldReference key.toList) :
    ∃ r, r.key = key ∧ r.field.span = s ∧
      ∀ p : Position, s.covers p = true → d.fieldReferenceAt? p = some r := by
  rcases isSourced_of_mem_referencesTo h hs with hclass | hfirst | hfirst
  · exact absurd hclass hkey.not_isClassKey
  · exact hfirst.exists_found Pattern.takes_fieldReference
      (fun hkind hrest => FieldReference.read_of_isFieldReference hkind hrest) fun _ => (·.not_mem)
  · exact absurd (hfirst.isKind Pattern.takes_methodReference) hkey.not_isMethodReference

theorem exists_methodReferenceAt? {c : Class} (h : ofDocument d = .ok c) {key : String} {s : Span}
    (hs : s ∈ c.referencesTo key) (hkey : IsMethodReference key.toList) :
    ∃ r, r.key = key ∧ r.method.span = s ∧
      ∀ p : Position, s.covers p = true → d.methodReferenceAt? p = some r := by
  rcases isSourced_of_mem_referencesTo h hs with hclass | hfirst | hfirst
  · exact absurd hclass hkey.not_isClassKey
  · exact absurd hkey (hfirst.isKind Pattern.takes_fieldReference).not_isMethodReference
  · exact hfirst.exists_found Pattern.takes_methodReference
      (fun hkind hrest => MethodReference.read_of_isMethodReference hkind hrest) fun _ => (·.not_mem)

/-- A class and the questions for the places of its text agree. The name is the same, with its span.
A field or a method whose keyword is the first token of its line is the one that the line declares,
but for the body of a method. And a member reference that was recorded is found, with its key and its
span, at every place in the span. -/
theorem spots_agree {c : Class} (h : ofDocument d = .ok c) :
    nameOf? d = some c.name ∧
    (∃ header items, keyworded d = .ok (header,items) ∧
      c = assemble d header (items.map Prod.snd) ∧
      ∀ k i, (k,i) ∈ items → k.OpensLine d → ∀ col, AnsweredAt d ⟨k.span.start.line,col⟩ i) ∧
    ∀ key spans, (key,spans) ∈ c.references.entries → ∀ s ∈ spans,
      (IsFieldReference key.toList → ∃ r, r.key = key ∧ r.field.span = s ∧
        ∀ p : Position, s.covers p = true → d.fieldReferenceAt? p = some r) ∧
      (IsMethodReference key.toList → ∃ r, r.key = key ∧ r.method.span = s ∧
        ∀ p : Position, s.covers p = true → d.methodReferenceAt? p = some r) := by
  obtain ⟨⟨header,items⟩,hread,hc⟩ := exists_keyworded h
  refine ⟨?_,⟨header,items,hread,hc,fun k i hi hk col => answeredAt_of_mem hread hi hk col⟩,?_⟩
  · rw [hc]
    exact nameOf?_of_keyworded hread
  · intro key spans hentry s hs
    have hmem : s ∈ c.referencesTo key := by
      rwa [referencesTo, (c.references.get?_eq_some_iff key spans).mpr hentry, Option.getD_some]
    exact ⟨exists_fieldReferenceAt? h hmem,exists_methodReferenceAt? h hmem⟩

/-- A field behind a tab, in a text with carriage returns, and a call whose line names the method a
second time in a comment. -/
theorem spots_agree_call :
    let text := ".class La;\r\n.super Lb;\r\n\t.field é:I\r\n.method c()V\r\n" ++
      " invoke-static {}, La;->c()V # é La;->c()V\r\n.end method\r\n"
    let d := Document.ofString text
    let s := Span.within 4 19 28
    ∃ c, ofDocument d = .ok c ∧ nameOf? d = some c.name ∧
      (∃ f ∈ c.fields, f.name.text = "é" ∧ ∀ col, d.fieldDefinitionAt? ⟨2,col⟩ = some f) ∧
      ∃ r, r.key = "La;->c()V" ∧ r.method.span = s ∧
        ∀ p : Position, s.covers p = true → d.methodReferenceAt? p = some r := by
  intro text d s
  have hentry : (ofDocument d).toOption.any
      (fun c => decide (("La;->c()V",[s]) ∈ c.references.entries)) = true := by decide +kernel
  have hfield : (keyworded d).toOption.any (fun x => x.2.any fun y =>
      decide (y.1.OpensLine d) && y.1.span.start.line == 2 &&
        y.2.field?.any (·.name.text == "é")) = true := by decide +kernel
  have hkey : IsMethodReference "La;->c()V".toList := by
    have hmatch : Pattern.methodReference "La;->c()V".toList = some [] := by decide +kernel
    obtain ⟨key,hkey,heq⟩ := (Pattern.takes_methodReference _ _).mp hmatch
    rwa [heq, List.append_nil]
  cases hc : ofDocument d with
  | error e => simp [hc, Except.toOption] at hentry
  | ok c =>
    rw [hc] at hentry
    obtain ⟨hname,⟨header,items,hread,hassembled,hdeclared⟩,hreferences⟩ := spots_agree hc
    refine ⟨c,rfl,hname,?_,(hreferences _ _ (of_decide_eq_true hentry) s (by simp)).2 hkey⟩
    rw [hread] at hfield
    obtain ⟨⟨k,i⟩,hi,hfield⟩ := List.any_eq_true.mp hfield
    simp only [Bool.and_eq_true, decide_eq_true_eq, beq_iff_eq, Option.any_eq_true] at hfield
    obtain ⟨⟨hk,hline⟩,f,hf,hnamed⟩ := hfield
    obtain rfl : i = .field f := by
      cases i <;> simp_all [BodyItem.field?]
    refine ⟨f,?_,hnamed,fun col => ?_⟩
    · rw [hassembled]
      exact List.mem_filterMap.mpr ⟨.field f,List.mem_map_of_mem hi,rfl⟩
    · have hanswer := hdeclared k (.field f) hi hk col
      rwa [hline] at hanswer

end Class

end SmaliNavigator
