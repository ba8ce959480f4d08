import SmaliNavigator.Proofs.Member.Definition
import SmaliNavigator.Proofs.Member.Identity
import SmaliNavigator.Proofs.Navigation.ExactRename

/-!
Descriptors of members that were read. Behind its keyword the descriptor of such a member is read as the
member again, and so two of them are the same exactly if they have the same descriptor.

A name may have blanks in it, and one of its words may be a modifier. It was read behind all modifiers
of its declaration, so that its first word is none; a name without a blank goes on with its separator,
and then the word is none either.
-/

set_option autoImplicit false

namespace SmaliNavigator

open Text

/-! ### Written members -/

/-- A place that has a text behind it. -/
def Cursor.inFrontOf (r : List Char) : Cursor := ⟨.ofString "",0,r⟩

theorem FieldSketch.render_inj {f g : FieldSketch} (hf : f.IsReadable) (hg : g.IsReadable)
    (h : f.render = g.render) : f = g := by
  have hrest : (Cursor.inFrontOf (' ' :: f.render.toList)).rest = ' ' :: (f.render.toList ++ []) := by
    simp [Cursor.inFrontOf]
  obtain ⟨x,_,hx,hsketch,-⟩ := Field.read_of_render hf hrest (by simp [Stops])
  rw [h] at hrest
  obtain ⟨y,_,hy,hsketch',-⟩ := Field.read_of_render hg hrest (by simp [Stops])
  rw [h, hy] at hx
  obtain ⟨hxy,-⟩ := Prod.mk.inj hx
  rw [← hsketch, ← hsketch', Except.ok.inj hxy]

theorem MethodSketch.render_inj {m n : MethodSketch} (hm : m.IsReadable) (hn : n.IsReadable)
    (h : m.render = n.render) : m = n := by
  have hrest : (Cursor.inFrontOf (' ' :: m.render.toList)).rest = ' ' :: (m.render.toList ++ []) := by
    simp [Cursor.inFrontOf]
  obtain ⟨x,_,hx,hsketch,-⟩ := Method.read_of_render hm hrest
  rw [h] at hrest
  obtain ⟨y,_,hy,hsketch',-⟩ := Method.read_of_render hn hrest
  rw [h, hy] at hx
  obtain ⟨hxy,-⟩ := Prod.mk.inj hx
  rw [← hsketch, ← hsketch', Except.ok.inj hxy]

/-! ### Names -/

namespace Modifier

theorem ofKeyword?_readUpTo {fuel : Nat} {c : Cursor} (h : c.rest.length ≤ fuel) :
    ofKeyword? (readUpTo fuel c).2.peekToken.text = none := by
  induction fuel generalizing c with
  | zero =>
    have hnil : c.rest = [] := List.length_eq_zero_iff.mp (Nat.le_zero.mp h)
    rw [readUpTo, Cursor.peekToken, Cursor.text_readToken_of_nil hnil, ofKeyword?_empty]
  | succ fuel ih =>
    unfold readUpTo
    dsimp only
    split
    · next m hm =>
      have hlt : c.readToken.2.rest.length < c.rest.length :=
        Cursor.length_readToken_lt fun hempty => by
          rw [hempty, ofKeyword?_empty] at hm
          cases hm
      exact ih (by omega)
    · next hnone => exact hnone

theorem ends_of_peekToken {c : Cursor} (hne : c.skipSpace.rest ≠ [])
    (h : ofKeyword? c.peekToken.text = none) : Ends c.skipSpace.rest := by
  obtain ⟨word,ys,hrest,hrun,hword,hstops⟩ := c.skipSpace.exists_run fun x => !isSpace x
  have htext : c.peekToken.text = String.ofList word := by
    change String.ofList (c.skipSpace.rest.take (c.skipSpace.run fun x => !isSpace x)) = _
    rw [hrun, Cursor.take_length_rest hrest]
  refine ⟨word,ys,hrest,?_,fun x hx => by simpa using hword x hx,hstops,fun m hm => ?_⟩
  · rintro rfl
    obtain ⟨y,ys,rfl⟩ := List.exists_cons_of_ne_nil (hrest ▸ hne)
    -- behind white space a word comes next
    have hspace := stops_cons.mp (hrest ▸ c.stops_skipSpace)
    have hword := stops_cons.mp hstops
    simp [hspace] at hword
  · rw [htext, ← hm, String.ofList_toList, ofKeyword?_keyword] at h
    cases h

end Modifier

theorem reads_modifiers :
    Reader.Triple (fun _ => True) (.total Modifier.readAll) fun _ c =>
      Modifier.ofKeyword? c.peekToken.text = none :=
  Reader.triple_total fun _ _ => Modifier.ofKeyword?_readUpTo (Nat.le_refl _)

theorem reads_name {separator : Char} (hseparator : separator = ':' ∨ separator = '(') :
    Reader.Triple (fun c => Modifier.ofKeyword? c.peekToken.text = none) (.tokenUntil separator)
      fun t _ => IsReadableBefore separator t.text := by
  intro c t c' hkeyword hread
  obtain ⟨r,hrest,hnone,hinline,-⟩ := exists_of_tokenUntil hread
  have hends := Modifier.ends_of_peekToken (by simp [hrest]) hkeyword
  rw [hrest] at hends
  refine ⟨fun x hx => ⟨fun heq => hnone (heq ▸ hx),fun heq => hinline (heq ▸ hx)⟩,fun r' => ?_⟩
  refine hends.of_separator ?_ (Modifier.not_mem_keyword ?_) r'
  all_goals rcases hseparator with rfl | rfl <;> decide

theorem Field.isReadableBefore_reader :
    Reader.Triple (fun _ => True) Field.reader fun f _ => IsReadableBefore ':' f.name.text :=
  Reader.triple_keeps.bind fun _ => reads_modifiers.bind fun _ => (reads_name (.inl rfl)).bind fun _ =>
    Reader.triple_keeps.bind fun _ => Reader.triple_keeps.bind fun _ => Reader.triple_pure fun _ h => h

theorem Method.isReadableBefore_reader :
    Reader.Triple (fun _ => True) Method.reader fun m _ => IsReadableBefore '(' m.name.text :=
  Reader.triple_keeps.bind fun _ => reads_modifiers.bind fun _ => (reads_name (.inr rfl)).bind fun _ =>
    Reader.triple_keeps.bind fun _ => Reader.triple_keeps.bind fun _ => Reader.triple_pure fun _ h => h

/-! ### Members that were read -/

theorem Descriptor.gathers_isReadable :
    Gathers fun ts _ => ∀ t ∈ ts, t.shape.IsReadable ∧ t.IsProper where
  reaches h _ := h
  type {ts _ _ t} h hread u hu := by
    rcases List.mem_append.mp hu with hu | hu
    · exact h u hu
    · obtain rfl := List.mem_singleton.mp hu
      exact ⟨isReadable_of_read hread,isProper_of_read hread⟩

/-- Whether the signature of a field can be written and read again. -/
structure Field.IsReadable (f : Field) : Prop where
  signature : f.signature.IsReadable
  type : f.type.IsProper

/-- Whether the signature of a method can be written and read again. -/
structure Method.IsReadable (m : Method) : Prop where
  signature : m.signature.IsReadable
  types : m.IsProper

theorem Field.isReadable_of_name {f : Field} (hname : IsReadableBefore ':' f.name.text)
    (htype : f.type.shape.IsReadable ∧ f.type.IsProper) : f.IsReadable :=
  ⟨⟨hname,htype.1,by simp [Field.signature]⟩,htype.2⟩

theorem Method.isReadable_of_name {m : Method} (hname : IsReadableBefore '(' m.name.text)
    (hparameters : ∀ t ∈ m.parameters, t.shape.IsReadable ∧ t.IsProper)
    (hreturn : m.returnType.shape.IsReadable ∧ m.returnType.IsProper) : m.IsReadable := by
  refine ⟨⟨hname,fun t ht => ?_,hreturn.1⟩,fun t ht => (hparameters t ht).2,hreturn.2⟩
  obtain ⟨u,hu,rfl⟩ := List.mem_map.mp ht
  exact (hparameters u hu).1

section Reading

variable {d : Document} {p : Position} {c c' : Cursor}

theorem Field.isReadable_of_read {f : Field} (h : Field.reader.read c = (.ok f,c')) :
    f.IsReadable := by
  have htypes := @Gathers.field _ [] Descriptor.gathers_isReadable c f c' (by simp) h
  exact isReadable_of_name (isReadableBefore_reader c f c' trivial h) (htypes f.type (by simp))

theorem Method.isReadable_of_read {m : Method} (h : Method.reader.read c = (.ok m,c')) :
    m.IsReadable := by
  have htypes := @Gathers.method _ [] Descriptor.gathers_isReadable c m c' (by simp) h
  exact isReadable_of_name (isReadableBefore_reader c m c' trivial h)
    (fun t ht => htypes t (by simp [ht])) (htypes m.returnType (by simp))

theorem IsEndedBy.isReadable {separator : Char} (hseparator : separator = ':' ∨ separator = '(')
    {name : String} (h : IsEndedBy separator name) (hspace : ∀ x ∈ name.toList, isSpace x = false) :
    IsReadableBefore separator name :=
  IsNameBefore.isReadable hseparator fun x hx => ⟨fun heq => h.1 (heq ▸ hx),hspace x hx⟩

theorem FieldReference.isReadable_of_fieldReferenceAt? {r : FieldReference}
    (h : d.fieldReferenceAt? p = some r) : r.field.IsReadable := by
  obtain ⟨text,rest,c,c',hkind,hrest,hread⟩ :=
    Document.exists_read_of_matchAt? Pattern.takes_fieldReference (fun _ => (·.ne_nil)) h
  obtain ⟨x,hx,-,hkey⟩ := read_of_isFieldReference hkind hrest
  obtain ⟨hxr,-⟩ := Prod.mk.inj (hx.symm.trans hread)
  obtain rfl := Except.ok.inj hxr
  have hspace : ∀ y ∈ x.field.name.text.toList, isSpace y = false := by
    intro y hy
    refine hkind.not_isSpace y ?_
    rw [← String.toList_ofList (l := text), ← hkey]
    simp [key, Field.key, referenceKey, Field.descriptor, hy]
  have htypes := @Gathers.fieldReference _ [] Descriptor.gathers_isReadable c x c' (by simp) hread
  exact Field.isReadable_of_name ((isEndedBy_reader c x c' trivial hread).isReadable (.inl rfl) hspace)
    (htypes x.field.type (by simp))

theorem MethodReference.isReadable_of_methodReferenceAt? {r : MethodReference}
    (h : d.methodReferenceAt? p = some r) : r.method.IsReadable := by
  obtain ⟨text,rest,c,c',hkind,hrest,hread⟩ :=
    Document.exists_read_of_matchAt? Pattern.takes_methodReference (fun _ => (·.ne_nil)) h
  obtain ⟨x,hx,-,hkey⟩ := read_of_isMethodReference hkind hrest
  obtain ⟨hxr,-⟩ := Prod.mk.inj (hx.symm.trans hread)
  obtain rfl := Except.ok.inj hxr
  have hspace : ∀ y ∈ x.method.name.text.toList, isSpace y = false := by
    intro y hy
    refine hkind.not_isSpace y ?_
    rw [← String.toList_ofList (l := text), ← hkey]
    simp [key, Method.key, referenceKey, Method.descriptor, hy]
  have htypes := @Gathers.methodReference _ [] Descriptor.gathers_isReadable c x c' (by simp) hread
  exact Method.isReadable_of_name ((isEndedBy_reader c x c' trivial hread).isReadable (.inr rfl) hspace)
    (fun t ht => htypes t (by simp [ht])) (htypes x.method.returnType (by simp))

end Reading

/-- A field that is read from a text: one of a class, one that a line declares, or one that a line
refers to. -/
inductive Field.IsParsed : Field → Prop
  | member {text : String} {c : Class} {f : Field} (h : Class.ofString text = .ok c)
      (hf : f ∈ c.fields) : IsParsed f
  | definition {d : Document} {p : Position} {f : Field} (h : d.fieldDefinitionAt? p = some f) :
      IsParsed f
  | reference {d : Document} {p : Position} {r : FieldReference}
      (h : d.fieldReferenceAt? p = some r) : IsParsed r.field

/-- A method that is read from a text. -/
inductive Method.IsParsed : Method → Prop
  | member {text : String} {c : Class} {m : Method} (h : Class.ofString text = .ok c)
      (hm : m ∈ c.allMethods) : IsParsed m
  | definition {d : Document} {p : Position} {m : Method} (h : d.methodDefinitionAt? p = some m) :
      IsParsed m
  | reference {d : Document} {p : Position} {r : MethodReference}
      (h : d.methodReferenceAt? p = some r) : IsParsed r.method

theorem Field.IsParsed.isReadable {f : Field} (h : f.IsParsed) : f.IsReadable := by
  cases h with
  | member h hf =>
    obtain ⟨x,k,hread,hitem⟩ := Class.exists_item_of_mem_fields h hf
    obtain ⟨c,-,-,-,hvalue⟩ := Class.declaredAt_keyworded hread hitem
    exact isReadable_of_read (Reader.read_of_value hvalue)
  | definition h =>
    obtain ⟨c,c',-,hread⟩ := Document.read_of_declarationOn? h
    exact isReadable_of_read hread
  | reference h => exact FieldReference.isReadable_of_fieldReferenceAt? h

theorem Method.IsParsed.isReadable {m : Method} (h : m.IsParsed) : m.IsReadable := by
  cases h with
  | member h hm =>
    obtain ⟨x,k,rs,hread,hitem⟩ := Class.exists_item_of_mem_allMethods h hm
    obtain ⟨c,-,-,-,hvalue⟩ := Class.declaredAt_keyworded hread hitem
    obtain ⟨hsignature,htypes⟩ := isReadable_of_read (Reader.read_of_value hvalue)
    exact ⟨hsignature,htypes⟩
  | definition h =>
    obtain ⟨c,c',-,hread⟩ := Document.read_of_declarationOn? h
    exact isReadable_of_read hread
  | reference h => exact MethodReference.isReadable_of_methodReferenceAt? h

/-! ### Reading a descriptor -/

/-- Behind a keyword that opens a document the question for its line reads the rest. -/
theorem Document.exists_declarationOn? {α : Type} (r : Reader α) (text keyword rest : String)
    (htext : text.toList = keyword.toList ++ ' ' :: rest.toList) (hne : keyword ≠ "")
    (hall : keyword.toList.all (fun x => !isBlank x) = true) :
    ∃ c : Cursor, c.rest = ' ' :: rest.toList ∧
      (Document.ofString text).declarationOn? keyword r 0 = (r.value c).toOption := by
  have hspace : ∀ x ∈ keyword.toList, isSpace x = false := by
    intro x hx
    refine Bool.eq_false_iff.mpr fun h => ?_
    have hblank := List.all_eq_true.mp hall x hx
    simp [isBlank_of_isSpace h] at hblank
  obtain ⟨k,ks,hk⟩ := List.exists_cons_of_ne_nil fun hnil : keyword.toList = [] =>
    hne (by simpa using congrArg String.ofList hnil)
  generalize hd : Document.ofString text = d
  have hrest : (Cursor.start d).rest = [] ++ (keyword.toList ++ ' ' :: rest.toList) := by
    rw [← hd]
    exact htext
  obtain ⟨htoken,hbehind⟩ := Cursor.readToken_of_rest hrest (by simp) (by simp [hk]) hspace
    (stops_cons.mpr (by decide))
  have hkeyword : (Cursor.start d).peekToken.text = keyword := by
    rw [Cursor.peekToken, htoken, String.ofList_toList]
  have hskip : (Cursor.start d).skipSpace = .start d := by
    refine Cursor.skipSpace_of_stops ?_
    rw [hrest, hk]
    exact stops_cons.mpr (hspace k (by simp [hk]))
  have hstart : (Cursor.start d).peekToken.span.start = ⟨0,0⟩ := by
    change (Cursor.start d).skipSpace.position = _
    rw [hskip]
    exact d.positionAt_zero
  have hopens : (Cursor.start d).peekToken.OpensLine d := by
    have hback := (Cursor.at_start d).atPosition_position
    rw [Cursor.position, Cursor.start, d.positionAt_zero] at hback
    rw [Token.OpensLine, hstart, hback]
    rfl
  have hon := hopens.declarationOn? ⟨_,Cursor.at_start d⟩ (by rwa [hkeyword]) (by rwa [hkeyword]) r
  rw [hkeyword, hstart] at hon
  exact ⟨_,hbehind,hon⟩

theorem Field.IsReadable.exists_definitionAt? {f : Field} (hf : f.IsReadable) (col : Nat) :
    ∃ g, (Document.ofString (".field " ++ f.descriptor)).fieldDefinitionAt? ⟨0,col⟩ = some g ∧
      g.same f = true := by
  obtain ⟨c,hrest,hon⟩ := Document.exists_declarationOn? Field.reader (".field " ++ f.descriptor) ".field"
    f.descriptor (by simp) (by decide) (by decide)
  rw [← f.render_signature, ← List.append_nil f.signature.render.toList] at hrest
  obtain ⟨g,c',hread,hsketch,-⟩ := Field.read_of_render hf.signature hrest (by simp [Stops])
  refine ⟨g,?_,?_⟩
  · rw [Document.fieldDefinitionAt?, hon, Reader.value, hread]
    rfl
  · obtain ⟨-,hname,htype,-⟩ := FieldSketch.mk.inj hsketch
    refine same_of_signature (isReadable_of_read hread).type hf.type ?_
    rw [Field.signature, Field.signature, hname, htype]

theorem Method.IsReadable.exists_definitionAt? {m : Method} (hm : m.IsReadable) (col : Nat) :
    ∃ n, (Document.ofString (".method " ++ m.descriptor)).methodDefinitionAt? ⟨0,col⟩ = some n ∧
      n.same m = true := by
  obtain ⟨c,hrest,hon⟩ := Document.exists_declarationOn? Method.reader (".method " ++ m.descriptor)
    ".method" m.descriptor (by simp) (by decide) (by decide)
  rw [← m.render_signature, ← List.append_nil m.signature.render.toList] at hrest
  obtain ⟨n,c',hread,hsketch,-⟩ := Method.read_of_render hm.signature hrest
  refine ⟨n,?_,?_⟩
  · rw [Document.methodDefinitionAt?, hon, Reader.value, hread]
    rfl
  · obtain ⟨-,hname,hparameters,hreturn⟩ := MethodSketch.mk.inj hsketch
    refine (isReadable_of_read hread).types.same_of_signature hm.types ?_
    rw [Method.signature, Method.signature, hname, hparameters, hreturn]

theorem Field.IsReadable.same_iff {f g : Field} (hf : f.IsReadable) (hg : g.IsReadable) :
    f.same g = true ↔ f.descriptor = g.descriptor := by
  rw [← f.render_signature, ← g.render_signature]
  constructor
  · intro h
    rw [signature_congr h]
  · intro h
    exact same_of_signature hf.type hg.type (FieldSketch.render_inj hf.signature hg.signature h)

theorem Method.IsReadable.same_iff {m n : Method} (hm : m.IsReadable) (hn : n.IsReadable) :
    m.same n = true ↔ m.descriptor = n.descriptor := by
  rw [← m.render_signature, ← n.render_signature]
  constructor
  · intro h
    rw [signature_congr h]
  · intro h
    exact hm.types.same_of_signature hn.types (MethodSketch.render_inj hm.signature hn.signature h)

/-- Behind its keyword the descriptor of a member that was read is read as the same member, and members
that were read are the same exactly if their descriptors are. -/
theorem descriptors_readBack :
    (∀ f : Field, f.IsParsed →
      (∀ col, ∃ g, (Document.ofString (".field " ++ f.descriptor)).fieldDefinitionAt? ⟨0,col⟩ =
        some g ∧ g.same f = true) ∧
      ∀ g : Field, g.IsParsed → (f.same g = true ↔ f.descriptor = g.descriptor)) ∧
    ∀ m : Method, m.IsParsed →
      (∀ col, ∃ n, (Document.ofString (".method " ++ m.descriptor)).methodDefinitionAt? ⟨0,col⟩ =
        some n ∧ n.same m = true) ∧
      ∀ n : Method, n.IsParsed → (m.same n = true ↔ m.descriptor = n.descriptor) := by
  refine ⟨fun f hf => ⟨?_,fun g hg => ?_⟩,fun m hm => ⟨?_,fun n hn => ?_⟩⟩
  · exact hf.isReadable.exists_definitionAt?
  · exact hf.isReadable.same_iff hg.isReadable
  · exact hm.isReadable.exists_definitionAt?
  · exact hm.isReadable.same_iff hn.isReadable

/-- A name with a modifier behind a blank, and one that is a modifier. -/
theorem descriptors_readBack_modifier :
    ∃ (f g : Field) (m n : Method), f.IsParsed ∧ g.IsParsed ∧ m.IsParsed ∧ n.IsParsed ∧
      f.descriptor = "x final:J" ∧ m.descriptor = "public(I)V" ∧
      (∃ f', (Document.ofString ".field x final:J").fieldDefinitionAt? ⟨0,3⟩ = some f' ∧
        f'.same f = true) ∧
      (∃ m', (Document.ofString ".method public(I)V").methodDefinitionAt? ⟨0,3⟩ = some m' ∧
        m'.same m = true) ∧
      f.same g = true ∧ m.same n = false := by
  obtain ⟨text,htext⟩ : ∃ text, text =
    ".class La;\n.super Lb;\n.field static x final:J\n.method public(I)V\n.end method\n" := ⟨_,rfl⟩
  have hread : (Class.ofString text).toOption.map (fun c =>
      (c.fields.map Field.descriptor,c.allMethods.map Method.descriptor)) =
      some (["x final:J"],["public(I)V"]) := by
    rw [htext]
    decide +kernel
  obtain ⟨c,hc,hmembers⟩ := Option.map_eq_some_iff.mp hread
  have hclass : Class.ofString text = .ok c := by
    cases h : Class.ofString text with
    | error e =>
      rw [h] at hc
      cases hc
    | ok c' =>
      rw [h] at hc
      exact congrArg Except.ok (Option.some.inj hc)
  obtain ⟨hfields,hmethods⟩ := Prod.mk.inj hmembers
  obtain ⟨f,fs,hfs,hf,-⟩ := List.map_eq_cons_iff.mp hfields
  obtain ⟨m,ms,hms,hm,-⟩ := List.map_eq_cons_iff.mp hmethods
  -- the same field with another modifier and another method of the name, asked for by their lines
  have hline : ((Document.ofString ".field public x final:J").fieldDefinitionAt? ⟨0,0⟩).map
      Field.descriptor = some "x final:J" := by decide +kernel
  have hline' : ((Document.ofString ".method public(J)V").methodDefinitionAt? ⟨0,0⟩).map
      Method.descriptor = some "public(J)V" := by decide +kernel
  obtain ⟨g,hgline,hg⟩ := Option.map_eq_some_iff.mp hline
  obtain ⟨n,hnline,hn⟩ := Option.map_eq_some_iff.mp hline'
  have hfread : f.IsParsed := .member hclass (by simp [hfs])
  have hmread : m.IsParsed := .member hclass (by simp [hms])
  have hgread : g.IsParsed := .definition hgline
  have hnread : n.IsParsed := .definition hnline
  obtain ⟨hfback,hfsame⟩ := descriptors_readBack.1 f hfread
  obtain ⟨hmback,hmsame⟩ := descriptors_readBack.2 m hmread
  rw [hf] at hfback
  rw [hm] at hmback
  refine ⟨f,g,m,n,hfread,hgread,hmread,hnread,hf,hm,hfback 3,hmback 3,?_,?_⟩
  · exact (hfsame g hgread).mpr (hf.trans hg.symm)
  · refine Bool.eq_false_iff.mpr fun h => ?_
    have heq := (hmsame n hnread).mp h
    rw [hm, hn] at heq
    exact absurd heq (by decide)

end SmaliNavigator
