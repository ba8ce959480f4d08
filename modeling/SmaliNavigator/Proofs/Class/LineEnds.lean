import SmaliNavigator.Proofs.Member.LineEnds

/-!
Reading a whole file whose lines end in a carriage return and a line feed: there is a class where
there is one without the carriage returns, and it is the same class with the same places.
-/

set_option autoImplicit false

namespace SmaliNavigator

open Text

/-- Two outcomes that are both there and correspond, or two faults. -/
inductive SameOutcome {α : Type} (same : α → α → Prop) :
    Except Diagnostic α → Except Diagnostic α → Prop
  | ok {a b : α} (h : same a b) : SameOutcome same (.ok a) (.ok b)
  | error (x y : Diagnostic) : SameOutcome same (.error x) (.error y)

namespace SameOutcome

variable {α β : Type} {same : α → α → Prop} {same' : β → β → Prop}

theorem bind {x y : Except Diagnostic α} {f g : α → Except Diagnostic β} (h : SameOutcome same x y)
    (hf : ∀ a b, same a b → SameOutcome same' (f a) (g b)) :
    SameOutcome same' (x >>= f) (y >>= g) := by
  cases h with
  | ok h => exact hf _ _ h
  | error x y => exact .error x y

theorem toOption_eq_map {f : α → α} {x y : Except Diagnostic α}
    (h : SameOutcome (fun a b => b = f a) x y) : y.toOption = x.toOption.map f := by
  cases h with
  | ok h => exact congrArg some h
  | error x y => rfl

end SameOutcome

/-- The same thing read, and aligned cursors behind it. -/
def SameRead {α : Type} (d : Document) (x y : α × Cursor) : Prop := y.1 = x.1 ∧ x.2.Aligned d y.2

variable {d : Document} {c c' : Cursor}

theorem Reader.Agrees.sameOutcome {α : Type} {r : Reader α} (h : r.Agrees d) (hc : c.Aligned d c')
    {x x' : Except Diagnostic α} {e e' : Cursor} (hr : r.read c = (x,e))
    (hr' : r.read c' = (x',e')) :
    SameOutcome (fun a b => b = a ∧ e.Aligned d e') x x' := by
  rcases h c c' hc with ⟨a,e,e',hs,hs',he⟩ | ⟨y,y',e,e',hs,hs'⟩
  · obtain ⟨rfl,rfl⟩ := Prod.mk.inj (hr.symm.trans hs)
    obtain ⟨rfl,rfl⟩ := Prod.mk.inj (hr'.symm.trans hs')
    exact .ok ⟨rfl,he⟩
  · obtain ⟨rfl,rfl⟩ := Prod.mk.inj (hr.symm.trans hs)
    obtain ⟨rfl,rfl⟩ := Prod.mk.inj (hr'.symm.trans hs')
    exact .error y y'

namespace Instruction

theorem lastOperand?_aligned (hc : c.Aligned d c') :
    lastOperand? c = none ∧ lastOperand? c' = none ∨
      ∃ e e', lastOperand? c = some e ∧ lastOperand? c' = some e' ∧ e.Aligned d e' := by
  have hspace := hc.skipInlineSpace
  obtain ⟨xs,ys,hrest,hx,htrim,htrim'⟩ := hspace.exists_line
  simp only [lastOperand?, htrim, htrim']
  split
  · -- the operands end where the last one starts
    have hn : '\n' ∉ xs.take (xs.length - (afterLast ',' xs).length) :=
      fun hmem => hx (List.mem_of_mem_take hmem)
    have hsplit : c.skipInlineSpace.rest = xs.take (xs.length - (afterLast ',' xs).length) ++
        (xs.drop (xs.length - (afterLast ',' xs).length) ++ ys) := by
      rw [← List.append_assoc, List.take_append_drop, hrest]
    have hnext := hspace.advance_inline hsplit hn
    rw [List.length_take, Nat.min_eq_left (Nat.sub_le _ _)] at hnext
    exact .inr ⟨_,_,rfl,rfl,hnext⟩
  · exact .inl ⟨rfl,rfl⟩

theorem sameOutcome_firstMatch {α : Type} {p : Pattern} {kind : List Char → Prop} (hp : p.Takes kind)
    {r : Reader α} (hr : r.Agrees d) (f : Match → α → List Reference) (line : Nat) :
    SameOutcome Eq
      (match p.findFirst? (d.lineText line) with
        | none => .ok []
        | some m => do return f m (← r.value (.atPosition d ⟨line,m.start⟩)))
      (match p.findFirst? (d.lineText line) with
        | none => .ok []
        | some m => do return f m (← r.value (.atPosition d.withReturns ⟨line,m.start⟩))) := by
  cases hm : p.findFirst? (d.lineText line) with
  | none => exact .ok rfl
  | some m =>
    obtain ⟨pre,post,hline,_,hstart,_⟩ := hp.of_findFirst? hm
    have haligned := Cursor.aligned_atPosition hline
    rw [← hstart] at haligned
    refine (hr.sameOutcome haligned (Prod.eta _).symm (Prod.eta _).symm).bind ?_
    rintro _ a ⟨rfl,_⟩
    exact .ok rfl

theorem isSome_expect?_eq {literal : String} (hliteral : HasNoLineEnd literal.toList)
    (hc : c.Aligned d c') : (c'.expect? literal).isSome = (c.expect? literal).isSome := by
  rcases hc.expect? hliteral with ⟨hn,hn'⟩ | ⟨e,e',he,he',_⟩
  · rw [hn, hn']
  · rw [he, he']
    rfl

theorem sameOutcome_references (hc : c.Aligned d c') :
    SameOutcome Eq (references c) (references c') := by
  have hfields : fieldOpcodes.any (fun op => (c'.expect? op).isSome) =
      fieldOpcodes.any fun op => (c.expect? op).isSome := by
    have hops : ∀ op ∈ fieldOpcodes, HasNoLineEnd op.toList := by decide
    rw [Bool.eq_iff_iff, List.any_eq_true, List.any_eq_true]
    exact exists_congr fun op => and_congr_right fun hop => by rw [isSome_expect?_eq (hops op hop) hc]
  have hops : ∀ op ∈ typeOpcodes, HasNoLineEnd op.toList := by decide
  unfold references
  simp only [hc.document, hc.document_withReturns, hc.line, Document.lineText_withReturns, hfields,
    isSome_expect?_eq (show HasNoLineEnd callOpcode.toList by decide) hc, Cursor.peekToken,
    hc.readToken.1]
  split
  · exact sameOutcome_firstMatch Pattern.takes_fieldReference (FieldReference.agrees_reader d)
      (fun m r => r.references m.text) c.line
  · split
    · exact sameOutcome_firstMatch Pattern.takes_methodReference (MethodReference.agrees_reader d)
        (fun m r => r.references m.text) c.line
    · cases hop : typeOpcodes.find? (c.readToken.1.text == ·) with
      | none => exact .ok rfl
      | some op =>
        dsimp only
        rcases hc.expect? (hops op (List.mem_of_find?_eq_some hop)) with
          ⟨hn,hn'⟩ | ⟨e,e',he,he',hafter⟩
        · rw [hn, hn']
          exact .ok rfl
        · rw [he, he', Option.bind_some, Option.bind_some]
          rcases lastOperand?_aligned hafter with ⟨hn,hn'⟩ | ⟨o,o',ho,ho',hoperand⟩
          · rw [hn, hn']
            exact .ok rfl
          · rw [ho, ho']
            have hvalue := (Descriptor.agrees_reader d).value hoperand
            dsimp only
            revert hvalue
            rcases Descriptor.reader.value o with x | t <;> rcases Descriptor.reader.value o' with x' | t' <;>
              intro hvalue
            · exact .ok rfl
            · cases hvalue
            · cases hvalue
            · obtain rfl : t' = t := Option.some.inj hvalue
              exact .ok rfl

end Instruction

namespace Class

theorem sameOutcome_expectKeyword {keyword : String} (hk : HasNoLineEnd keyword.toList)
    (hc : c.Aligned d c') :
    SameOutcome (Cursor.Aligned d) (expectKeyword c keyword) (expectKeyword c' keyword) := by
  unfold expectKeyword
  rcases hc.expect? hk with ⟨hn,hn'⟩ | ⟨e,e',he,he',hafter⟩
  · rw [hn, hn']
    exact .error _ _
  · rw [he, he']
    exact .ok hafter

theorem sameOutcome_readHeader (hc : c.Aligned d c') :
    SameOutcome (SameRead d) (readHeader c) (readHeader c') := by
  unfold readHeader
  refine (sameOutcome_expectKeyword (by decide) hc).bind fun c₁ c₁' hc₁ => ?_
  obtain ⟨hmodifiers,hc₂⟩ := Modifier.aligned_readAll hc₁
  rcases hm : Modifier.readAll c₁ with ⟨modifiers,c₂⟩
  rcases hm' : Modifier.readAll c₁' with ⟨modifiers',c₂'⟩
  rw [hm, hm'] at hmodifiers hc₂
  obtain rfl : modifiers' = modifiers := hmodifiers
  dsimp only at hc₂ ⊢
  rcases hr : Descriptor.reader.read c₂ with ⟨named,c₃⟩
  rcases hr' : Descriptor.reader.read c₂' with ⟨named',c₃'⟩
  refine ((Descriptor.agrees_reader d).sameOutcome hc₂ hr hr').bind ?_
  rintro _ type ⟨rfl,hc₃⟩
  cases type.asClass? with
  | none => exact .error _ _
  | some name =>
    simp only [pure_bind]
    refine (sameOutcome_expectKeyword (by decide) hc₃).bind fun c₄ c₄' hc₄ => ?_
    rcases hr : Descriptor.reader.read c₄ with ⟨extended,c₅⟩
    rcases hr' : Descriptor.reader.read c₄' with ⟨extended',c₅'⟩
    refine ((Descriptor.agrees_reader d).sameOutcome hc₄ hr hr').bind ?_
    rintro _ superclass ⟨rfl,hc₅⟩
    rcases hc₅.expect? (show HasNoLineEnd ".source".toList by decide) with
      ⟨hn,hn'⟩ | ⟨e,e',he,he',hafter⟩
    · rw [hn, hn']
      exact .ok ⟨rfl,hc₅⟩
    · obtain ⟨hsource,hlast⟩ := hafter.readRestOfLine
      rw [he, he']
      refine .ok ⟨?_,hlast⟩
      dsimp only
      rw [hsource]

theorem sameOutcome_skipBlock (line fuel : Nat) (hc : c.Aligned d c') :
    SameOutcome (Cursor.Aligned d) (skipBlock line fuel c) (skipBlock line fuel c') := by
  induction fuel generalizing c c' with
  | zero => exact .error _ _
  | succ fuel ih =>
    simp only [skipBlock]
    rcases hc.expect? (show HasNoLineEnd ".end annotation".toList by decide) with
      ⟨hn,hn'⟩ | ⟨e,e',he,he',hafter⟩
    · rw [hn, hn', hc.skipLine.atEnd]
      dsimp only
      split
      · exact .error _ _
      · exact ih hc.skipLine
    · rw [he, he']
      exact .ok hafter

theorem sameOutcome_readInstructions (line fuel : Nat) (hc : c.Aligned d c') :
    SameOutcome (SameRead d) (readInstructions line fuel c) (readInstructions line fuel c') := by
  induction fuel generalizing c c' with
  | zero => exact .error _ _
  | succ fuel ih =>
    have hspace := hc.skipSpace
    simp only [readInstructions]
    rw [hspace.atEnd]
    split
    · exact .error _ _
    · rcases hspace.expect? (show HasNoLineEnd ".end method".toList by decide) with
        ⟨hn,hn'⟩ | ⟨e,e',he,he',hafter⟩
      · rw [hn, hn']
        dsimp only
        refine (Instruction.sameOutcome_references hspace).bind fun here here' hhere => ?_
        refine (ih hspace.skipLine).bind fun x x' hx => .ok ⟨?_,hx.2⟩
        rw [hhere, hx.1]
      · rw [he, he']
        exact .ok ⟨rfl,hafter⟩

theorem blockSpan_eq (line : Nat) (hc : c.Aligned d c') : blockSpan line c' = blockSpan line c := by
  rw [blockSpan, blockSpan, hc.position]

theorem sameOutcome_readMethod (line : Nat) (hc : c.Aligned d c') :
    SameOutcome (SameRead d) (readMethod line c) (readMethod line c') := by
  unfold readMethod
  rcases hr : Method.reader.read c with ⟨signature,e⟩
  rcases hr' : Method.reader.read c' with ⟨signature',e'⟩
  refine ((Method.agrees_reader d).sameOutcome hc hr hr').bind ?_
  rintro _ m ⟨rfl,he⟩
  dsimp only
  rw [readInstructions_fuel (Nat.lt_succ_self _) (Nat.lt_succ_of_le he.skipLine.length_le)]
  refine (sameOutcome_readInstructions line _ he.skipLine).bind fun x x' hx => .ok ⟨?_,hx.2⟩
  rw [hx.1, blockSpan_eq line hx.2]

theorem sameOutcome_readItem (keyword : Token) (hc : c.Aligned d c') :
    SameOutcome (SameRead d) (readItem keyword c) (readItem keyword c') := by
  unfold readItem
  dsimp only
  split
  · rcases hr : Descriptor.reader.read c with ⟨type,e⟩
    rcases hr' : Descriptor.reader.read c' with ⟨type',e'⟩
    refine ((Descriptor.agrees_reader d).sameOutcome hc hr hr').bind ?_
    rintro _ t ⟨rfl,he⟩
    exact .ok ⟨rfl,he⟩
  · rw [skipBlock_fuel (Nat.lt_succ_self _) (Nat.lt_succ_of_le hc.length_le)]
    exact (sameOutcome_skipBlock _ _ hc).bind fun e e' he => .ok ⟨rfl,he⟩
  · rcases hr : Field.reader.read c with ⟨field,e⟩
    rcases hr' : Field.reader.read c' with ⟨field',e'⟩
    refine ((Field.agrees_reader d).sameOutcome hc hr hr').bind ?_
    rintro _ f ⟨rfl,he⟩
    exact .ok ⟨rfl,he⟩
  · refine (sameOutcome_readMethod _ hc).bind fun x x' hx => .ok ⟨?_,hx.2⟩
    rw [hx.1]
  · exact .ok ⟨rfl,hc.skipLine⟩

theorem sameOutcome_readItems (fuel : Nat) (hc : c.Aligned d c') :
    SameOutcome Eq (readItems fuel c) (readItems fuel c') := by
  induction fuel generalizing c c' with
  | zero => exact .ok rfl
  | succ fuel ih =>
    obtain ⟨hkeyword,hnext⟩ := hc.readToken
    simp only [readItems, hkeyword]
    split
    · exact .ok rfl
    · refine (sameOutcome_readItem _ hnext).bind fun x x' hx => ?_
      refine (ih hx.2).bind fun items items' hitems => .ok ?_
      rw [hx.1, hitems]

/-- The class of a document with carriage returns is that of the document without them, but for the
document. -/
theorem toOption_ofDocument_withReturns (d : Document) : (ofDocument d.withReturns).toOption =
    (ofDocument d).toOption.map fun c => { c with document := d.withReturns } := by
  refine SameOutcome.toOption_eq_map ?_
  unfold ofDocument
  refine (sameOutcome_readHeader (.start d)).bind fun x x' hx => ?_
  dsimp only
  rw [readItems_fuel (Nat.lt_succ_self _) (Nat.lt_succ_of_le hx.2.length_le)]
  refine (sameOutcome_readItems _ hx.2).bind fun items items' hitems => .ok ?_
  rw [hx.1, ← hitems]
  rfl

end Class

end SmaliNavigator
