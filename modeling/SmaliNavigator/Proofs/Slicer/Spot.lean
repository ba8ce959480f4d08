import SmaliNavigator.Proofs.Slicer.Class
import SmaliNavigator.Slicer.Spot

/-!
The symbol at a place asked for by offsets. A question has no offset of its own: each reading for it
starts at a column of a line, and that is where a match starts or an operand does, or the line itself.
The position that is asked for is only compared with columns, so it can be anywhere.
-/

set_option autoImplicit false

namespace SmaliNavigator

open Text

theorem Reader.value_tries_bind {α : Type} (f : Cursor → Option Cursor) (r : Reader α) (c : Cursor) :
    (Reader.tries f >>= fun _ => r).value c = r.value ((f c).getD c) := by
  rw [value, read_bind, tries, read_total]
  cases f c <;> rfl

namespace Slicer

variable {α β : Type} {d : Document} {p : Position}

/-- A reading answers the same from every offset, and leaves the offset as it is. -/
def Answers (s : Slicer α) (d : Document) (a : α) : Prop :=
  ∀ o, s.readFrom d o = some (.ok a,o)

namespace Answers

theorem pure (a : α) : Answers (Pure.pure a) d a := fun _ => rfl

theorem bind {s : Slicer α} {f : α → Slicer β} {a : α} {b : β} (h : Answers s d a)
    (hf : Answers (f a) d b) : Answers (s >>= f) d b := by
  intro o
  rw [readFrom_bind, h o]
  exact hf o

theorem mapM {γ : Type} {f : γ → Slicer β} {g : γ → β} {xs : List γ}
    (h : ∀ x ∈ xs, Answers (f x) d (g x)) : Answers (xs.mapM f) d (xs.map g) := by
  induction xs with
  | nil => exact pure []
  | cons x xs ih =>
    rw [List.mapM_cons]
    exact (h x (by simp)).bind ((ih fun y hy => h y (by simp [hy])).bind (pure _))

theorem findM? {γ : Type} {f : γ → Slicer Bool} {g : γ → Bool} {xs : List γ}
    (h : ∀ x, Answers (f x) d (g x)) : Answers (xs.findM? f) d (xs.find? g) := by
  induction xs with
  | nil => exact pure none
  | cons x xs ih =>
    rw [List.findM?, List.find?]
    refine (h x).bind ?_
    cases g x with
    | true => exact pure _
    | false => exact ih

end Answers

theorem answers_lineText (line : Nat) : Answers (lineText line) d (d.lineText line) :=
  readFrom_lineText line d

/-! ### Members of a line -/

theorem answers_opensWith (line : Nat) (keyword : String) :
    Answers (opensWith line keyword) d (d.opensWith line keyword) :=
  (answers_lineText line).bind (.pure _)

theorem answers_valueAt {s : Slicer α} {r : Reader α} (h : s.Follows r) {line : Nat}
    {pre post : List Char} (hpre : d.lineText line = pre ++ post) :
    Answers (valueAt s line (byteCount pre)) d (d.valueAt? r line (byteCount pre)) :=
  Answers.bind (readFrom_asideAt h hpre) (.pure _)

theorem answers_match {pattern : Pattern} (hp : pattern.LeavesEnd) {s : Slicer α} {r : Reader α}
    (h : s.Follows r) {line : Nat} {m : Match} (hm : m ∈ pattern.findAll (d.lineText line)) :
    Answers (valueAt s line m.start) d (d.valueAt? r line m.start) := by
  obtain ⟨pre,_,hpre,hstart,-⟩ := hp.of_mem_findAll hm
  exact hstart ▸ answers_valueAt h hpre

theorem answers_declarationOn {s : Slicer α} {r : Reader α} (h : s.Follows r) (keyword : String)
    (line : Nat) : Answers (declarationOn keyword s line) d (d.declarationOn? keyword r line) := by
  refine (answers_opensWith line keyword).bind ?_
  unfold Document.declarationOn?
  split
  · next hopens =>
    have hfollows := (follows_expect keyword).bind fun _ => h
    have hanswers := answers_valueAt hfollows (List.nil_append (d.lineText line)).symm
    rwa [Document.valueAt?, Reader.value_tries_bind] at hanswers
  · exact .pure _

theorem answers_fieldDefinitionAt (p : Position) :
    Answers (fieldDefinitionAt p) d (d.fieldDefinitionAt? p) :=
  answers_declarationOn follows_field ".field" p.line

theorem answers_methodDefinitionAt (p : Position) :
    Answers (methodDefinitionAt p) d (d.methodDefinitionAt? p) :=
  answers_declarationOn follows_method ".method" p.line

theorem answers_matchedAt {pattern : Pattern} (hp : pattern.LeavesEnd) {s : Slicer α} {r : Reader α}
    (h : s.Follows r) (p : Position) : Answers (matchedAt pattern s p) d
      ((pattern.matchAt? (d.lineText p.line) p.col).bind fun m => d.valueAt? r p.line m.start) := by
  refine (answers_lineText p.line).bind ?_
  cases hm : pattern.matchAt? (d.lineText p.line) p.col with
  | none => exact .pure _
  | some m => exact answers_match hp h (List.mem_of_find?_eq_some hm)

theorem answers_fieldReferenceAt (p : Position) :
    Answers (fieldReferenceAt p) d (d.fieldReferenceAt? p) :=
  answers_matchedAt Pattern.takes_fieldReference.leavesEnd follows_fieldReference p

theorem answers_methodReferenceAt (p : Position) :
    Answers (methodReferenceAt p) d (d.methodReferenceAt? p) :=
  answers_matchedAt Pattern.takes_methodReference.leavesEnd follows_methodReference p

/-! ### Types of a line -/

theorem answers_declaredTypes (line : Nat) :
    Answers (declaredTypes line) d (d.declaredTypes line) := by
  refine (answers_fieldDefinitionAt ⟨line,0⟩).bind ?_
  unfold Document.declaredTypes
  cases d.fieldDefinitionAt? ⟨line,0⟩ with
  | some f => exact .pure _
  | none =>
    refine (answers_methodDefinitionAt ⟨line,0⟩).bind ?_
    cases d.methodDefinitionAt? ⟨line,0⟩ with
    | some m => exact .pure _
    | none => exact .pure _

theorem answers_matchedOn {pattern : Pattern} (hp : pattern.LeavesEnd) {s : Slicer α} {r : Reader α}
    (h : s.Follows r) (line : Nat) : Answers (matchedOn pattern s line) d
      ((pattern.findAll (d.lineText line)).filterMap fun m => d.valueAt? r line m.start) := by
  refine (answers_lineText line).bind ((Answers.mapM fun m hm => answers_match hp h hm).bind ?_)
  rw [List.filterMap_map]
  exact .pure _

theorem answers_referencedTypes (line : Nat) :
    Answers (referencedTypes line) d (d.referencedTypes line) :=
  (answers_matchedOn Pattern.takes_fieldReference.leavesEnd follows_fieldReference line).bind
    ((answers_matchedOn Pattern.takes_methodReference.leavesEnd follows_methodReference line).bind
      (.pure _))

theorem answers_operandTypes (line : Nat) :
    Answers (operandTypes line) d (d.operandTypes line) := by
  obtain ⟨pre,hpre,hcol⟩ := Document.exists_of_afterLast ',' (d.lineText line)
  have hopens : (Instruction.typeOpcodes.any (firstWord (d.lineText line) == ·.toList)) =
      Instruction.typeOpcodes.any (d.opensWith line) := rfl
  refine (answers_lineText line).bind ?_
  rw [Document.operandTypes, hopens]
  dsimp only
  split
  · rw [hcol]
    exact (answers_valueAt follows_descriptor hpre).bind (.pure _)
  · exact .pure _

theorem answers_orElse {s t : Slicer (Option α)} {a b : Option α} (hs : Answers s d a)
    (ht : Answers t d b) : Answers (orElse s t) d (a.or b) := by
  refine hs.bind ?_
  cases a with
  | some a => exact .pure _
  | none => exact ht

theorem answers_signatureTypes (line : Nat) :
    Answers (signatureTypes line) d (d.signatureTypes line) := by
  refine (answers_declaredTypes line).bind ((answers_referencedTypes line).bind ?_)
  exact (answers_operandTypes line).bind (.pure _)

theorem answers_typeAt (p : Position) : Answers (typeAt p) d (d.typeAt? p) :=
  answers_orElse (answers_matchedAt Pattern.leavesEnd_owner follows_descriptor p)
    ((answers_signatureTypes p.line).bind (.pure _))

/-! ### Labels -/

theorem answers_labelsOn (text : List Char) : Answers (labelsOn text) d (Document.labelsOn text) := by
  refine (Answers.mapM (g := Option.guard fun m =>
    !(Document.charBefore? text m.start).any fun c => isNameChar c || c == ';') ?_).bind ?_
  · intro m hm
    obtain ⟨pre,post,htext,hstart,-⟩ := Pattern.leavesEnd_label.of_mem_findAll hm
    have hcut : Answers (cut text 0 m.start) d pre := by
      rw [hstart]
      exact readFrom_cut_front ⟨_,htext.symm⟩
    have hbefore : Document.charBefore? text m.start = pre.getLast? := by
      rw [Document.charBefore?, hstart, htext, takeBytes?_byteCount, Option.getD_some]
    rw [Option.guard, hbefore]
    exact hcut.bind (.pure _)
  · rw [List.filterMap_map, Document.labelsOn, ← List.filterMap_eq_filter]
    exact .pure _

theorem answers_endsMethod (line : Nat) : Answers (endsMethod line) d (d.endsMethod line) :=
  (answers_lineText line).bind (.pure _)

theorem answers_methodStart (line candidate : Nat) :
    Answers (methodStart line candidate) d (d.methodStart? line candidate) := by
  induction candidate with
  | zero =>
    refine (answers_opensWith 0 ".method").bind ?_
    unfold Document.methodStart?
    split <;> exact .pure _
  | succ n ih =>
    refine (answers_opensWith (n + 1) ".method").bind ?_
    unfold Document.methodStart?
    split
    · exact .pure _
    · refine (answers_endsMethod (n + 1)).bind ?_
      split
      · exact .pure _
      · exact ih

theorem answers_methodAround (line : Nat) :
    Answers (methodAround line) d (d.methodAround? line) := by
  refine (answers_methodStart line line).bind ?_
  unfold Document.methodAround?
  cases d.methodStart? line line with
  | none => exact .pure _
  | some start =>
    refine Answers.bind (fun _ => rfl) ((Answers.findM? answers_endsMethod).bind ?_)
    cases (List.range' line (d.lineCount - line)).find? d.endsMethod with
    | none => exact .pure _
    | some stop => exact .pure _

theorem answers_labelUses (chars : List Char) (line : Nat) :
    Answers (labelUses chars line) d
      (((Document.labelsOn (d.lineText line)).filter (·.chars == chars)).map fun use =>
        (use.span line,Document.isLabelLine (d.lineText line) use)) :=
  (answers_lineText line).bind ((answers_labelsOn _).bind (.pure _))

theorem answers_labelAt (p : Position) : Answers (labelAt p) d (d.labelAt? p) := by
  refine (answers_lineText p.line).bind ((answers_labelsOn _).bind ?_)
  unfold Document.labelAt?
  cases (Document.labelsOn (d.lineText p.line)).find? (·.covers p.col) with
  | none => exact .pure _
  | some m =>
    refine (answers_methodAround p.line).bind ?_
    dsimp only [bind, Option.bind]
    cases d.methodAround? p.line with
    | none => exact .pure _
    | some around =>
      refine (Answers.mapM fun line _ => answers_labelUses m.chars line).bind ?_
      exact .pure _

/-! ### Symbols -/

theorem answers_stringAt (p : Position) : Answers (stringAt p) d (d.stringAt? p) :=
  (answers_lineText p.line).bind (.pure _)

theorem answers_spotAt (p : Position) : Answers (spotAt p) d (d.spotAt? p) :=
  answers_orElse ((answers_stringAt p).bind (.pure _)) <|
  answers_orElse ((answers_typeAt p).bind (.pure _)) <|
  answers_orElse ((answers_fieldReferenceAt p).bind (.pure _)) <|
  answers_orElse ((answers_methodReferenceAt p).bind (.pure _)) <|
  answers_orElse ((answers_labelAt p).bind (.pure _)) <|
  answers_orElse ((answers_fieldDefinitionAt p).bind (.pure _)) <|
  (answers_methodDefinitionAt p).bind (.pure _)

end Slicer

end SmaliNavigator
