import Mathlib.Data.List.Basic
import SmaliNavigator.Proofs.Class.LineEnds
import SmaliNavigator.Proofs.Spot.Matches

/-!
Symbols asked for by their places, where lines end in a carriage return and a line feed. A line shows
the same text, and what is read at one of its columns is the same, so that every place has the same
symbol.
-/

set_option autoImplicit false

namespace SmaliNavigator

open Text

theorem Pattern.leavesEnd_owner : Pattern.LeavesEnd owner := by
  intro cs r h
  obtain ⟨t,_,rfl⟩ := owner_eq_some_iff.mp h
  exact List.suffix_append _ r

namespace Document

variable {d : Document}

theorem opensWith_withReturns (d : Document) : d.withReturns.opensWith = d.opensWith := by
  funext line keyword
  rw [opensWith, opensWith, lineText_withReturns]

theorem stringAt?_withReturns (d : Document) : d.withReturns.stringAt? = d.stringAt? := by
  funext p
  rw [stringAt?, stringAt?, lineText_withReturns]

/-! ### What readers make of a line -/

theorem valueAt?_withReturns {α : Type} {r : Reader α} (hr : r.Agrees d) {line : Nat}
    {pre post : List Char} (h : d.lineText line = pre ++ post) :
    d.withReturns.valueAt? r line (byteCount pre) = d.valueAt? r line (byteCount pre) :=
  hr.value (Cursor.aligned_atPosition h)

theorem valueAt?_match {α : Type} {r : Reader α} (hr : r.Agrees d) {p : Pattern} (hp : p.LeavesEnd)
    {line : Nat} {m : Match} (h : m ∈ p.findAll (d.lineText line)) :
    d.withReturns.valueAt? r line m.start = d.valueAt? r line m.start := by
  obtain ⟨pre,post,hline,hstart,_⟩ := hp.of_mem_findAll h
  rw [hstart]
  exact valueAt?_withReturns hr hline

theorem valueAt?_matchAt? {α : Type} {r : Reader α} (hr : r.Agrees d) {p : Pattern}
    (hp : p.LeavesEnd) (line col : Nat) :
    ((p.matchAt? (d.lineText line) col).bind fun m => d.withReturns.valueAt? r line m.start) =
      (p.matchAt? (d.lineText line) col).bind fun m => d.valueAt? r line m.start :=
  Option.bind_congr fun _ hm => valueAt?_match hr hp (List.mem_of_find?_eq_some hm)

theorem declarationOn?_withReturns {α : Type} {r : Reader α} (hr : r.Agrees d) {keyword : String}
    (hkeyword : HasNoLineEnd keyword.toList) (line : Nat) :
    d.withReturns.declarationOn? keyword r line = d.declarationOn? keyword r line := by
  have hstart : (Cursor.atPosition d ⟨line,0⟩).Aligned d (Cursor.atPosition d.withReturns ⟨line,0⟩) :=
    Cursor.aligned_atPosition (List.nil_append _).symm
  unfold declarationOn?
  rw [opensWith_withReturns]
  split
  · rcases hstart.expect? hkeyword with ⟨hn,hn'⟩ | ⟨e,e',he,he',hafter⟩
    · dsimp only
      rw [hn, hn']
      exact hr.value hstart
    · dsimp only
      rw [he, he']
      exact hr.value hafter
  · rfl

theorem fieldDefinitionAt?_withReturns (d : Document) (p : Position) :
    d.withReturns.fieldDefinitionAt? p = d.fieldDefinitionAt? p :=
  declarationOn?_withReturns (Field.agrees_reader d) (by decide) p.line

theorem methodDefinitionAt?_withReturns (d : Document) (p : Position) :
    d.withReturns.methodDefinitionAt? p = d.methodDefinitionAt? p :=
  declarationOn?_withReturns (Method.agrees_reader d) (by decide) p.line

theorem fieldReferenceAt?_withReturns (d : Document) (p : Position) :
    d.withReturns.fieldReferenceAt? p = d.fieldReferenceAt? p := by
  unfold fieldReferenceAt?
  rw [lineText_withReturns]
  exact valueAt?_matchAt? (FieldReference.agrees_reader d) Pattern.takes_fieldReference.leavesEnd _ _

theorem methodReferenceAt?_withReturns (d : Document) (p : Position) :
    d.withReturns.methodReferenceAt? p = d.methodReferenceAt? p := by
  unfold methodReferenceAt?
  rw [lineText_withReturns]
  exact valueAt?_matchAt? (MethodReference.agrees_reader d) Pattern.takes_methodReference.leavesEnd _ _

/-! ### Types -/

theorem declaredTypes_withReturns (d : Document) (line : Nat) :
    d.withReturns.declaredTypes line = d.declaredTypes line := by
  rw [declaredTypes, declaredTypes, fieldDefinitionAt?_withReturns, methodDefinitionAt?_withReturns]

theorem referencedTypes_withReturns (d : Document) (line : Nat) :
    d.withReturns.referencedTypes line = d.referencedTypes line := by
  have hfields : ∀ m ∈ Pattern.fieldReference.findAll (d.lineText line),
      d.withReturns.valueAt? FieldReference.reader line m.start =
        d.valueAt? FieldReference.reader line m.start := fun _ hm =>
    valueAt?_match (FieldReference.agrees_reader d) Pattern.takes_fieldReference.leavesEnd hm
  have hmethods : ∀ m ∈ Pattern.methodReference.findAll (d.lineText line),
      d.withReturns.valueAt? MethodReference.reader line m.start =
        d.valueAt? MethodReference.reader line m.start := fun _ hm =>
    valueAt?_match (MethodReference.agrees_reader d) Pattern.takes_methodReference.leavesEnd hm
  simp only [referencedTypes, lineText_withReturns, List.filterMap_congr hfields,
    List.filterMap_congr hmethods]

theorem exists_of_afterLast (sep : Char) (cs : List Char) : ∃ pre, cs = pre ++ afterLast sep cs ∧
    byteCount cs - byteCount (afterLast sep cs) = byteCount pre := by
  obtain ⟨pre,hpre⟩ : afterLast sep cs <:+ cs := by
    unfold afterLast
    rw [← List.reverse_prefix, List.reverse_reverse]
    exact List.takeWhile_prefix _
  have hbytes := congrArg byteCount hpre
  rw [byteCount_append] at hbytes
  exact ⟨pre,hpre.symm,by omega⟩

theorem operandTypes_withReturns (d : Document) (line : Nat) :
    d.withReturns.operandTypes line = d.operandTypes line := by
  obtain ⟨pre,hpre,hcol⟩ := exists_of_afterLast ',' (d.lineText line)
  have hvalue := valueAt?_withReturns (Descriptor.agrees_reader d) hpre
  simp only [operandTypes, lineText_withReturns, opensWith_withReturns, hcol, hvalue]

theorem typeAt?_withReturns (d : Document) (p : Position) : d.withReturns.typeAt? p = d.typeAt? p := by
  have hnamed := valueAt?_matchAt? (Descriptor.agrees_reader d) Pattern.leavesEnd_owner p.line p.col
  simp only [typeAt?, signatureTypes, lineText_withReturns, declaredTypes_withReturns,
    referencedTypes_withReturns, operandTypes_withReturns]
  exact congrArg (Option.or · _) hnamed

/-! ### Labels -/

theorem endsMethod_withReturns (d : Document) : d.withReturns.endsMethod = d.endsMethod := by
  funext line
  rw [endsMethod, endsMethod, lineText_withReturns]

theorem methodStart?_withReturns (d : Document) (line candidate : Nat) :
    d.withReturns.methodStart? line candidate = d.methodStart? line candidate := by
  induction candidate with
  | zero => rw [methodStart?, methodStart?, opensWith_withReturns]
  | succ n ih => rw [methodStart?, methodStart?, opensWith_withReturns, endsMethod_withReturns, ih]

theorem methodAround?_withReturns (d : Document) (line : Nat) :
    d.withReturns.methodAround? line = d.methodAround? line := by
  rw [methodAround?, methodAround?, methodStart?_withReturns, endsMethod_withReturns,
    lineCount_withReturns]

theorem labelAt?_withReturns (d : Document) (p : Position) :
    d.withReturns.labelAt? p = d.labelAt? p := by
  simp only [labelAt?, lineText_withReturns, methodAround?_withReturns]

theorem spotAt?_withReturns (d : Document) (p : Position) :
    d.withReturns.spotAt? p = d.spotAt? p := by
  rw [spotAt?, spotAt?, stringAt?_withReturns, typeAt?_withReturns, fieldReferenceAt?_withReturns,
    methodReferenceAt?_withReturns, labelAt?_withReturns, fieldDefinitionAt?_withReturns,
    methodDefinitionAt?_withReturns]

/-- Whether lines end in a line feed or in a carriage return and a line feed makes no difference: the
same classes are read, with all their places, and every place has the same symbol. The text may have
carriage returns anywhere. -/
theorem readsAlike_withReturns (text : String) :
    (Class.ofString (String.ofList (Text.withReturns text.toList))).toOption =
        (Class.ofString text).toOption.map (fun c =>
          { c with document := .ofString (String.ofList (Text.withReturns text.toList)) }) ∧
      ∀ p, (ofString (String.ofList (Text.withReturns text.toList))).spotAt? p =
        (ofString text).spotAt? p := by
  have hdocument : ofString (String.ofList (Text.withReturns text.toList)) =
      (ofString text).withReturns := by
    rw [ofString, String.toList_ofList]
    rfl
  rw [Class.ofString, Class.ofString, hdocument]
  exact ⟨Class.toOption_ofDocument_withReturns _,spotAt?_withReturns _⟩

end Document

end SmaliNavigator
