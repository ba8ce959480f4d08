import SmaliNavigator.Proofs.Class.References
import SmaliNavigator.Proofs.Navigation.ExactEdits

/-!
What a rename writes, and whether it is read again as one symbol of its kind.

New names are accepted by tests of their own, which know nothing of the patterns that symbols are found
by. An accepted name has always the frame that its kind needs, so that only its characters count.
-/

set_option autoImplicit false

namespace SmaliNavigator

open Text

/-! ### Kinds of names -/

/-- How the names of a kind are written and read. -/
structure NameForm where
  /-- What stands in front of a name. -/
  opening : List Char
  /-- What stands behind a name. -/
  closing : List Char
  isNameChar : Char → Bool
  /-- What is written for a new name, if that is accepted. -/
  replacement? : String → Option String
  /-- Whether a text is read as one symbol of the kind. -/
  Reads : List Char → Prop

namespace NameForm

/-- A class descriptor is found by its pattern, and what reads types takes it for a class, whatever
comes behind. -/
def ofClass : NameForm where
  opening := ['L']
  closing := [';']
  isNameChar := Pattern.isClassNameChar
  replacement? := identifierOfName?
  Reads text := Pattern.owner text = some [] ∧
    ∀ (c : Cursor) (more : List Char), c.rest = text ++ more →
      ∃ n : ClassName, n.identifier.toList = text ∧
        Descriptor.reader.read c = (.ok (.single (.object n)),c.advance text.length)

def ofLabel : NameForm where
  opening := [':']
  closing := []
  isNameChar := Pattern.isLabelChar
  replacement? := labelOfName?
  Reads text := Pattern.label text = some []

/-- The name of a member, which a reference has behind the arrow. -/
def ofMember (name : Pattern) : NameForm where
  opening := []
  closing := []
  isNameChar := Pattern.isMemberNameChar
  replacement? new := if isMemberName new then some new else none
  Reads text := name text = some []

def ofField : NameForm := ofMember (.some1 Pattern.isMemberNameChar)

def ofMethod : NameForm := ofMember .methodName

/-- Accepted names are framed as the kind needs it, and then they are read if all their characters
are. -/
def IsFramed (form : NameForm) : Prop :=
  ∀ new text, form.replacement? new = some text → ∃ name, name ≠ [] ∧
    text.toList = form.opening ++ (name ++ form.closing) ∧
    (form.Reads text.toList ↔ ∀ c ∈ name, form.isNameChar c = true)

end NameForm

/-- The kind of name that a symbol has. String literals have none. -/
def Spot.form? : Spot → Option NameForm
  | .stringLiteral _ => none
  | .type _ => some .ofClass
  | .label _ => some .ofLabel
  | .fieldReference _ | .fieldDefinition _ => some .ofField
  | .methodReference _ | .methodDefinition _ => some .ofMethod

/-! ### Classes -/

theorem TypeShape.chars_ofClass (name : List Char) :
    (TypeShape.ofClass (String.ofList name)).chars = 'L' :: (name ++ [';']) := by
  simp [chars_eq, ofClass, ElementShape.toList_raw_object]

theorem isInternalName_ofList_iff {name : List Char} (hne : name ≠ []) :
    IsInternalName (String.ofList name) ↔ ∀ c ∈ name, Pattern.isClassNameChar c = true := by
  have hname : String.ofList name ≠ "" := fun hnil => hne (by simpa using congrArg String.toList hnil)
  rw [IsInternalName, and_iff_right hname, String.toList_ofList]

theorem owner_eq_nil_iff {name : List Char} (hne : name ≠ []) :
    Pattern.owner ('L' :: (name ++ [';'])) = some [] ↔
      ∀ c ∈ name, Pattern.isClassNameChar c = true := by
  rw [Pattern.owner_eq_some_iff]
  constructor
  · rintro ⟨⟨dimensions,_⟩,⟨hwritable,n,rfl⟩,heq⟩
    rw [List.append_nil, TypeShape.chars_eq] at heq
    cases dimensions with
    | zero =>
      rw [List.replicate_zero, List.nil_append, ElementShape.toList_raw_object] at heq
      rw [List.append_cancel_right (List.cons.inj heq).2]
      exact hwritable.2
    | succ k => cases heq
  · intro hall
    exact ⟨.ofClass (String.ofList name),⟨(isInternalName_ofList_iff hne).mpr hall,_,rfl⟩,
      by rw [TypeShape.chars_ofClass, List.append_nil]⟩

theorem Descriptor.exists_single_of_read {c c' : Cursor} {t : Descriptor}
    (h : Descriptor.reader.read c = (.ok t,c')) (hdimensions : t.dimensions = 0) :
    ∃ e, t = .single e := by
  simp only [Descriptor.reader, Reader.read_of] at h
  split at h
  · next e after _ =>
    obtain ⟨ht,rfl⟩ := Prod.mk.inj h
    obtain rfl := Except.ok.inj ht
    split at hdimensions
    · next hzero => exact ⟨e,if_pos hzero⟩
    · next hmore => exact absurd hdimensions hmore
  · cases h

/-- Where a descriptor of a class comes next, the reader of types takes it up as that class. -/
theorem Descriptor.read_of_ofClass {n : String} (hn : IsInternalName n) {c : Cursor} {more : List Char}
    (h : c.rest = (TypeShape.ofClass n).chars ++ more) :
    ∃ x : ClassName, x.internal = n ∧ Descriptor.reader.read c =
      (.ok (.single (.object x)),c.advance (TypeShape.ofClass n).chars.length) := by
  have hwritable : (TypeShape.ofClass n).IsWritable := hn
  obtain ⟨t,hread,hshape⟩ := Descriptor.read_of_chars hwritable.isReadable h
  obtain ⟨hdimensions,helement⟩ := TypeShape.mk.inj hshape
  obtain ⟨e,rfl⟩ := Descriptor.exists_single_of_read hread hdimensions
  cases e with
  | primitive p span => cases helement
  | object x => exact ⟨x,ElementShape.object.inj helement,hread⟩

theorem reads_ofClass_iff {name : List Char} (hne : name ≠ []) :
    NameForm.ofClass.Reads ('L' :: (name ++ [';'])) ↔ ∀ c ∈ name, Pattern.isClassNameChar c = true := by
  constructor
  · exact fun h => (owner_eq_nil_iff hne).mp h.1
  · intro hall
    refine ⟨(owner_eq_nil_iff hne).mpr hall,fun c more h => ?_⟩
    rw [← TypeShape.chars_ofClass] at h ⊢
    obtain ⟨x,hx,hread⟩ := Descriptor.read_of_ofClass ((isInternalName_ofList_iff hne).mpr hall) h
    refine ⟨x,?_,hread⟩
    rw [TypeShape.chars_ofClass, ClassName.identifier, hx]
    simp

/-- What is accepted for a class is a name between `L` and `;`, whatever the characters of the name. -/
theorem exists_name_of_identifierOfName? {new text : String} (h : identifierOfName? new = some text) :
    ∃ name, name ≠ [] ∧ text.toList = 'L' :: (name ++ [';']) := by
  unfold identifierOfName? at h
  dsimp only at h
  split at h
  · next hid =>
    obtain ⟨n,hn⟩ := Option.isSome_iff_exists.mp hid
    obtain ⟨_,_,name,hne,hname⟩ := ClassName.of_ofIdentifier? hn
    obtain rfl := Option.some.inj h
    exact ⟨name,hne,by rw [String.toList_ofList, hname]⟩
  · split at h
    · next hparts =>
      obtain rfl := Option.some.inj h
      refine ⟨replaceChar '.' '/' (trim new.toList),fun hnil => ?_,by simp⟩
      rw [List.map_eq_nil_iff.mp hnil] at hparts
      cases hparts
    · cases h

theorem NameForm.isFramed_ofClass : ofClass.IsFramed := by
  intro new text h
  obtain ⟨name,hne,htext⟩ := exists_name_of_identifierOfName? h
  exact ⟨name,hne,htext,htext ▸ reads_ofClass_iff hne⟩

/-! ### Labels and members -/

theorem isMemberName_iff {name : String} : isMemberName name = true ↔
    name.toList ≠ [] ∧ ∀ c ∈ name.toList, isNameChar c = true := by
  simp [isMemberName]

theorem some1_eq_nil_iff {p : Char → Bool} {cs : List Char} (hne : cs ≠ []) :
    Pattern.some1 p cs = some [] ↔ ∀ c ∈ cs, p c = true := by
  rw [Pattern.some1_eq_some_iff]
  constructor
  · rintro ⟨xs,_,hall,rfl,_⟩
    rwa [List.append_nil]
  · exact fun hall => ⟨cs,hne,hall,(List.append_nil cs).symm,by simp [Stops]⟩

theorem label_eq_nil_iff {name : List Char} (hne : name ≠ []) :
    Pattern.label (':' :: name) = some [] ↔ ∀ c ∈ name, Pattern.isLabelChar c = true := by
  rw [Pattern.label_eq_some_iff]
  constructor
  · rintro ⟨bare,_,hall,heq,_⟩
    rw [List.append_nil] at heq
    rwa [(List.cons.inj heq).2]
  · exact fun hall => ⟨name,hne,hall,by rw [List.append_nil],by simp [Stops]⟩

/-- Names with an angle bracket are those of constructors, which no method can be given. -/
theorem methodName_eq_nil_iff {name : List Char} (hne : name ≠ []) (hangle : '<' ∉ name) :
    Pattern.methodName name = some [] ↔ ∀ c ∈ name, Pattern.isMemberNameChar c = true := by
  constructor
  · intro h
    obtain ⟨_,hname,rfl⟩ := Pattern.isMethodName_of_methodName h
    rw [List.append_nil] at hangle ⊢
    rcases hname with hname | rfl | rfl
    · exact hname.2
    · exact absurd (by decide) hangle
    · exact absurd (by decide) hangle
  · intro hall
    rw [← List.append_nil name]
    exact Pattern.methodName_append (.inl ⟨hne,hall⟩) (by simp [Stops])

theorem exists_bare_of_labelOfName? {new text : String} (h : labelOfName? new = some text) :
    ∃ bare, isMemberName bare = true ∧ text.toList = ':' :: bare.toList := by
  have hwritten : ∀ bare, (if isMemberName bare then some (":" ++ bare) else none) = some text →
      ∃ bare, isMemberName bare = true ∧ text.toList = ':' :: bare.toList := by
    intro bare hbare
    obtain ⟨hname,rfl⟩ := Option.ite_some_none_eq_some.mp hbare
    exact ⟨bare,hname,by simp⟩
  exact hwritten _ h

theorem NameForm.isFramed_ofLabel : ofLabel.IsFramed := by
  intro new text h
  obtain ⟨bare,hname,htext⟩ := exists_bare_of_labelOfName? h
  obtain ⟨hne,_⟩ := isMemberName_iff.mp hname
  exact ⟨bare.toList,hne,by simp [ofLabel, htext],htext ▸ label_eq_nil_iff hne⟩

theorem NameForm.isFramed_ofField : ofField.IsFramed := by
  intro new text h
  obtain ⟨hname,rfl⟩ := Option.ite_some_none_eq_some.mp h
  obtain ⟨hne,_⟩ := isMemberName_iff.mp hname
  exact ⟨_,hne,(List.append_nil _).symm,some1_eq_nil_iff hne⟩

theorem NameForm.isFramed_ofMethod : ofMethod.IsFramed := by
  intro new text h
  obtain ⟨hname,rfl⟩ := Option.ite_some_none_eq_some.mp h
  obtain ⟨hne,hall⟩ := isMemberName_iff.mp hname
  refine ⟨_,hne,(List.append_nil _).symm,methodName_eq_nil_iff hne fun hangle => ?_⟩
  exact absurd (hall '<' hangle) (by decide)

theorem Spot.isFramed_of_form? {spot : Spot} {form : NameForm} (h : spot.form? = some form) :
    form.IsFramed := by
  cases spot with
  | stringLiteral token => cases h
  | type t => cases h; exact NameForm.isFramed_ofClass
  | label use => cases h; exact NameForm.isFramed_ofLabel
  | fieldReference r => cases h; exact NameForm.isFramed_ofField
  | fieldDefinition f => cases h; exact NameForm.isFramed_ofField
  | methodReference r => cases h; exact NameForm.isFramed_ofMethod
  | methodDefinition m => cases h; exact NameForm.isFramed_ofMethod

/-! ### What the edits write -/

/-- All edits write one text. -/
def RenameEdits.OnlyWrites (r : RenameEdits) (text : String) : Prop :=
  ∀ file edits, r.edits.get? file = some edits → ∀ e ∈ edits, e.text = text

namespace RenameEdits

theorem onlyWrites_ofEdits {es : List (Path × TextEdit)} {text : String} (h : ∀ x ∈ es, x.2.text = text)
    (moves : List (Path × Path)) : (ofEdits es moves).OnlyWrites text := by
  intro file edits hedits e he
  obtain ⟨x,hx,_,rfl⟩ := (exists_edits_ofEdits hedits).2.1 e he
  exact h x hx

theorem onlyWrites_ofMember (occurrences : Occurrences) (declarations : List Location) (old new : String) :
    (ofMember occurrences declarations old new).OnlyWrites new := by
  refine onlyWrites_ofEdits (fun x hx => ?_) []
  rcases List.mem_append.mp hx with hx | hx
  · obtain ⟨⟨key,ls⟩,_,hx⟩ := List.mem_flatMap.mp hx
    dsimp only at hx
    split at hx
    · cases hx
    · obtain ⟨l,_,rfl⟩ := List.mem_map.mp hx
      rfl
  · obtain ⟨l,_,rfl⟩ := List.mem_map.mp hx
    rfl

theorem onlyWrites_ofClass (occurrences : List Location) (files : List Path) (old new : String) :
    (ofClass occurrences files old new).OnlyWrites new := by
  refine onlyWrites_ofEdits (fun x hx => ?_) _
  obtain ⟨l,_,rfl⟩ := List.mem_map.mp hx
  rfl

theorem onlyWrites_ofLabel (file : Path) (occurrences : List Span) (new : String) :
    (ofLabel file occurrences new).OnlyWrites new := by
  refine onlyWrites_ofEdits (fun x hx => ?_) []
  obtain ⟨l,_,rfl⟩ := List.mem_map.mp hx
  rfl

end RenameEdits

namespace Query

variable {α β : Type} {P : α → Prop}

/-- What a question gives, if it does and does not refuse, has a property. -/
def Gives (q : Query (Except Refusal α)) (P : α → Prop) : Prop :=
  ∀ s a x, (q.run s a).1 = some (.ok x) → P x

theorem gives_refuse (r : Refusal) : Gives (refuse r) P := by
  intro s a x h
  cases h

theorem gives_ok {x : α} (h : P x) : Gives (pure (.ok x)) P := by
  intro s a y hy
  cases hy
  exact h

theorem Gives.bind {f : β → Query (Except Refusal α)} (q : Query β) (h : ∀ y, Gives (f y) P) :
    Gives (q >>= f) P := by
  intro s a x hx
  rw [run_bind] at hx
  rcases hq : q.run s a with ⟨_ | y,b⟩
  · rw [hq] at hx
    cases hx
  · rw [hq] at hx
    exact h y s b x hx

theorem gives_renameFamily (family : MemberFamily) (old new : String) :
    Gives (renameFamily family old new) (·.OnlyWrites new) :=
  .bind _ fun _ => gives_ok (RenameEdits.onlyWrites_ofMember _ _ _ _)

theorem gives_withClassOf {file : Path} {f : Class → Query (Except Refusal α)}
    (h : ∀ c, Gives (f c) P) : Gives (withClassOf file f) P := by
  refine .bind _ fun c? => ?_
  cases c? with
  | none => exact gives_refuse _
  | some c => exact h c

theorem gives_renameClass (t : Descriptor) (new : String) : Gives (renameClass t new) fun r =>
    ∃ text, identifierOfName? new = some text ∧ r.OnlyWrites text := by
  unfold renameClass
  split
  · exact gives_refuse _
  · split
    · exact gives_refuse _
    · next text htext =>
      refine .bind _ fun found => ?_
      split
      · exact gives_refuse _
      · exact .bind _ fun _ => gives_ok ⟨text,htext,RenameEdits.onlyWrites_ofClass _ _ _ _⟩

theorem gives_ofMember {spot : Spot} {name : Pattern} (hform : spot.form? = some (.ofMember name))
    {new : String} {q : Query (Except Refusal RenameEdits)} (hq : Gives q (·.OnlyWrites new)) :
    Gives (if isMemberName new then q else refuse (.invalidName new)) fun r =>
      ∃ form text, spot.form? = some form ∧ form.replacement? new = some text ∧ r.OnlyWrites text := by
  split
  · next hname => exact fun s a r h => ⟨_,new,hform,if_pos hname,hq s a r h⟩
  · exact gives_refuse _

theorem gives_renameSpot (file : Path) (new : String) (spot : Spot) :
    Gives (renameSpot file new spot) fun r =>
      ∃ form text, spot.form? = some form ∧ form.replacement? new = some text ∧ r.OnlyWrites text := by
  have hfield (owner : String) (field : Field) (isDeclaration : Bool) :
      Gives (renameField owner field isDeclaration new) (·.OnlyWrites new) :=
    .bind _ fun family => gives_renameFamily family _ new
  have hmethod (owner : String) (method : Method) :
      Gives (renameMethod owner method new) (·.OnlyWrites new) :=
    .bind _ fun family => gives_renameFamily family _ new
  cases spot with
  | stringLiteral token => exact gives_refuse _
  | type t =>
    intro s a r h
    obtain ⟨text,htext,hwrites⟩ := gives_renameClass t new s a r h
    exact ⟨.ofClass,text,rfl,htext,hwrites⟩
  | label use =>
    rw [renameSpot]
    split
    · exact gives_refuse _
    · next text htext =>
      exact gives_ok ⟨.ofLabel,text,rfl,htext,RenameEdits.onlyWrites_ofLabel _ _ _⟩
  | fieldReference ref => exact gives_ofMember rfl (hfield _ _ _)
  | fieldDefinition f => exact gives_ofMember rfl (gives_withClassOf fun c => hfield _ _ _)
  | methodReference ref =>
    rw [renameSpot]
    split
    · exact gives_refuse _
    · exact gives_ofMember rfl (hmethod _ _)
  | methodDefinition m =>
    rw [renameSpot]
    split
    · exact gives_refuse _
    · exact gives_ofMember rfl (gives_withClassOf fun c => hmethod _ _)

variable {s : Surroundings} {ix : Index}

theorem onlyWrites_of_rename {file : Path} {p : Position} {new : String} {r : RenameEdits}
    (h : ((rename file p new).ask s ix).1 = some (.ok r)) :
    ∃ spot form text, ((spotIn? file p).ask s ix).1 = some (some spot) ∧ spot.form? = some form ∧
      form.replacement? new = some text ∧ r.OnlyWrites text := by
  have hrun : ((rename file p new).run s ⟨ix,0,0⟩).1 = some (.ok r) := h
  rw [rename, run_bind] at hrun
  rcases hspot : (spotIn? file p).run s ⟨ix,0,0⟩ with ⟨_ | _ | spot,a⟩
  · rw [hspot] at hrun
    cases hrun
  · rw [hspot] at hrun
    cases hrun
  · rw [hspot] at hrun
    obtain ⟨form,text,hform,htext,hwrites⟩ := gives_renameSpot file new spot s a r hrun
    exact ⟨spot,form,text,congrArg Prod.fst hspot,hform,htext,hwrites⟩

/-- What an accepted rename writes is the new name in the form of its kind, and it is read as one symbol
of that kind exactly if all characters of the name are those of the kind. -/
theorem rename_reads_iff {file : Path} {p : Position} {new : String} {r : RenameEdits}
    (h : ((rename file p new).ask s ix).1 = some (.ok r)) :
    ∃ spot form text name, ((spotIn? file p).ask s ix).1 = some (some spot) ∧
      spot.form? = some form ∧ form.replacement? new = some text ∧ r.OnlyWrites text ∧ name ≠ [] ∧
      text.toList = form.opening ++ (name ++ form.closing) ∧
      (form.Reads text.toList ↔ ∀ c ∈ name, form.isNameChar c = true) := by
  obtain ⟨spot,form,text,hspot,hform,htext,hwrites⟩ := onlyWrites_of_rename h
  obtain ⟨name,hne,hwritten,hreads⟩ := Spot.isFramed_of_form? hform new text htext
  exact ⟨spot,form,text,name,hspot,hform,htext,hwrites,hne,hwritten,hreads⟩

/-- A class that is given a name with letters of another script. -/
theorem rename_reads_iff_accented :
    let file := Path.ofString "a.smali"
    let s : Surroundings :=
      ⟨(MemoryProject.empty.put file ⟨".class La;\n.super Lb;\n",none⟩).source,.never⟩
    let ix := (Operation.load.query.ask s (.new .default)).2
    ∃ r, ((rename file ⟨0,8⟩ " q.é-1").ask s ix).1 = some (.ok r) ∧ (r.edits.get? file).isSome ∧
      r.OnlyWrites "Lq/é-1;" ∧ NameForm.ofClass.Reads "Lq/é-1;".toList := by
  intro file s ix
  have hasked : (((rename file ⟨0,8⟩ " q.é-1").ask s ix).1.bind Except.toOption).any (fun r =>
      (r.edits.get? file).isSome) = true := by decide +kernel
  obtain ⟨r,hr,hedits⟩ := exists_ok_of_any hasked
  obtain ⟨spot,form,text,name,hspot,hform,htext,hwrites,-,hwritten,hreads⟩ := rename_reads_iff hr
  have hclass : ((spotIn? file ⟨0,8⟩).ask s ix).1 =
      some (some (.type (.single (.object ⟨"a",.within 0 7 10⟩)))) := by decide +kernel
  obtain rfl := Option.some.inj (Option.some.inj (hclass.symm.trans hspot))
  obtain rfl := Option.some.inj hform
  have hid : identifierOfName? " q.é-1" = some "Lq/é-1;" := by decide +kernel
  obtain rfl : "Lq/é-1;" = text := Option.some.inj (hid.symm.trans htext)
  have hbody : "Lq/é-1;".toList = 'L' :: ("q/é-1".toList ++ [';']) := by decide +kernel
  obtain rfl : "q/é-1".toList = name :=
    List.append_cancel_right (List.cons.inj (hbody.symm.trans hwritten)).2
  exact ⟨r,hr,hedits,hwrites,hreads.mpr (List.all_eq_true.mp (by decide +kernel))⟩

/-- A label is given a hyphen, a field a fraction and a class a blank. -/
theorem not_rename_reads :
    let file := Path.ofString "a.smali"
    let s : Surroundings := ⟨(MemoryProject.empty.put file
      ⟨".class La;\n.super Lb;\n.field x:I\n.method f()V\n:l\n.end method\n",none⟩).source,.never⟩
    let ix := (Operation.load.query.ask s (.new .default)).2
    let Writes (p : Position) (new text : String) : Prop :=
      ∃ r, ((rename file p new).ask s ix).1 = some (.ok r) ∧ (r.edits.get? file).isSome ∧
        r.OnlyWrites text
    (Writes ⟨4,0⟩ "a-b" ":a-b" ∧ ¬NameForm.ofLabel.Reads ":a-b".toList) ∧
      (Writes ⟨2,7⟩ "a½" "a½" ∧ ¬NameForm.ofField.Reads "a½".toList) ∧
      (Writes ⟨0,8⟩ "Lx y;" "Lx y;" ∧ ¬NameForm.ofClass.Reads "Lx y;".toList) := by
  intro file s ix Writes
  have hwrites {p : Position} {new text : String} {form : NameForm} (spot : Spot)
      (hspot : ((spotIn? file p).ask s ix).1 = some (some spot)) (hform : spot.form? = some form)
      (htext : form.replacement? new = some text)
      (hasked : (((rename file p new).ask s ix).1.bind Except.toOption).any (fun r =>
        (r.edits.get? file).isSome) = true) : Writes p new text := by
    obtain ⟨r,hr,hedits⟩ := exists_ok_of_any hasked
    obtain ⟨_,_,_,hspot',hform',htext',honly⟩ := onlyWrites_of_rename hr
    obtain rfl := Option.some.inj (Option.some.inj (hspot.symm.trans hspot'))
    obtain rfl := Option.some.inj (hform.symm.trans hform')
    obtain rfl := Option.some.inj (htext.symm.trans htext')
    exact ⟨r,hr,hedits,honly⟩
  have hlabel : Writes ⟨4,0⟩ "a-b" ":a-b" :=
    hwrites (.label ⟨⟨":l",.within 4 0 2⟩,some (.within 4 0 2),[.within 4 0 2]⟩)
      (by decide +kernel) rfl (by decide +kernel) (by decide +kernel)
  have hfield : Writes ⟨2,7⟩ "a½" "a½" :=
    hwrites (.fieldDefinition ⟨.within 2 0 10,[],⟨"x",.within 2 7 8⟩,
      .single (.primitive .int (.within 2 9 10)),none⟩) (by decide +kernel) rfl
      (by decide +kernel) (by decide +kernel)
  have hclass : Writes ⟨0,8⟩ "Lx y;" "Lx y;" :=
    hwrites (.type (.single (.object ⟨"a",.within 0 7 10⟩))) (by decide +kernel) rfl
      (by decide +kernel) (by decide +kernel)
  have hhyphen : Pattern.label ":a-b".toList = some "-b".toList := by decide +kernel
  have hfraction : Pattern.some1 Pattern.isMemberNameChar "a½".toList = some "½".toList := by
    decide +kernel
  have hblank : Pattern.owner "Lx y;".toList = none := by decide +kernel
  exact ⟨⟨hlabel,fun h => by cases hhyphen.symm.trans h⟩,
    ⟨hfield,fun h => by cases hfraction.symm.trans h⟩,
    ⟨hclass,fun h => by cases hblank.symm.trans h.1⟩⟩

end Query

end SmaliNavigator
