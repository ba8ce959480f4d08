import SmaliNavigator.Proofs.Navigation.ExactEdits
import SmaliNavigator.Proofs.Spot.Declarations

/-!
What a rename replaces. Whatever it starts from, and whatever it has found when it is called off, its
edits are exact: where the old name stands in the text that a file has now, and nowhere else.

The names come from the text itself. What is asked about was read there, and so were the classes that
the keys are made with; only the name of a class with an arrow in it would hide where the name of a
member starts.
-/

set_option autoImplicit false

namespace SmaliNavigator

open Text

/-! ### Names that were read -/

namespace Reader

theorem triple_self {α : Type} (r : Reader α) (c : Cursor) :
    Triple (· = c) r fun a _ => ∃ c', r.read c = (.ok a,c') := by
  rintro _ a c' rfl hread
  exact ⟨c',hread⟩

end Reader

theorem isEndedBy_tokenUntil (separator : Char) :
    Reader.Triple (fun _ => True) (.tokenUntil separator) fun t _ => IsEndedBy separator t.text := by
  intro c t c' _ hread
  obtain ⟨_,_,hnone,hinline,_⟩ := exists_of_tokenUntil hread
  exact ⟨hnone,hinline⟩

theorem Field.isEndedBy_reader :
    Reader.Triple (fun _ => True) Field.reader fun f _ => IsEndedBy ':' f.name.text :=
  Reader.triple_keeps.bind fun _ => Reader.triple_keeps.bind fun _ =>
    (isEndedBy_tokenUntil ':').bind fun _ => Reader.triple_keeps.bind fun _ =>
    Reader.triple_keeps.bind fun _ => Reader.triple_pure fun _ h => h

theorem Method.isEndedBy_reader :
    Reader.Triple (fun _ => True) Method.reader fun m _ => IsEndedBy '(' m.name.text :=
  Reader.triple_keeps.bind fun _ => Reader.triple_keeps.bind fun _ =>
    (isEndedBy_tokenUntil '(').bind fun _ => Reader.triple_keeps.bind fun _ =>
    Reader.triple_keeps.bind fun _ => Reader.triple_pure fun _ h => h

theorem FieldReference.isEndedBy_reader :
    Reader.Triple (fun _ => True) FieldReference.reader fun r _ => IsEndedBy ':' r.field.name.text :=
  Reader.triple_keeps.bind fun _ => Reader.triple_keeps.bind fun _ =>
    (isEndedBy_tokenUntil ':').bind fun _ => Reader.triple_keeps.bind fun _ =>
    Reader.triple_keeps.bind fun _ => Reader.triple_pure fun _ h => h

theorem MethodReference.isEndedBy_reader :
    Reader.Triple (fun _ => True) MethodReference.reader fun r _ =>
      IsEndedBy '(' r.method.name.text :=
  Reader.triple_keeps.bind fun _ => Reader.triple_keeps.bind fun _ =>
    (isEndedBy_tokenUntil '(').bind fun _ => Reader.triple_keeps.bind fun _ =>
    Reader.triple_keeps.bind fun _ => Reader.triple_keeps.bind fun _ =>
    Reader.triple_pure fun _ h => h

section Owners

variable {c c' : Cursor}

theorem FieldReference.owner_of_read {r : FieldReference}
    (hread : FieldReference.reader.read c = (.ok r,c')) :
    ∃ c₁, ownerReader.read c = (.ok r.owner,c₁) := by
  have howner : Reader.Triple (· = c) FieldReference.reader fun r _ =>
      ∃ c₁, ownerReader.read c = (.ok r.owner,c₁) :=
    (Reader.triple_asks _).bind fun _ => (Reader.triple_self ownerReader c).bind fun _ =>
      Reader.triple_keeps.bind fun _ => Reader.triple_keeps.bind fun _ =>
      Reader.triple_keeps.bind fun _ => Reader.triple_pure fun _ h => h
  exact howner c r c' rfl hread

theorem MethodReference.owner_of_read {r : MethodReference}
    (hread : MethodReference.reader.read c = (.ok r,c')) :
    ∃ c₁, ownerReader.read c = (.ok r.owner,c₁) := by
  have howner : Reader.Triple (· = c) MethodReference.reader fun r _ =>
      ∃ c₁, ownerReader.read c = (.ok r.owner,c₁) :=
    (Reader.triple_asks _).bind fun _ => (Reader.triple_self ownerReader c).bind fun _ =>
      Reader.triple_keeps.bind fun _ => Reader.triple_keeps.bind fun _ =>
      Reader.triple_keeps.bind fun _ => Reader.triple_keeps.bind fun _ =>
      Reader.triple_pure fun _ h => h
  exact howner c r c' rfl hread

theorem TypeShape.IsOwner.isOwnerName {t : TypeShape} (ht : t.IsOwner) {rest : List Char}
    (hrest : c.rest = t.chars ++ ("->".toList ++ rest)) {owner : Descriptor}
    (hread : ownerReader.read c = (.ok owner,c')) : IsOwnerName owner.raw := by
  obtain ⟨x,hx,hshape⟩ := read_ownerReader ht hrest
  obtain ⟨hxowner,-⟩ := Prod.mk.inj (hx.symm.trans hread)
  obtain rfl := Except.ok.inj hxowner
  have hraw : x.raw.toList = t.chars := by rw [← x.raw_shape, hshape, TypeShape.chars]
  exact .of_not_mem (hraw ▸ ht.1.not_mem_chars (by decide)) (hraw ▸ ht.1.not_mem_chars (by decide))

end Owners

/-! ### Symbols of a document -/

/-- What a symbol is called, as far as it can be renamed. -/
def Spot.name? : Spot → Option String
  | stringLiteral _ => none
  | type t => t.classIdentifier?
  | fieldReference r => some r.field.name.text
  | methodReference r => some r.method.name.text
  | label l => some l.name.text
  | fieldDefinition f => some f.name.text
  | methodDefinition m => some m.name.text

namespace Document

variable {d : Document} {p : Position}

/-- What the name of a symbol at a place is like. -/
def IsNamedAt (d : Document) (p : Position) : Spot → Prop
  | .stringLiteral _ => True
  | .type _ => True
  | .fieldReference r => IsOwnerName r.owner.raw ∧ IsEndedBy ':' r.field.name.text
  | .methodReference r => IsOwnerName r.owner.raw ∧ IsEndedBy '(' r.method.name.text
  | .label l => d.labelAt? p = some l
  | .fieldDefinition f => IsEndedBy ':' f.name.text
  | .methodDefinition m => IsEndedBy '(' m.name.text

theorem read_of_valueAt? {α : Type} {r : Reader α} {line col : Nat} {x : α}
    (h : d.valueAt? r line col = some x) :
    ∃ c', r.read (.atPosition d ⟨line,col⟩) = (.ok x,c') := by
  unfold valueAt? at h
  cases hvalue : r.value (.atPosition d ⟨line,col⟩) with
  | error e => simp [hvalue, Except.toOption] at h
  | ok y =>
    obtain rfl : y = x := by simpa [hvalue, Except.toOption] using h
    exact ⟨_,Reader.read_of_value hvalue⟩

theorem read_of_declarationOn? {α : Type} {keyword : String} {r : Reader α} {line : Nat} {x : α}
    (h : d.declarationOn? keyword r line = some x) : ∃ c c', c.On d ∧ r.read c = (.ok x,c') := by
  have hstart := Cursor.on_lineStart d line
  unfold declarationOn? at h
  split at h
  · have hon : (((Cursor.atPosition d ⟨line,0⟩).expect? keyword).getD
        (Cursor.atPosition d ⟨line,0⟩)).On d := by
      cases hexpect : (Cursor.atPosition d ⟨line,0⟩).expect? keyword with
      | none => exact hstart
      | some after => exact hstart.reaches (.expect? hexpect)
    dsimp only at h
    generalize ((Cursor.atPosition d ⟨line,0⟩).expect? keyword).getD _ = c at h hon
    cases hvalue : r.value c with
    | error e => simp [hvalue, Except.toOption] at h
    | ok y =>
      obtain rfl : y = x := by simpa [hvalue, Except.toOption] using h
      exact ⟨c,_,hon,Reader.read_of_value hvalue⟩
  · cases h

theorem exists_read_of_matchAt? {α : Type} {pattern : Pattern} {kind : List Char → Prop}
    (hp : pattern.Takes kind) (hne : ∀ text, kind text → text ≠ []) {r : Reader α} {x : α}
    (h : ((pattern.matchAt? (d.lineText p.line) p.col).bind fun m => d.valueAt? r p.line m.start) =
      some x) :
    ∃ text rest c c', kind text ∧ c.rest = text ++ rest ∧ r.read c = (.ok x,c') := by
  obtain ⟨m,hm,hvalue⟩ := Option.bind_eq_some_iff.mp h
  have hmem := List.mem_of_find?_eq_some hm
  have hkind := hp.isKind_of_mem_findAll hmem
  obtain ⟨_,rest,_,_,_,_,hrest⟩ := exists_of_mem_findAll hp.leavesEnd hmem (hne _ hkind)
  obtain ⟨c',hread⟩ := read_of_valueAt? hvalue
  exact ⟨m.chars,rest,_,c',hkind,hrest,hread⟩

theorem isNamedAt_of_spotAt? {spot : Spot} (h : d.spotAt? p = some spot) : d.IsNamedAt p spot := by
  unfold spotAt? at h
  simp only [Option.or_eq_some_iff, Option.map_eq_some_iff] at h
  rcases h with ⟨_,_,rfl⟩ | ⟨_,⟨_,_,rfl⟩ | ⟨_,⟨r,hr,rfl⟩ | ⟨_,⟨r,hr,rfl⟩ | ⟨_,⟨u,hu,rfl⟩ |
    ⟨_,⟨f,hf,rfl⟩ | ⟨_,m,hm,rfl⟩⟩⟩⟩⟩⟩
  · trivial
  · trivial
  · obtain ⟨text,rest,c,c',hkind,hrest,hread⟩ :=
      exists_read_of_matchAt? Pattern.takes_fieldReference (fun _ => (·.ne_nil)) hr
    obtain ⟨owner,type,name,howner,_,_,rfl⟩ := hkind
    obtain ⟨_,hread'⟩ := FieldReference.owner_of_read hread
    exact ⟨howner.isOwnerName (by simpa using hrest) hread',
      FieldReference.isEndedBy_reader c r c' trivial hread⟩
  · obtain ⟨text,rest,c,c',hkind,hrest,hread⟩ :=
      exists_read_of_matchAt? Pattern.takes_methodReference (fun _ => (·.ne_nil)) hr
    obtain ⟨owner,_,_,name,howner,_,_,_,rfl⟩ := hkind
    obtain ⟨_,hread'⟩ := MethodReference.owner_of_read hread
    exact ⟨howner.isOwnerName (by simpa using hrest) hread',
      MethodReference.isEndedBy_reader c r c' trivial hread⟩
  · exact hu
  · obtain ⟨c,c',-,hread⟩ := read_of_declarationOn? hf
    exact Field.isEndedBy_reader c f c' trivial hread
  · obtain ⟨c,c',-,hread⟩ := read_of_declarationOn? hm
    exact Method.isEndedBy_reader c m c' trivial hread

end Document

/-! ### Families -/

theorem Field.exists_key (f : Field) (owner : String) :
    ∃ more, f.key owner = referenceKey owner (f.name.text ++ (':').toString ++ more) :=
  ⟨f.type.raw,rfl⟩

theorem Method.exists_key (m : Method) (owner : String) :
    ∃ more, m.key owner = referenceKey owner (m.name.text ++ ('(').toString ++ more) := by
  refine ⟨String.join (m.parameters.map Descriptor.raw) ++ ")" ++ m.returnType.raw,?_⟩
  simp only [key, descriptor, String.append_assoc]
  rfl

theorem Source.Declares.names_field {source : Source} {known : PathSet} {file : Path} {c : Class}
    (h : source.Declares known file c) {f g : Field} (hg : g ∈ c.fieldsLike f) :
    ∃ d, source.textOf? file = some d ∧ d.Names ':' f.name.text g.name.span := by
  obtain ⟨d,hd,hread⟩ := Source.exists_of_classOf? h.2
  obtain ⟨hmem,hsame⟩ := List.mem_filter.mp hg
  have hname : g.name.text = f.name.text := by
    simp only [Field.same, Bool.and_eq_true, beq_iff_eq] at hsame
    exact hsame.1
  exact ⟨d,hd,hname ▸ (Class.isDeclared_of_mem_fields hread hmem).names⟩

theorem Source.Declares.names_method {source : Source} {known : PathSet} {file : Path} {c : Class}
    (h : source.Declares known file c) {m n : Method} (hn : n ∈ c.methodsLike m) :
    ∃ d, source.textOf? file = some d ∧ d.Names '(' m.name.text n.name.span := by
  obtain ⟨d,hd,hread⟩ := Source.exists_of_classOf? h.2
  obtain ⟨hmem,hsame⟩ := List.mem_filter.mp hn
  have hname : n.name.text = m.name.text := by
    simp only [Method.same, Bool.and_eq_true, beq_iff_eq] at hsame
    exact hsame.1.1
  exact ⟨d,hd,hname ▸ (Class.isDeclared_of_mem_allMethods hread hmem).names⟩

namespace Query

variable {s : Surroundings} {known : PathSet}

theorem finds_refuse (e : Refusal) {P : RenameEdits → Prop} :
    Finds s known (refuse e) fun answer => ∀ r, answer = .ok r → P r :=
  .pure fun _ hr => by cases hr

theorem finds_orRefuse {q : Query (Except Refusal RenameEdits)} {P : RenameEdits → Prop}
    (h : Finds s known q fun answer => ∀ r, answer = .ok r → P r) (b : Bool) (e : Refusal) :
    Finds s known (if b then q else refuse e) fun answer => ∀ r, answer = .ok r → P r := by
  split
  · exact h
  · exact finds_refuse e

section Spelling

variable (hspelling : s.source.IgnoresSpelling)
include hspelling

theorem finds_renameFamily {family : MemberFamily} {separator : Char} {old : String}
    (hfamily : family.IsNamed s.source separator old) (hold : IsEndedBy separator old) (new : String) :
    Finds s known (renameFamily family old new) fun answer =>
      ∀ r, answer = .ok r → r.IsExact s.source old := by
  refine (finds_findOccurrences family.symbols).bind fun found hfound => .pure fun r hr => ?_
  obtain ⟨texts,htexts,rfl⟩ := hfound
  obtain rfl := Except.ok.inj hr
  exact RenameEdits.isExact_ofMember hspelling hfamily hold htexts

/-- A class is renamed only where a file declares it, and so its name is one of a class. -/
theorem finds_renameClass (t : Descriptor) (new : String) :
    Finds s known (renameClass t new) fun answer => ∀ r, answer = .ok r →
      ∃ old, t.classIdentifier? = some old ∧ r.IsExact s.source old := by
  unfold renameClass
  cases t.classIdentifier? with
  | none => exact finds_refuse _
  | some old =>
  dsimp only
  split
  · exact finds_refuse _
  next identifier _ =>
  refine (finds_findClasses hspelling old).bind fun xs hxs => ?_
  split
  · exact finds_refuse _
  next files hfiles =>
  refine (finds_findOccurrences [old]).bind fun found hfound => .pure fun r hr => ?_
  obtain ⟨texts,htexts,rfl⟩ := hfound
  obtain rfl := Except.ok.inj hr
  obtain ⟨x,hx⟩ : ∃ x, x ∈ xs := List.exists_mem_of_ne_nil _ fun hnil => hfiles (by simp [hnil])
  obtain ⟨hdeclared,hid⟩ := hxs x hx
  obtain ⟨_,_,hread⟩ := Source.exists_of_classOf? hdeclared.2
  have hkey : IsClassKey old.toList := hid ▸ Class.isClassKey_identifier hread
  refine ⟨_,rfl,RenameEdits.isExact_ofEdits hspelling identifier hkey.apart fun e he => ?_⟩
  obtain ⟨l,hl,rfl⟩ := List.mem_map.mp he
  obtain ⟨y,hy,hly⟩ := List.mem_flatMap.mp hl
  obtain ⟨old,hmem,rfl⟩ := List.mem_map.mp hy
  obtain rfl := List.mem_singleton.mp (List.mem_eraseDups.mp hmem)
  obtain ⟨⟨g,d⟩,hgd,hplace⟩ := List.mem_flatMap.mp hly
  obtain ⟨before,rest,hchars,rfl,_⟩ := exists_place_of_mem_symbolLocations hplace
  exact ⟨rfl,d,htexts _ hgd,before,rest,hchars,rfl⟩

theorem finds_renameLabel {file : Path} {d : Document} (hd : s.source.textOf? file = some d)
    {p : Position} {u : LabelUse} (hlabel : d.labelAt? p = some u) (new : String) :
    Finds s known (renameSpot file new (.label u)) fun answer => ∀ r, answer = .ok r →
      r.IsExact s.source u.name.text := by
  unfold renameSpot
  dsimp only
  split
  · exact finds_refuse _
  next label _ =>
  refine .pure fun r hr => ?_
  obtain rfl := Except.ok.inj hr
  obtain ⟨hlabel,hplaces⟩ := Document.exists_of_labelAt? hlabel
  refine RenameEdits.isExact_ofEdits hspelling label hlabel.apart fun e he => ?_
  obtain ⟨span,hspan,rfl⟩ := List.mem_map.mp he
  obtain ⟨before,rest,hchars,heq⟩ := hplaces span hspan
  exact ⟨rfl,d,hd,before,rest,hchars,heq⟩

variable (hnames : ∀ f c, s.source.Declares known f c → IsOwnerName c.identifier)
include hnames

theorem finds_fieldFamily {owner : String} (howner : IsOwnerName owner) (f : Field)
    (isDeclaration : Bool) :
    Finds s known (fieldFamily owner f isDeclaration) fun family =>
      family.IsNamed s.source ':' f.name.text := by
  have hfound (declaring : List String) (hdeclaring : ∀ x ∈ declaring, IsOwnerName x) :
      Finds s known (do
        let declarations ← nameLocations (fun c => (c.fieldsLike f).map (·.name)) declaring
        let family ← withSubclasses declaring []
        return ⟨family.map f.key,declarations⟩) fun family =>
          MemberFamily.IsNamed family s.source ':' f.name.text := by
    refine (finds_nameLocations hspelling _ _).bind fun declarations hdeclarations =>
      (finds_withSubclasses hspelling hnames hdeclaring (by simp)).bind fun family hfamily =>
      .pure ⟨fun key hkey => ?_,fun l hl => ?_⟩
    · obtain ⟨x,hx,rfl⟩ := List.mem_map.mp hkey
      obtain ⟨more,hmore⟩ := f.exists_key x
      exact ⟨x,more,hfamily x hx,hmore⟩
    · obtain ⟨c,hc,t,ht,hspan⟩ := hdeclarations l hl
      obtain ⟨g,hg,rfl⟩ := List.mem_map.mp ht
      rw [hspan]
      exact hc.names_field hg
  cases isDeclaration with
  | true => exact hfound [owner] (List.forall_mem_singleton.mpr howner)
  | false =>
    refine (finds_resolveField hspelling owner f).bind fun ds hds => ?_
    dsimp only
    split
    · exact hfound [owner] (List.forall_mem_singleton.mpr howner)
    · refine hfound _ fun x hx => ?_
      obtain ⟨d,hd,rfl⟩ := List.mem_map.mp (List.mem_eraseDups.mp hx)
      exact hnames _ _ (hds d hd).1

theorem finds_methodFamily {owner : String} (howner : IsOwnerName owner) (m : Method) :
    Finds s known (methodFamily owner m) fun family =>
      family.IsNamed s.source '(' m.name.text := by
  have howners : Finds s known (methodOwners owner m) fun xs => ∀ x ∈ xs, IsOwnerName x := by
    unfold methodOwners
    split
    · exact .pure (List.forall_mem_singleton.mpr howner)
    · refine (finds_rootDeclarers hspelling hnames owner m false).bind fun roots hroots => ?_
      split
      · exact finds_withSubclasses hspelling hnames (List.forall_mem_singleton.mpr howner) (by simp)
      · exact finds_withSubclasses hspelling hnames hroots (by simp)
  refine howners.bind fun family hfamily =>
    (finds_nameLocations hspelling _ _).bind fun declarations hdeclarations =>
    .pure ⟨fun key hkey => ?_,fun l hl => ?_⟩
  · obtain ⟨x,hx,rfl⟩ := List.mem_map.mp hkey
    obtain ⟨more,hmore⟩ := m.exists_key x
    exact ⟨x,more,hfamily x hx,hmore⟩
  · obtain ⟨c,hc,t,ht,hspan⟩ := hdeclarations l hl
    obtain ⟨n,hn,rfl⟩ := List.mem_map.mp ht
    rw [hspan]
    exact hc.names_method hn

theorem finds_withClassOf {file : Path} (hfile : PathMap.contains known file = true)
    {f : Class → Query (Except Refusal RenameEdits)} {P : RenameEdits → Prop}
    (h : ∀ c, IsOwnerName c.identifier →
      Finds s known (f c) fun answer => ∀ r, answer = .ok r → P r) :
    Finds s known (withClassOf file f) fun answer => ∀ r, answer = .ok r → P r := by
  refine (finds_classOf? hspelling hfile).bind fun c? hc => ?_
  cases c? with
  | none => exact finds_refuse _
  | some c => exact h c (hnames file c (hc c rfl))

theorem finds_renameField {owner : String} (howner : IsOwnerName owner) {f : Field}
    (hname : IsEndedBy ':' f.name.text) (isDeclaration : Bool) (new : String) :
    Finds s known (renameField owner f isDeclaration new) fun answer => ∀ r, answer = .ok r →
      r.IsExact s.source f.name.text :=
  (finds_fieldFamily hspelling hnames howner f isDeclaration).bind fun _ hfamily =>
    finds_renameFamily hspelling hfamily hname new

theorem finds_renameMethod {owner : String} (howner : IsOwnerName owner) {m : Method}
    (hname : IsEndedBy '(' m.name.text) (new : String) :
    Finds s known (renameMethod owner m new) fun answer => ∀ r, answer = .ok r →
      r.IsExact s.source m.name.text :=
  (finds_methodFamily hspelling hnames howner m).bind fun _ hfamily =>
    finds_renameFamily hspelling hfamily hname new

theorem finds_renameSpot {file : Path} (hfile : PathMap.contains known file = true) {d : Document}
    (hd : s.source.textOf? file = some d) {p : Position} {spot : Spot} (hspot : d.IsNamedAt p spot)
    (new : String) :
    Finds s known (renameSpot file new spot) fun answer => ∀ r, answer = .ok r →
      ∃ old, spot.name? = some old ∧ r.IsExact s.source old := by
  have hnamed {q : Query (Except Refusal RenameEdits)} {old : String} (hold : spot.name? = some old)
      (h : Finds s known q fun answer => ∀ r, answer = .ok r → r.IsExact s.source old) :
      Finds s known q fun answer => ∀ r, answer = .ok r →
        ∃ old, spot.name? = some old ∧ r.IsExact s.source old :=
    h.mono fun _ hexact r hr => ⟨old,hold,hexact r hr⟩
  cases spot with
  | stringLiteral t => exact finds_refuse _
  | type t => exact finds_renameClass hspelling t new
  | fieldReference r =>
    exact hnamed rfl
      (finds_orRefuse (finds_renameField hspelling hnames hspot.1 hspot.2 false new) _ _)
  | methodReference r =>
    unfold renameSpot
    dsimp only
    split
    · exact finds_refuse _
    · exact hnamed rfl (finds_orRefuse (finds_renameMethod hspelling hnames hspot.1 hspot.2 new) _ _)
  | fieldDefinition f =>
    exact hnamed rfl (finds_orRefuse (finds_withClassOf hspelling hnames hfile fun c hc =>
      finds_renameField hspelling hnames hc hspot true new) _ _)
  | methodDefinition m =>
    unfold renameSpot
    dsimp only
    split
    · exact finds_refuse _
    · exact hnamed rfl (finds_orRefuse (finds_withClassOf hspelling hnames hfile fun c hc =>
        finds_renameMethod hspelling hnames hc hspot new) _ _)
  | label u => exact hnamed rfl (finds_renameLabel hspelling hd hspot new)

theorem finds_rename {file : Path} (hfile : PathMap.contains known file = true) (p : Position)
    (new : String) :
    Finds s known (rename file p new) fun answer => ∀ r, answer = .ok r →
      ∃ d spot old, s.source.textOf? file = some d ∧ d.spotAt? p = some spot ∧
        spot.name? = some old ∧ r.IsExact s.source old := by
  have hspot : Finds s known (spotIn? file p) fun spot? => ∀ spot ∈ spot?,
      ∃ d, s.source.textOf? file = some d ∧ d.spotAt? p = some spot := by
    refine (finds_document? file).map fun d? hd spot hspot => ?_
    obtain ⟨d,hmem,hspot⟩ := Option.bind_eq_some_iff.mp hspot
    exact ⟨d,hd d hmem,hspot⟩
  refine hspot.bind fun spot? hspot => ?_
  cases spot? with
  | none => exact finds_refuse _
  | some spot =>
    obtain ⟨d,hd,hspot⟩ := hspot spot rfl
    have hnamed := Document.isNamedAt_of_spotAt? hspot
    refine (finds_renameSpot hspelling hnames hfile hd hnamed new).mono fun answer hanswer r hr => ?_
    obtain ⟨old,hold,hexact⟩ := hanswer r hr
    exact ⟨d,spot,old,hd,hspot,hold,hexact⟩

end Spelling

/-- A rename that is not refused starts from a symbol of the text that the file has now. The edits of
each file are in order and do not overlap, and the text that each of them replaces is what the symbol
is called. This holds whatever was read before, and also if the rename was called off on the way. -/
theorem rename_isExact {ix : Index} (hreachable : ix.Reachable)
    (hspelling : s.source.IgnoresSpelling)
    (hlive : ∀ f ∈ ix.knownFiles, ∀ text, (ix.stateOf f).goodText? = some text →
      ∃ version?, s.source.open? f = .ok ⟨text,version?⟩) {file : Path}
    (harrow : ∀ f, PathMap.contains (ix.known.add file) f = true → ∀ c, s.source.classOf? f = some c →
      ¬"->".toList <:+: c.identifier.toList)
    {p : Position} {new : String} {r : RenameEdits}
    (hr : ((rename file p new).ask s ix).1 = some (.ok r)) :
    ∃ d spot old, s.source.textOf? file = some d ∧ d.spotAt? p = some spot ∧ spot.name? = some old ∧
      ∀ g edits, r.edits.get? g = some edits → ∃ d, s.source.textOf? g = some d ∧
        edits.Pairwise (fun a b => a.span.start < b.span.start ∧ a.span.stop ≤ b.span.start) ∧
        ∀ e ∈ edits, d.slice e.span = old := by
  have hix : ix.DrawnFrom s.source (ix.known.add file) := by
    refine .of_reachable hreachable hspelling (fun f hf => ?_) hlive
    rw [PathSet.contains_add, Index.contains_known, hf, Bool.or_true]
  have hnames : ∀ f c, s.source.Declares (ix.known.add file) f c → IsOwnerName c.identifier := by
    intro f c hc
    obtain ⟨_,_,hread⟩ := Source.exists_of_classOf? hc.2
    exact ⟨harrow f hc.1 c hc.2,(Class.isClassKey_identifier hread).not_mem⟩
  have hfile : PathMap.contains (ix.known.add file) file = true := by
    rw [PathSet.contains_add, Path.same_refl, Bool.true_or]
  exact (finds_rename hspelling hnames hfile p new).of_ask hix hr r rfl

/-- A method that a line names twice, by its own class and by the one above it. -/
theorem rename_isExact_call :
    let file := Path.ofString "A.smali"
    let caller := Path.ofString "B.smali"
    let s : Surroundings := ⟨((MemoryProject.empty.put file
      ⟨".class LA;\n.super Lb;\n.method f()V\n.end method\n",none⟩).put caller
      ⟨".class LB;\n.super LA;\n.method g()V\n invoke-virtual \x7bp0\x7d, LB;->f()V # LA;->f()V\n" ++
        ".end method\n",none⟩).source,.never⟩
    let ix := (Operation.load.query.ask s (.new .default)).2
    ∃ r edits d, ((rename file ⟨2,8⟩ "run").ask s ix).1 = some (.ok r) ∧
      r.edits.get? caller = some edits ∧ s.source.textOf? caller = some d ∧
      edits.Pairwise (fun a b => a.span.start < b.span.start ∧ a.span.stop ≤ b.span.start) ∧
      ∀ e ∈ edits, d.slice e.span = "f" := by
  intro file caller s ix
  have hcomplete : ix.Complete s.source :=
    Index.complete_load rfl rfl (MemoryProject.ignoresSpelling _) rfl
  have hspelling : s.source.IgnoresSpelling := MemoryProject.ignoresSpelling _
  have harrow : ∀ f, PathMap.contains (ix.known.add file) f = true → ∀ c,
      s.source.classOf? f = some c → ¬"->".toList <:+: c.identifier.toList := by
    have hall : ∀ g ∈ PathMap.files (ix.known.add file), ∀ c ∈ s.source.classOf? g,
        ¬"->".toList <:+: c.identifier.toList := by decide +kernel
    intro f hf c hc
    obtain ⟨g,hg,hsame⟩ := PathMap.exists_mem_files hf
    exact hall g hg c ((hspelling.classOf? hsame).trans hc)
  have hasked : (((rename file ⟨2,8⟩ "run").ask s ix).1.bind Except.toOption).any (fun r =>
      (r.edits.get? caller).isSome) = true := by decide +kernel
  obtain ⟨r,hr,hedits⟩ := (Option.any_eq_true _ _).mp hasked
  obtain ⟨answer,hanswer,hr⟩ := Option.bind_eq_some_iff.mp hr
  cases answer with
  | error e => cases hr
  | ok answer =>
    obtain rfl : answer = r := Option.some.inj hr
    obtain ⟨edits,hedits⟩ := Option.isSome_iff_exists.mp hedits
    obtain ⟨_,spot,old,hd,hspot,hold,hexact⟩ :=
      rename_isExact hcomplete.reachable hspelling hcomplete.live harrow hanswer
    obtain ⟨d,htext,hordered,hslices⟩ := hexact caller edits hedits
    obtain rfl : old = "f" := by
      have hname : ((s.source.textOf? file).bind fun d => (d.spotAt? ⟨2,8⟩).bind Spot.name?) =
          some "f" := by decide +kernel
      rw [hd, Option.bind_some, hspot, Option.bind_some, hold] at hname
      exact Option.some.inj hname
    exact ⟨answer,edits,d,hanswer,hedits,htext,hordered,hslices⟩

end Query

end SmaliNavigator
