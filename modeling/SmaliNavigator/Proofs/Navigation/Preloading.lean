import SmaliNavigator.Proofs.Query.Demand
import SmaliNavigator.Proofs.Relocation

/-!
Whether the files of a project are read when it is loaded, or only as they are needed, does not show
in what is answered about it.
-/

set_option autoImplicit false

namespace SmaliNavigator

/-- What can be asked about the classes of a project and the symbols in its texts. -/
inductive Inquiry where
  | classOf (file : Path)
  | findClasses (identifier : String)
  | superclasses (identifier : String)
  | subclasses (identifier : String)
  | rootDeclarers (identifier : String) (method : Method) (acceptPrivate : Bool)
  | occurrences (symbols : List String)
  | resolveField (owner : String) (field : Field)
  | resolveMethod (owner : String) (method : Method)
  | hover (file : Path) (p : Position)
  | definition (file : Path) (p : Position)
  | references (file : Path) (p : Position) (withDeclarations : Bool)
  | rename (file : Path) (p : Position) (new : String)
  | workspaceSymbols (text : String) (limit : Nat)
  deriving DecidableEq, Repr

namespace Inquiry

inductive Answer where
  | ofFile (c? : Option Class)
  | classes (found : List (Path × Class))
  | identifiers (found : List String)
  | occurrences (found : Occurrences)
  | fields (found : List (Declaration Field))
  | methods (found : List (Declaration Method))
  | hover (info? : Option HoverInfo)
  | locations (found : List Location)
  | edits (result : Except Refusal RenameEdits)
  | symbols (found : List SymbolHit)

/-- The same answer, but for paths that stand for each other. -/
inductive Answer.Like (P : Path → Path → Prop) : Answer → Answer → Prop
  | ofFile (c? : Option Class) : Like P (.ofFile c?) (.ofFile c?)
  | classes {xs ys : List (Path × Class)} (h : List.Forall₂ (Path.At P) xs ys) :
    Like P (.classes xs) (.classes ys)
  | identifiers (found : List String) : Like P (.identifiers found) (.identifiers found)
  | occurrences (found : Occurrences) : Like P (.occurrences found) (.occurrences found)
  | fields {ds es : List (Declaration Field)} (h : List.Forall₂ (Declaration.Like P) ds es) :
    Like P (.fields ds) (.fields es)
  | methods {ds es : List (Declaration Method)} (h : List.Forall₂ (Declaration.Like P) ds es) :
    Like P (.methods ds) (.methods es)
  | hover (info? : Option HoverInfo) : Like P (.hover info?) (.hover info?)
  | locations {ls ms : List Location} (h : List.Forall₂ (Location.Like P) ls ms) :
    Like P (.locations ls) (.locations ms)
  | edits {r q : Except Refusal RenameEdits} (h : ExceptLike (RenameEdits.Like P) r q) :
    Like P (.edits r) (.edits q)
  | symbols (found : List SymbolHit) : Like P (.symbols found) (.symbols found)

def query : Inquiry → Query Answer
  | classOf file => .ofFile <$> Query.classOf? file
  | findClasses identifier => .classes <$> Query.findClasses identifier
  | superclasses identifier => .identifiers <$> Query.superclasses identifier
  | subclasses identifier => .identifiers <$> Query.subclasses identifier
  | rootDeclarers identifier m acceptPrivate =>
    .identifiers <$> Query.rootDeclarers identifier m acceptPrivate
  | occurrences symbols => .occurrences <$> Query.findOccurrences symbols
  | resolveField owner f => .fields <$> Query.resolveField owner f
  | resolveMethod owner m => .methods <$> Query.resolveMethod owner m
  | hover file p => .hover <$> Query.hover file p
  | definition file p => .locations <$> Query.definition file p
  | references file p withDeclarations => .locations <$> Query.references file p withDeclarations
  | rename file p new => .edits <$> Query.rename file p new
  | workspaceSymbols text limit => .symbols <$> Query.workspaceSymbols text limit

/-- The answers to questions that are asked one after the other. Each is asked of the index that the
one before it left. -/
def askAll (s : Surroundings) (ix : Index) : List Inquiry → List (Option Answer)
  | [] => []
  | q :: qs => (q.query.ask s ix).1 :: askAll s (q.query.ask s ix).2 qs

section Agreement

variable {R : Index → Index → Prop} {s : Surroundings} {o : FileOrder} {W : Prop}
  {P : Path → Path → Prop}
  (k : Query.KeptUpTo R s o W P) (hP : Interchangeable P)
  (texts : ∀ file, Query.AgreeUpTo R s o W Eq (Query.sourceOf? file) (Query.sourceOf? file))
  (shown : ∀ file, Query.AgreeUpTo R s o W Eq (Query.document? file) (Query.document? file))
include k hP texts shown

theorem agreeUpTo_query (q : Inquiry) : Query.AgreeUpTo R s o W (Answer.Like P) q.query q.query := by
  have heq {α : Type} {r : Query α} {f : α → Answer} (h : Query.AgreeUpTo R s o W Eq r r)
      (hf : ∀ x, (f x).Like P (f x)) : Query.AgreeUpTo R s o W (Answer.Like P) (f <$> r) (f <$> r) :=
    h.map fun x _ hxy => hxy ▸ hf x
  cases q with
  | classOf file => exact heq (k.classOf? file) .ofFile
  | findClasses identifier => exact (k.findClasses identifier).map fun _ _ h => .classes h
  | superclasses identifier => exact heq (k.superclasses identifier) .identifiers
  | subclasses identifier => exact heq (k.subclasses texts identifier) .identifiers
  | rootDeclarers identifier m acceptPrivate =>
    exact heq (k.rootDeclarers identifier m acceptPrivate) .identifiers
  | occurrences symbols => exact heq (k.findOccurrences texts symbols) .occurrences
  | resolveField owner f => exact (k.resolveField owner f).map fun _ _ h => .fields h
  | resolveMethod owner m => exact (k.resolveMethod owner m).map fun _ _ h => .methods h
  | hover file p => exact heq (k.hover shown file p) .hover
  | definition file p => exact (k.definition hP shown file p).map fun _ _ h => .locations h
  | references file p withDeclarations =>
    exact (k.references hP texts shown file p withDeclarations).map fun _ _ h => .locations h
  | rename file p new => exact (k.rename hP texts shown file p new).map fun _ _ h => .edits h
  | workspaceSymbols text limit => exact heq (k.workspaceSymbols text limit) .symbols

theorem answered_askAll {ix jx : Index} (h : R ix jx) (qs : List Inquiry) :
    List.Forall₂ (Query.Answered W (Answer.Like P)) (askAll s ix qs) (askAll (s.inOrder o) jx qs) := by
  induction qs generalizing ix jx with
  | nil => exact .nil
  | cons q qs ih =>
    obtain ⟨hanswer,hnext⟩ := (agreeUpTo_query k hP texts shown q).ask h
    exact .cons hanswer (ih hnext)

end Agreement

end Inquiry

theorem interchangeable_same : Interchangeable fun p q => p.same q = true where
  refl := Path.same_refl
  same h := h
  relocated old new h := Path.same_relocated h old new

namespace MemoryProject

/-- A new index behind the loading of a project. -/
def loaded (m : MemoryProject) (config : Config) : Index :=
  (Operation.load.query.ask ⟨m.source,.never⟩ (.new config)).2

/-- All questions about a project in which no two files declare the same class are answered, and not
otherwise than under other settings and in another order of the files. So it does not show whether the
files were read when the project was loaded, nor which of them the questions before had read. -/
theorem askAll_loaded (m : MemoryProject) (honce : m.source.DeclaresOnce) (lazily eagerly : Config)
    (o o' : FileOrder) (qs : List Inquiry) :
    List.Forall₂ (Query.Answered False (Inquiry.Answer.Like fun p q => p.same q = true))
      (Inquiry.askAll { source := m.source, cancellation := .never, order := o } (m.loaded lazily) qs)
      (Inquiry.askAll { source := m.source, cancellation := .never, order := o' } (m.loaded eagerly) qs) := by
  have htwins : Index.Twins m.source (m.loaded lazily) (m.loaded eagerly) :=
    Index.twins_load rfl m.ignoresSpelling lazily eagerly
  let s : Surroundings := { source := m.source, cancellation := .never, order := o }
  have hkept : Query.KeptUpTo (Index.Twins s.source) s o' False fun p q => p.same q = true :=
    Query.keptUpTo_twins rfl m.ignoresSpelling honce
  exact Inquiry.answered_askAll hkept interchangeable_same (Query.agreeUpTo_sourceOf? rfl)
    (Query.agreeUpTo_document? rfl) htwins qs

/-- One class is not where it is expected, next to a file that is no class, and is read when it is
first needed. -/
theorem askAll_loaded_misplaced :
    let a := Path.ofString "a.smali"
    let b := Path.ofString "lib/Elsewhere.smali"
    let m : MemoryProject := ((MemoryProject.empty.put (.ofString "Broken.smali") ⟨"# Lb;\n",none⟩).put a
      ⟨".class La;\n.super Lb;\n.method m()V\n    iget v0, p0, La;->f:I\n.end method\n",none⟩).put b
      ⟨".class Lb;\n.super Lc;\n.field f:I\n",none⟩
    let lazily : Config := { Config.default with preload := false }
    let qs : List Inquiry := [.superclasses "La;",.rename a ⟨3,22⟩ "g",.findClasses "Lb;"]
    (m.source.DeclaresOnce ∧
      List.Forall₂ (Query.Answered False (Inquiry.Answer.Like fun p q => p.same q = true))
        (Inquiry.askAll ⟨m.source,.never⟩ (m.loaded lazily) qs)
        (Inquiry.askAll ⟨m.source,.never⟩ (m.loaded .default) qs)) ∧
      ((m.loaded lazily).stateOf b = .unparsed ∧ (m.loaded .default).stateOf b ≠ .unparsed) ∧
      ((Query.findClasses "Lb;").ask ⟨m.source,.never⟩ (m.loaded lazily)).1.map (·.map (·.1)) =
        some [b] := by
  intro a b m lazily qs
  have honce : m.source.DeclaresOnce := m.declaresOnce_iff.mpr (by decide +kernel)
  exact ⟨⟨honce,askAll_loaded m honce _ _ .byPath .byPath qs⟩,by decide +kernel,by decide +kernel⟩

/-- Of two files of one class the one in the expected place hides the other until that is read. -/
example :
    let m := (MemoryProject.empty.put (.ofString "a.smali") ⟨".class La;\n.super Lb;\n",none⟩).put
      (.ofString "other.smali") ⟨".class La;\n.super Lc;\n",none⟩
    let count (preload : Bool) := ((Query.findClasses "La;").ask ⟨m.source,.never⟩
      (m.loaded { Config.default with preload := preload })).1.map List.length
    ¬m.source.DeclaresOnce ∧ count false = some 1 ∧ count true = some 2 := by
  decide +kernel

end MemoryProject

end SmaliNavigator
