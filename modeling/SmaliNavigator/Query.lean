import SmaliNavigator.Index

/-!
Questions to an index that may have to read files.

A question can be called off: it looks at that from time to time, and when it has been called off it
answers with what it has by then. It also can find that the project is not loaded yet. Then it
waits, which here is an answer of its own, because nothing else goes on that could end the waiting.
-/

set_option autoImplicit false

namespace SmaliNavigator

/-- When a question is called off, told from how often it has looked and how many files it has
read. -/
structure Cancellation where
  isCalledOff : (looks reads : Nat) → Bool

namespace Cancellation

def never : Cancellation := ⟨fun _ _ => false⟩

def fromTheStart : Cancellation := ⟨fun _ _ => true⟩

def atRead (n : Nat) : Cancellation := ⟨fun _ reads => n ≤ reads⟩

def Stays (c : Cancellation) : Prop :=
  ∀ l r l' r', l ≤ l' → r ≤ r' → c.isCalledOff l r = true → c.isCalledOff l' r' = true

end Cancellation

structure Surroundings where
  source : Source
  cancellation : Cancellation
  [order : FileOrder]

/-- The same, but that files are come upon in another order. -/
def Surroundings.inOrder (s : Surroundings) (order : FileOrder) : Surroundings :=
  { s with order }

structure Activity where
  index : Index
  looks : Nat
  reads : Nat
  deriving DecidableEq, Repr

/-- A question; its answer is `none` while it waits for the project to be loaded. -/
abbrev Query (α : Type) : Type := ReaderT Surroundings (OptionT (StateM Activity)) α

namespace Query

variable {α : Type}

def run (q : Query α) (s : Surroundings) (a : Activity) : Option α × Activity := (q s).run a

@[simp] theorem run_pure (x : α) (s : Surroundings) (a : Activity) :
    (pure x : Query α).run s a = (some x,a) := rfl

@[simp] theorem run_failure (s : Surroundings) (a : Activity) :
    (failure : Query α).run s a = (none,a) := rfl

theorem run_bind {β : Type} (q : Query α) (f : α → Query β) (s : Surroundings) (a : Activity) :
    (q >>= f).run s a = match q.run s a with
      | (some x,b) => (f x).run s b
      | (none,b) => (none,b) := by
  change (OptionT.bind (q s) (fun x => f x s)).run a = _
  simp only [OptionT.bind, OptionT.mk, StateT.bind, bind, run, OptionT.run]
  rcases q s a with ⟨_ | x,b⟩ <;> rfl

def ask (q : Query α) (s : Surroundings) (ix : Index) : Option α × Index :=
  let (answer,a) := q.run s ⟨ix,0,0⟩
  (answer,a.index)

def getIndex : Query Index := do return (← get).index

def onIndex (f : Index → α × Index) : Query α := do
  let a ← get
  let (x,ix) := f a.index
  set { a with index := ix }
  return x

def waitReady : Query Unit := do
  unless (← getIndex).ready do failure

def isCalledOff : Query Bool := do
  let a ← get
  set { a with looks := a.looks + 1 }
  return (← read).cancellation.isCalledOff a.looks a.reads

def openFile (file : Path) : Query (Except Failure LiveText) := do
  modify fun a => { a with reads := a.reads + 1 }
  return (← read).source.open? file

def cached? (file : Path) : Query (Option Class) :=
  onIndex fun ix =>
    let (c,cache) := ix.cache.get file
    (c,{ ix with cache })

def classOf? (file : Path) : Query (Option Class) := do
  match ← cached? file with
  | some c => return some c
  | none =>
    match ((← getIndex).files.get? file).map (·.state) with
    | none | some .unparsed =>
      match ← openFile file with
      | .error _ => return none
      | .ok live => return (← onIndex (·.refresh file live.text live.version?)).toOption
    | some state => onIndex (·.materialize file state)

/-- The text that was last read as a class, where a file itself cannot be read. -/
def indexedText? (file : Path) : Query (Option Document) := do
  match ← cached? file with
  | some c => return some c.document
  | none =>
    return (((← getIndex).files.get? file).bind (·.state.goodText?)).map Document.ofString

def document? (file : Path) : Query (Option Document) := do
  match ← openFile file with
  | .ok live => return some (.ofString live.text)
  | .error _ => indexedText? file

/-- The text of a file for a search of the project: that of its cached class, else that of the
file. -/
def sourceOf? (file : Path) : Query (Option Document) := do
  match ← cached? file with
  | some c => return some c.document
  | none =>
    match ← openFile file with
    | .ok live => return some (.ofString live.text)
    | .error _ => return none

def declaredIn? (identifier : String) (file : Path) : Query (Option (Path × Class)) := do
  match ← classOf? file with
  | some c => return if c.identifier = identifier then some (file,c) else none
  | none => return none

def declaredAmong (identifier : String) : List Path → Query (List (Path × Class))
  | [] => return []
  | f :: fs => do
    let found? ← declaredIn? identifier f
    return found?.toList ++ (← declaredAmong identifier fs)

def searchAmong (identifier : String) : List Path → Query (List (Path × Class))
  | [] => return []
  | f :: fs => do
    if ← isCalledOff then return []
    let found? ← declaredIn? identifier f
    return found?.toList ++ (← searchAmong identifier fs)

def isConventional (identifier : String) (file : Path) : Bool :=
  match (Descriptor.ofString? identifier).bind (·.className?) with
  | some n => file.endsWith (.ofString n.conventionalPath)
  | none => false

def unparsedFiles (ix : Index) : List Path :=
  (ix.files.toList.filter (·.2.state = .unparsed)).map (·.1)

def arrangedUnparsed : Query (List Path) := do
  let ix ← getIndex
  return (← read).order.arrange (unparsedFiles ix)

/-- The classes that declare an identifier, with their files. Files that have not been read yet are
read: first those that are where the class is expected to be, and if nothing is found, all. -/
def findClasses (identifier : String) : Query (List (Path × Class)) := do
  waitReady
  let mapped ← declaredAmong identifier ((← getIndex).declarers identifier)
  let (likely,rest) := (← arrangedUnparsed).partition (isConventional identifier)
  let found := mapped ++ (← searchAmong identifier likely)
  if found.isEmpty then searchAmong identifier rest else return found

def loadFiles : List Path → Query Unit
  | [] => return ()
  | f :: fs => do
    if ← isCalledOff then return ()
    if (← getIndex).config.preload then
      match ← openFile f with
      | .ok live =>
        let _ ← onIndex (·.refresh f live.text live.version?)
      | .error _ => onIndex fun ix => ((),ix.register f)
    else onIndex fun ix => ((),ix.register f)
    loadFiles fs

/-- Loads the project. It is ready then, also if the loading was called off or failed. -/
def loadProject : Query (Except Failure Unit) := do
  match (← read).source.list with
  | .error e =>
    onIndex fun ix => ((),ix.markReady)
    return .error e
  | .ok files =>
    loadFiles files
    onIndex fun ix => ((),ix.markReady)
    return .ok ()

end Query

end SmaliNavigator
