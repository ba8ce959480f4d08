import SmaliNavigator.Query

/-!
Keeping an index up to date while files change.

Each event is a job for one file. Jobs wait in a queue, and a worker per file does those of its file
in the order in which they came. What a job does falls into what comes before it reads a text from
the project and what comes after; after both, the diagnostics of every file concerned are published.
-/

set_option autoImplicit false

namespace SmaliNavigator

inductive FileEvent where
  /-- A file has a new text. Where none is given it is read from the project. -/
  | changed (file : Path) (live? : Option LiveText)
  | created (file : Path)
  | deleted (file : Path)
  | renamed (file target : Path)
  deriving DecidableEq, Repr

inductive Action where
  | load (live? : Option LiveText)
  | remove
  | rename (target : Path)
  deriving DecidableEq, Repr

structure Job where
  file : Path
  action : Action
  deriving DecidableEq, Repr

structure Update where
  file : Path
  diagnostics : List Diagnostic
  deriving DecidableEq, Repr

/-- The job for an event. A rename is for the old path. -/
def FileEvent.job : FileEvent → Job
  | changed f live? => ⟨f,.load live?⟩
  | created f => ⟨f,.load none⟩
  | deleted f => ⟨f,.remove⟩
  | renamed f target => ⟨f,.rename target⟩

def Index.update (ix : Index) (file : Path) : Update := ⟨file,ix.diagnosticsOf file⟩

/-- Gives a file a text, or makes it known where none can be read. -/
def Index.load (ix : Index) (file : Path) : Option LiveText → Index
  | some live => (ix.refresh file live.text live.version?).2
  | none => ix.register file

namespace Job

def retires (j : Job) : Bool :=
  match j.action with
  | .load _ => false
  | .remove | .rename _ => true

def reads? (j : Job) : Option Path :=
  match j.action with
  | .load none => some j.file
  | .load (some _) | .remove => none
  | .rename target => some target

def begin (j : Job) (ix : Index) : Index × List Update :=
  match j.action with
  | .load _ => (ix,[])
  | .remove | .rename _ =>
    let ix := ix.remove j.file
    (ix,[ix.update j.file])

def finish [FileOrder] (j : Job) (live? : Option LiveText) (ix : Index) : Index × List Update :=
  let (ix,own) := match j.action with
    | .load given? =>
      let ix := ix.load j.file (given?.or live?)
      (ix,[ix.update j.file])
    | .remove => (ix,[])
    | .rename target =>
      let ix := ix.load target live?
      (ix,[ix.update target])
  let (touched,ix) := ix.takeTouched
  (ix,own ++ touched.map ix.update)

def perform [FileOrder] (j : Job) (source : Source) (ix : Index) : Index × List Update :=
  let (ix,before) := j.begin ix
  let live? := j.reads?.bind fun f => (source.open? f).toOption
  let (ix,after) := j.finish live? ix
  (ix,before ++ after)

end Job

structure Engine where
  index : Index
  queue : List Job
  /-- The files that have a worker. -/
  workers : PathSet
  /-- What was published and not yet taken. -/
  updates : List Update
  stopped : Bool
  deriving DecidableEq, Repr

namespace Engine

/-- How many updates can wait to be taken; the oldest are lost. -/
def updateCapacity : Nat := 256

def new (index : Index) : Engine := ⟨index,[],∅,[],false⟩

def publish (e : Engine) (us : List Update) : Engine :=
  let all := e.updates ++ us
  { e with updates := all.drop (all.length - updateCapacity) }

def takeUpdates (e : Engine) : List Update × Engine :=
  (e.updates,{ e with updates := [] })

def start (e : Engine) (source : Source) : Engine :=
  let called : Cancellation := if e.stopped then .fromTheStart else .never
  let index := (Query.loadProject.ask ⟨source,called⟩ e.index).2
  { e with index }.publish (index.filesWithDiagnostics.map fun (f,ds) => ⟨f,ds⟩)

def submit (e : Engine) (event : FileEvent) : Engine :=
  if e.stopped then e else { e with queue := e.queue ++ [event.job] }

def run [FileOrder] (source : Source) (e : Engine) (j : Job) : Engine :=
  let (index,updates) := j.perform source e.index
  let workers := if j.retires then e.workers.erase j.file else e.workers.add j.file
  { e with index, workers }.publish updates

def settle [FileOrder] (e : Engine) (source : Source) : Engine :=
  e.queue.foldl (run source) { e with queue := [] }

def apply [FileOrder] (e : Engine) (source : Source) (event : FileEvent) : Engine :=
  (e.submit event).settle source

def shutdown (e : Engine) : Engine :=
  { e with index := e.index.clear, queue := [], workers := ∅, stopped := true }

end Engine

end SmaliNavigator
