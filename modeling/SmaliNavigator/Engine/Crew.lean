import SmaliNavigator.Engine

/-!
The workers of an engine at the same time.

A dispatcher takes the jobs one by one and gives each to the worker of its file. Behind a job that
retires the worker no more jobs are given to it, and the next job for the file goes to a new worker,
which waits until the retired one has ended. The dispatcher forgets retired workers that have ended.

A `Move` is what one of them does before another one may come in between: what a job does before it
reads, the reading, and what it does behind that. `Crew.run?` follows a list of moves, so the lists
that it accepts are the possible courses of events. It is not claimed that all of them publish the
same updates.
-/

set_option autoImplicit false

namespace SmaliNavigator

structure Task where
  job : Job
  /-- Whether there is nothing to read, or nothing any more. -/
  hasRead : Bool
  live? : Option LiveText
  deriving DecidableEq, Repr

structure Worker where
  file : Path
  /-- The jobs that it has not begun, in the order in which they came. -/
  queue : List Job
  task? : Option Task
  /-- Whether the dispatcher may give it jobs. -/
  isOpen : Bool
  hasEnded : Bool
  /-- The number of the worker whose end it waits for. -/
  waitsFor? : Option Nat
  deriving DecidableEq, Repr

inductive Move where
  | submit (event : FileEvent)
  | dispatch
  | start (worker : Nat)
  | read (worker : Nat)
  | finish (worker : Nat)
  | leave (worker : Nat)
  deriving DecidableEq, Repr

structure Crew where
  index : Index
  updates : List Update
  inbox : List Job
  /-- All workers that there ever were. The number of a worker is its place. -/
  workers : List Worker
  active : PathMap Nat
  /-- Retired workers that the dispatcher knows of. -/
  retired : PathMap Nat
  /-- The jobs that were begun and those that were finished, in the order of that. -/
  begun : List Job
  finished : List Job
  deriving DecidableEq, Repr

namespace Crew

def new (index : Index) : Crew := ⟨index,[],[],[],∅,∅,[],[]⟩

def hasEnded (c : Crew) (n : Nat) : Bool :=
  match c.workers[n]? with
  | some w => w.hasEnded
  | none => true

def isFree (c : Crew) (w : Worker) : Bool :=
  w.waitsFor?.all c.hasEnded

def setWorker (c : Crew) (n : Nat) (w : Worker) : Crew :=
  { c with workers := c.workers.set n w }

def stillRetiring (c : Crew) : PathMap Nat :=
  (c.retired.toList.filter fun (_,n) => !c.hasEnded n).foldl (fun m (f,n) => m.insert f n) ∅

def workerFor (c : Crew) (file : Path) : Nat × Crew :=
  match c.active.get? file with
  | some n => (n,c)
  | none =>
    let n := c.workers.length
    let w : Worker := ⟨file,[],none,true,false,c.retired.get? file⟩
    (n,{ c with
      workers := c.workers ++ [w]
      active := c.active.insert file n
      retired := c.retired.erase file })

/-- Gives a job to a worker, which takes no more of them if the job retires it. -/
def give (c : Crew) (n : Nat) (j : Job) : Crew :=
  match c.workers[n]? with
  | none => c
  | some w =>
    let c := c.setWorker n { w with queue := w.queue ++ [j], isOpen := !j.retires }
    if j.retires then
      { c with active := c.active.erase j.file, retired := c.retired.insert j.file n }
    else c

def dispatch? (c : Crew) : Option Crew :=
  match c.inbox with
  | [] => none
  | j :: js =>
    let c := { c with inbox := js, retired := c.stillRetiring }
    let (n,c) := c.workerFor j.file
    some (c.give n j)

def start? (c : Crew) (n : Nat) : Option Crew := do
  let w ← c.workers[n]?
  guard (c.isFree w && w.task?.isNone)
  let (j,js) ← match w.queue with
    | [] => none
    | j :: js => some (j,js)
  let (index,published) := j.begin c.index
  let c := { c with index, updates := c.updates ++ published, begun := c.begun ++ [j] }
  return c.setWorker n { w with queue := js, task? := some ⟨j,j.reads?.isNone,none⟩ }

def read? (source : Source) (c : Crew) (n : Nat) : Option Crew := do
  let w ← c.workers[n]?
  let t ← w.task?
  guard (!t.hasRead)
  let file ← t.job.reads?
  return c.setWorker n { w with task? := some ⟨t.job,true,(source.open? file).toOption⟩ }

def finish? [FileOrder] (c : Crew) (n : Nat) : Option Crew := do
  let w ← c.workers[n]?
  let t ← w.task?
  guard t.hasRead
  let (index,published) := t.job.finish t.live? c.index
  let c := { c with index, updates := c.updates ++ published, finished := c.finished ++ [t.job] }
  return c.setWorker n { w with task? := none }

/-- A worker without jobs ends once no more of them can come. -/
def leave? (c : Crew) (n : Nat) : Option Crew := do
  let w ← c.workers[n]?
  guard (c.isFree w && !w.isOpen && w.queue.isEmpty && w.task?.isNone && !w.hasEnded)
  return c.setWorker n { w with hasEnded := true }

def move? [FileOrder] (source : Source) (c : Crew) : Move → Option Crew
  | .submit event => some { c with inbox := c.inbox ++ [event.job] }
  | .dispatch => c.dispatch?
  | .start n => c.start? n
  | .read n => c.read? source n
  | .finish n => c.finish? n
  | .leave n => c.leave? n

def run? [FileOrder] (source : Source) (c : Crew) (moves : List Move) : Option Crew :=
  moves.foldlM (move? source) c

/-- Whether nothing can happen unless an event comes. -/
def IsIdle [FileOrder] (source : Source) (c : Crew) : Prop :=
  ∀ m : Move, (∀ event, m ≠ .submit event) → c.move? source m = none

end Crew

def Move.event? : Move → Option FileEvent
  | submit event => some event
  | _ => none

def jobsOf (file : Path) (js : List Job) : List Job :=
  js.filter (·.file.same file)

end SmaliNavigator
