import SmaliNavigator.Report

/-!
The command line: what it asks for, and what is printed then.
-/

set_option autoImplicit false

namespace SmaliNavigator

inductive Command where
  | index (root : Path) (asJson : Bool)
  | hierarchy (root : Path) (name : String)
  | refs (root : Path) (symbols : List String)
  | serve
  | help
  | version
  deriving DecidableEq, Repr

namespace Command

structure Arguments where
  values : List String
  asJson : Bool
  deriving DecidableEq, Repr

inductive Reading where
  | arguments (a : Arguments)
  | help
  | wrong
  deriving DecidableEq, Repr

/-- Whether an argument is an option; a dash alone is none. -/
def isOption (arg : String) : Bool :=
  arg.startsWith "-" && arg != "-"

/-- Reads the arguments of a command with at most `most` values, of which the first one may not be
empty. What is wrong first counts; behind two dashes everything is a value. -/
def read (takesJson : Bool) (most? : Option Nat) : (onlyValues : Bool) → List String →
    Arguments → Reading
  | _, [], a => .arguments a
  | onlyValues, arg :: args, a =>
    if onlyValues || !isOption arg then
      if most?.any (· ≤ a.values.length) then .wrong
      else if a.values.isEmpty && arg.isEmpty then .wrong
      else read takesJson most? onlyValues args { a with values := a.values ++ [arg] }
    else if arg = "--" then read takesJson most? true args a
    else if arg = "--help" || arg.startsWith "-h" then .help
    else if arg = "--json" && takesJson && !a.asJson then
      read takesJson most? onlyValues args { a with asJson := true }
    else .wrong

def make? (takesJson : Bool) (most? : Option Nat) (args : List String)
    (f : Arguments → Option Command) : Option Command :=
  match read takesJson most? false args ⟨[],false⟩ with
  | .arguments a => f a
  | .help => some help
  | .wrong => none

def names : List String := ["index", "hierarchy", "refs", "lsp", "help"]

def ofArgs? : List String → Option Command
  | "index" :: args => make? true (some 1) args fun a =>
    match a.values with
    | [path] => some (index (.ofString path) a.asJson)
    | _ => none
  | "hierarchy" :: args => make? false (some 2) args fun a =>
    match a.values with
    | [path, name] => some (hierarchy (.ofString path) name)
    | _ => none
  | "refs" :: args => make? false none args fun a =>
    match a.values with
    | path :: symbol :: symbols => some (refs (.ofString path) (symbol :: symbols))
    | _ => none
  | "lsp" :: args => make? false (some 0) args fun _ => some serve
  | ["help"] => some help
  | ["help", name] => if names.contains name then some help else none
  | "--help" :: _ => some help
  | "--version" :: _ => some version
  | arg :: _ =>
    if arg.startsWith "-h" then some help
    else if arg.startsWith "-V" then some version
    else none
  | [] => none

def usage : String := Report.ofLines
  ["Usage: smaliscope <COMMAND>",
    "",
    "Commands:",
    "  index      Index a project and report statistics and broken files",
    "  hierarchy  Show the ancestors and subclasses of a class",
    "  refs       Find every textual occurrence of descriptors or member references",
    "  lsp        Start the language server"]

def perform (h : Host) : Command → Except String String
  | index root asJson =>
    ((Report.onProject h root Query.getIndex).mapError Failure.message).map fun ix =>
      if asJson then Report.ofLines [(Report.indexJson ix).pretty 0] else Report.ofIndex root ix
  | hierarchy root name =>
    match identifierOfName? name with
    | none => .error ("\"" ++ name ++ "\" is not a class name")
    | some identifier =>
      ((Report.onProject h root (Report.relatives identifier)).mapError Failure.message).map
        Report.ofRelatives
  | refs root symbols =>
    ((Report.onProject h root (Query.findOccurrences symbols)).mapError Failure.message).map
      (Report.ofOccurrences root)
  | serve => .ok ""
  | help => .ok usage
  | version => .ok (Report.ofLines ["smaliscope 0.3.0"])

end Command

structure Outcome where
  code : Nat
  output : String
  failure? : Option String
  deriving DecidableEq, Repr

/-- Runs the program. The code is 1 for a failure, and 2 where the arguments are wrong. -/
def Outcome.ofArgs (h : Host) (args : List String) : Outcome :=
  match Command.ofArgs? args with
  | none => ⟨2,"",none⟩
  | some c =>
    match c.perform h with
    | .ok output => ⟨0,output,none⟩
    | .error reason => ⟨1,"",some ("Error: " ++ reason)⟩

end SmaliNavigator
