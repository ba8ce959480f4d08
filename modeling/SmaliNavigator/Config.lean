/-!
The settings of a project.
-/

set_option autoImplicit false

namespace SmaliNavigator

structure Config where
  /-- Globs, below the root of the project, of the files to index. -/
  included : List String
  excluded : List String
  /-- How many bytes of text the classes that are kept may have come from. -/
  cacheBudget : Nat
  /-- Read every file at the start and not when it is first needed. -/
  preload : Bool
  deriving DecidableEq, Repr

namespace Config

def default : Config where
  included := ["**/*.smali"]
  excluded := []
  cacheBudget := 64 * 1024 * 1024
  preload := true

def fileName : String := ".smaliscope/config.json"

def budgetVariable : String := "SMALISCOPE_CACHE_BUDGET"

end Config

end SmaliNavigator
