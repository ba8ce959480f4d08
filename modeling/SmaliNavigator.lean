import SmaliNavigator.Class.Draft
import SmaliNavigator.Engine.Crew
import SmaliNavigator.Proofs.Engine.Ordering
import SmaliNavigator.Main
import SmaliNavigator.Proofs.Index.Budget
import SmaliNavigator.Proofs.Index.Occurrence
import SmaliNavigator.Proofs.Index.Recency
import SmaliNavigator.Proofs.Index.Diagnosed
import SmaliNavigator.Proofs.Engine.Subscriber
import SmaliNavigator.StringLiteral.Writer
import SmaliNavigator.Proofs.Index.Currency
import SmaliNavigator.Proofs.Navigation.Agreement
import SmaliNavigator.Proofs.Navigation.Transparency
import SmaliNavigator.Proofs.Class.Shown
import SmaliNavigator.Proofs.Class.Places
import SmaliNavigator.Proofs.Member.Definition
import SmaliNavigator.Proofs.Class.Blocks
import SmaliNavigator.Proofs.Class.Rendering
import SmaliNavigator.Proofs.Index.Hierarchy
import SmaliNavigator.Proofs.Class.Names
import SmaliNavigator.Proofs.Navigation.Edits
import SmaliNavigator.Proofs.Navigation.Resolution
import SmaliNavigator.Proofs.Navigation.FieldRename
import SmaliNavigator.Proofs.Query.Subclasses
import SmaliNavigator.Proofs.Navigation.MethodFamily
import SmaliNavigator.Proofs.Relocation
import SmaliNavigator.Proofs.Index.Truthful
import SmaliNavigator.Proofs.Query.Demand
import SmaliNavigator.Proofs.Navigation.Preloading
import SmaliNavigator.Proofs.Cache.Order
import SmaliNavigator.Proofs.Engine.Renames
import SmaliNavigator.Proofs.Spot.References
import SmaliNavigator.Proofs.Navigation.PrivateMethods
import SmaliNavigator.Proofs.Navigation.ExactRename
import SmaliNavigator.Proofs.Spot.LineEnds
import SmaliNavigator.Proofs.Spot.Labels
import SmaliNavigator.Proofs.Query.Nearest
import SmaliNavigator.Proofs.Index.Containment
import SmaliNavigator.Proofs.Navigation.FileMoves
import SmaliNavigator.Proofs.Navigation.Replacement
import SmaliNavigator.Proofs.Spot.Exactness
import SmaliNavigator.Proofs.Navigation.Outline
import SmaliNavigator.Proofs.Class.Faults
import SmaliNavigator.Proofs.Query.Truncation
import SmaliNavigator.Proofs.Member.RoundTrip
import SmaliNavigator.Proofs.Index.SymbolSearch
import SmaliNavigator.Proofs.StringLiteral
import SmaliNavigator.Proofs.Slicer.Safety
import SmaliNavigator.Proofs.Text.Units
