import GraphCompletion.Log.Journal
import GraphCompletion.Session
import GraphCompletion.Proofs.Transparency
import GraphCompletion.Proofs.ItemInsertion
import GraphCompletion.Proofs.ItemOwnership
import GraphCompletion.Proofs.EnclosingKeys
import GraphCompletion.Proofs.CaretView
import GraphCompletion.Proofs.Nesting
import GraphCompletion.Proofs.ContextForm
import GraphCompletion.Proofs.Loading.Boundary
import GraphCompletion.Proofs.SharedParses
import GraphCompletion.Proofs.KeyLabels
import GraphCompletion.Proofs.ValueLine
import GraphCompletion.Proofs.ValueFollowUp
import GraphCompletion.Proofs.TypedValue
import GraphCompletion.Proofs.Vocabulary
import GraphCompletion.Proofs.Aliases
import GraphCompletion.Proofs.Narrowing
import GraphCompletion.Proofs.LineBreak
import GraphCompletion.Proofs.OpenedCollection
import GraphCompletion.Proofs.NextLine
import GraphCompletion.Proofs.KeyColumns
import GraphCompletion.Proofs.Trimming
import GraphCompletion.Proofs.CatalogReading
import GraphCompletion.Proofs.CatalogNormalForm
import GraphCompletion.Proofs.MalformedCatalog
import GraphCompletion.Proofs.IndentStop
import GraphCompletion.Proofs.MarkerRange
import GraphCompletion.Proofs.AddressableMarker
import GraphCompletion.Proofs.StrayCaret
import GraphCompletion.Proofs.KeySequence
import GraphCompletion.Proofs.TypeTiers
import GraphCompletion.Proofs.HeaderScoping
import GraphCompletion.Proofs.ItemExtent
import GraphCompletion.Proofs.RepeatedReading
