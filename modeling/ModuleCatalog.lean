import ModuleCatalog.Text.Blank
import ModuleCatalog.Text.Hex
import ModuleCatalog.Text.Lowercase
import ModuleCatalog.Text.Width
import ModuleCatalog.Digest.Sha256
import ModuleCatalog.Decimal.Binary64
import ModuleCatalog.Decimal.Shortest
import ModuleCatalog.Json.Basic
import ModuleCatalog.Json.Number
import ModuleCatalog.Json.Reader
import ModuleCatalog.Json.Writer
import ModuleCatalog.Catalog.Entry
import ModuleCatalog.Catalog.Reading
import ModuleCatalog.Catalog.Merge
import ModuleCatalog.Catalog.Display
import ModuleCatalog.Catalog.Encoding
import ModuleCatalog.Failure
import ModuleCatalog.Listing.Board
import ModuleCatalog.Listing.Loader
import ModuleCatalog.Release.Page
import ModuleCatalog.Release.Lookup
import ModuleCatalog.Sources.Basic
import ModuleCatalog.FileSystem
import ModuleCatalog.FileTree
import ModuleCatalog.Client
import ModuleCatalog.Download.Request
import ModuleCatalog.Download.Gate
import ModuleCatalog.Sources.Encoding
import ModuleCatalog.Sources.File
import ModuleCatalog.Yaml.Text
import ModuleCatalog.Yaml.Folding
import ModuleCatalog.Yaml.Block
import ModuleCatalog.Yaml.Token
import ModuleCatalog.Yaml.Tag
import ModuleCatalog.Yaml.Lexer
import ModuleCatalog.Yaml.Node
import ModuleCatalog.Yaml.Document
import ModuleCatalog.Yaml.Plain
import ModuleCatalog.Yaml.Writer
import ModuleCatalog.Http.Exchange
import ModuleCatalog.Http.Status
import ModuleCatalog.Text.Quoted
import ModuleCatalog.Download.Save
import ModuleCatalog.Table
import ModuleCatalog.CommandLine.Arguments
import ModuleCatalog.CommandLine.Run
import ModuleCatalog.Main
import ModuleCatalog.Listing.Session
import ModuleCatalog.Proofs.Merge
import ModuleCatalog.Proofs.Turns
import ModuleCatalog.Proofs.Generations
import ModuleCatalog.Proofs.Reconciliation
import ModuleCatalog.Proofs.LoadOutcomes
import ModuleCatalog.Proofs.StaleTasks
import ModuleCatalog.Listing.Watching
import ModuleCatalog.Proofs.Notifications
import ModuleCatalog.Proofs.SoloRuns
import ModuleCatalog.Proofs.FirstHolders
import ModuleCatalog.Proofs.SettledLists
import ModuleCatalog.Proofs.EarlierSources
import ModuleCatalog.Proofs.SourceEdits
import ModuleCatalog.Proofs.Yaml.QuotedScalars
import ModuleCatalog.Proofs.Yaml.UnquotedScalars
import ModuleCatalog.Proofs.Yaml.SequenceTokens
import ModuleCatalog.Proofs.SavedSources
import ModuleCatalog.Download.Slots
import ModuleCatalog.Proofs.GateSlots
import ModuleCatalog.Proofs.Searches
import ModuleCatalog.Proofs.ReleaseTags
import ModuleCatalog.Proofs.MissingReleases
import ModuleCatalog.CommandLine.Series
import ModuleCatalog.Proofs.WritableFiles
import ModuleCatalog.Proofs.RepoProcesses
import ModuleCatalog.Proofs.RepoCommands
import ModuleCatalog.Proofs.PrintedRows
import ModuleCatalog.Proofs.MergeLaws
import ModuleCatalog.Proofs.UpdateRuns
import ModuleCatalog.Proofs.ArchiveLinks
import ModuleCatalog.Proofs.ReleaseLookups
import ModuleCatalog.Proofs.EncodedValues
import ModuleCatalog.Proofs.LeftmostLinks
import ModuleCatalog.Proofs.PathNames
import ModuleCatalog.Proofs.ConfinedNames
import ModuleCatalog.Proofs.MadeDirectories
import ModuleCatalog.Proofs.SavedDownloads
import ModuleCatalog.Download.Facility
import ModuleCatalog.Proofs.Dispatches
import ModuleCatalog.Proofs.DisplayOrder
import ModuleCatalog.Proofs.SteadyDisplay
import ModuleCatalog.Proofs.LiteralMatches
import ModuleCatalog.Proofs.JsonGrammar
import ModuleCatalog.Proofs.GrammaticalTexts
import ModuleCatalog.Proofs.AcceptedTexts
import ModuleCatalog.Proofs.CatalogBodies
import ModuleCatalog.Proofs.LeftmostTags
import ModuleCatalog.Proofs.RoundedRatios
import ModuleCatalog.Proofs.IntegerLiterals
import ModuleCatalog.Proofs.Visibility
