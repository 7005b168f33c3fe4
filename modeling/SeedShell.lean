import SeedShell.Boot
import SeedShell.Command.Basic
import SeedShell.Command.Listing
import SeedShell.Command.Place
import SeedShell.Command.Recall
import SeedShell.Command.Registry
import SeedShell.Command.Search
import SeedShell.Command.Show
import SeedShell.Completion
import SeedShell.Console
import SeedShell.Date
import SeedShell.Disk
import SeedShell.History
import SeedShell.Json.Basic
import SeedShell.Json.Printer
import SeedShell.Json.Reader
import SeedShell.Launch
import SeedShell.Links
import SeedShell.Main
import SeedShell.Output
import SeedShell.Page
import SeedShell.Pattern
import SeedShell.Pattern.Brackets
import SeedShell.Pattern.ByteRow
import SeedShell.Pattern.CharSet
import SeedShell.Pattern.Cursor
import SeedShell.Pattern.Escape
import SeedShell.Pattern.Expr
import SeedShell.Pattern.Fault
import SeedShell.Pattern.Look
import SeedShell.Pattern.Modes
import SeedShell.Pattern.Program
import SeedShell.Pattern.Property
import SeedShell.Pattern.Reader
import SeedShell.Pattern.Recent
import SeedShell.Pattern.Regex
import SeedShell.Pattern.Size
import SeedShell.Pattern.Table.Age
import SeedShell.Pattern.Table.Break
import SeedShell.Pattern.Table.Casing
import SeedShell.Pattern.Table.Category
import SeedShell.Pattern.Table.Property
import SeedShell.Pattern.Table.Script
import SeedShell.Percent
import SeedShell.Presses
import SeedShell.Problem
import SeedShell.Run
import SeedShell.Script
import SeedShell.Seed.Basic
import SeedShell.Seed.Bundled
import SeedShell.Seed.Reader
import SeedShell.Session
import SeedShell.Settings
import SeedShell.Shell
import SeedShell.Store.Basic
import SeedShell.Store.File
import SeedShell.Store.Memory
import SeedShell.Store.Page
import SeedShell.Terminal
import SeedShell.Text.Basic
import SeedShell.Text.Digits
import SeedShell.Text.Units
import SeedShell.Text.Utf8
import SeedShell.Toml.Basic
import SeedShell.Toml.Reader
import SeedShell.Toml.Scalar
import SeedShell.Tree.Basic
import SeedShell.Tree.Path
import SeedShell.Words
import SeedShell.Proofs.WellFormed
import SeedShell.Proofs.Descent
import SeedShell.Proofs.Resolution
import SeedShell.Proofs.Histories
import SeedShell.Proofs.Effects
import SeedShell.Proofs.Soundness
import SeedShell.Proofs.StoredTexts
import SeedShell.Proofs.Persistence
import SeedShell.Proofs.Reload
import SeedShell.Proofs.Texts
import SeedShell.Proofs.ScriptRuns
import SeedShell.Proofs.Paths
import SeedShell.Proofs.TypedWords
import SeedShell.Proofs.EscapedSpaces
import SeedShell.Proofs.Completing
import SeedShell.Proofs.RelativeScripts
import SeedShell.Proofs.StoreIndependence
import SeedShell.Proofs.Failures
import SeedShell.Proofs.Entering
import SeedShell.Proofs.Insertion
import SeedShell.Proofs.Spelling
import SeedShell.Proofs.Launching
import SeedShell.Proofs.StoredTables
import SeedShell.Proofs.FileStores
import SeedShell.Proofs.Places
import SeedShell.Proofs.PromptNotices
import SeedShell.Proofs.Frames
import SeedShell.Proofs.Tables
import SeedShell.Proofs.Twins
import SeedShell.Proofs.SiblingOrder
import SeedShell.Proofs.Planting
import SeedShell.Proofs.Posting
import SeedShell.Proofs.Addresses
import SeedShell.Proofs.Scanning
import SeedShell.Proofs.Searching
import SeedShell.Proofs.Candidates
import SeedShell.Proofs.Recording
import SeedShell.Proofs.Settling
import SeedShell.Proofs.Submitting
import SeedShell.Proofs.Erasing
import SeedShell.Proofs.RecalledArguments
import SeedShell.Proofs.Listings
import SeedShell.Proofs.ListedPaths
import SeedShell.Proofs.Shebangs
import SeedShell.Proofs.ConfiguredPaths
import SeedShell.Proofs.DoublePresses
import SeedShell.Proofs.CommonPrefixes
import SeedShell.Proofs.CursorUnits
import SeedShell.Proofs.LinkMarkup
