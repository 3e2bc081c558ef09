import AccessorGen.ClassDecl
import AccessorGen.Command.Options
import AccessorGen.Command.Run
import AccessorGen.Command.Settings
import AccessorGen.Config
import AccessorGen.Datum.Basic
import AccessorGen.Datum.Decode
import AccessorGen.Datum.Encode
import AccessorGen.Datum.Parts
import AccessorGen.Destination
import AccessorGen.Error
import AccessorGen.FieldDecl
import AccessorGen.FileTree
import AccessorGen.Java.Method
import AccessorGen.Log
import AccessorGen.Main
import AccessorGen.Marker
import AccessorGen.Member
import AccessorGen.Place
import AccessorGen.Proofs.Appearance
import AccessorGen.Proofs.Capital
import AccessorGen.Proofs.CheckRuns
import AccessorGen.Proofs.ClassOutcome
import AccessorGen.Proofs.Collecting
import AccessorGen.Proofs.CompanionNames
import AccessorGen.Proofs.Datum.Leeway
import AccessorGen.Proofs.Delivery
import AccessorGen.Proofs.HeaderComment
import AccessorGen.Proofs.Identifier
import AccessorGen.Proofs.Java.Execution
import AccessorGen.Proofs.Java.Legible
import AccessorGen.Proofs.Java.ReadBack
import AccessorGen.Proofs.Java.Reading
import AccessorGen.Proofs.Java.Runs
import AccessorGen.Proofs.Lines
import AccessorGen.Proofs.Member.Arranged
import AccessorGen.Proofs.Member.Combining
import AccessorGen.Proofs.Member.Dependence
import AccessorGen.Proofs.Member.Generated
import AccessorGen.Proofs.Member.Listed
import AccessorGen.Proofs.Member.Marking
import AccessorGen.Proofs.Member.Meaning
import AccessorGen.Proofs.Member.Names
import AccessorGen.Proofs.Member.ObjectName
import AccessorGen.Proofs.Member.OneLine
import AccessorGen.Proofs.Member.Reach
import AccessorGen.Proofs.Member.Slots
import AccessorGen.Proofs.Member.Strategies
import AccessorGen.Proofs.Member.Written
import AccessorGen.Proofs.Naming
import AccessorGen.Proofs.Overwrites
import AccessorGen.Proofs.Places
import AccessorGen.Proofs.Reports
import AccessorGen.Proofs.RoundClasswise
import AccessorGen.Proofs.RoundOutcome
import AccessorGen.Proofs.Schema.BatchReport
import AccessorGen.Proofs.Schema.Batches
import AccessorGen.Proofs.Schema.Checked
import AccessorGen.Proofs.Schema.Described
import AccessorGen.Proofs.Schema.MarkerNames
import AccessorGen.Proofs.Schema.Recomposed
import AccessorGen.Proofs.Schema.RoundTrip
import AccessorGen.Proofs.Schema.Warnings
import AccessorGen.Proofs.Schema.WellFormed
import AccessorGen.Proofs.Sessions
import AccessorGen.Proofs.Settings
import AccessorGen.Proofs.SourceText
import AccessorGen.Proofs.Traversal
import AccessorGen.Proofs.Trees
import AccessorGen.Proofs.UnitPaths
import AccessorGen.Report
import AccessorGen.Request
import AccessorGen.Round
import AccessorGen.Schema.Basic
import AccessorGen.Schema.Check
import AccessorGen.Schema.Describe
import AccessorGen.Schema.Load
import AccessorGen.Session
import AccessorGen.SourceUnit
import AccessorGen.Text.Blank
import AccessorGen.Text.Capital
import AccessorGen.Text.Dotted
import AccessorGen.Text.Letter
import AccessorGen.Text.Ranges
import AccessorGen.Toml.Document
import AccessorGen.Toml.Key
import AccessorGen.Toml.Moment
import AccessorGen.Toml.Number
import AccessorGen.Toml.Scan
import AccessorGen.Toml.Table
import AccessorGen.Toml.Text
import AccessorGen.Toml.Value
import AccessorGen.UnitName
