import CompileFlags.Main
import CompileFlags.Proofs.NearestDirectory
import CompileFlags.Proofs.Query
import CompileFlags.Proofs.CommandLine
import CompileFlags.Proofs.Json.Text
import CompileFlags.Proofs.FileSystem.Paths
import CompileFlags.Proofs.HardFaults
import CompileFlags.Proofs.LaterEntry
import CompileFlags.Proofs.SearchPath
import CompileFlags.Proofs.UnusableItems
import CompileFlags.Proofs.OptionLine
import CompileFlags.Proofs.LogIndependence
import CompileFlags.Proofs.Settings.Sharing
import CompileFlags.Proofs.Report
import CompileFlags.Proofs.Stripping
import CompileFlags.Proofs.DatabaseFile
import CompileFlags.Proofs.Settings.Startup
import CompileFlags.Proofs.Settings.FailedChange
import CompileFlags.Proofs.RestatedEntry
import CompileFlags.Proofs.DirectoryHistory
import CompileFlags.Proofs.LineEndings
import CompileFlags.Proofs.NearestRoot
import CompileFlags.Proofs.Path.Stages
import CompileFlags.Proofs.AbsoluteOptions
import CompileFlags.Proofs.NearestDatabase
