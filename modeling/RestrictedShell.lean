import RestrictedShell.Editor.Piped
import RestrictedShell.Editor.Typed
import RestrictedShell.Launch.ChildTable
import RestrictedShell.Main
import RestrictedShell.Proofs.Dispatch.Classification
import RestrictedShell.Proofs.Host.Loading
import RestrictedShell.Proofs.Options
import RestrictedShell.Proofs.Outcome
import RestrictedShell.Proofs.Report
import RestrictedShell.Proofs.Session.Account
import RestrictedShell.Proofs.Session.Directory
import RestrictedShell.Proofs.Session.Duration
import RestrictedShell.Proofs.Session.Failures
import RestrictedShell.Proofs.Session.Fragments
import RestrictedShell.Proofs.Session.Handover
import RestrictedShell.Proofs.Session.Launches
import RestrictedShell.Proofs.Session.Lifecycle
import RestrictedShell.Proofs.Session.LineEndings
import RestrictedShell.Proofs.Session.Logging
import RestrictedShell.Proofs.Session.Prompting
import RestrictedShell.Proofs.Session.Provenance
import RestrictedShell.Proofs.Session.Refusal
import RestrictedShell.Proofs.Session.Rows
import RestrictedShell.Proofs.Session.Stepwise
import RestrictedShell.Proofs.Session.Stopping
import RestrictedShell.Proofs.Session.Succession
import RestrictedShell.Proofs.Session.Terminators
import RestrictedShell.Proofs.Session.Tolerance
import RestrictedShell.Proofs.Session.Transcript
import RestrictedShell.Proofs.Session.Unloadable
import RestrictedShell.Proofs.Session.Unrecognized
import RestrictedShell.Proofs.Session.Unstartable
import RestrictedShell.Proofs.Source.Decoding
import RestrictedShell.Proofs.Source.Prompts
import RestrictedShell.Proofs.Text.Ascii
import RestrictedShell.Proofs.Words.Layout
import RestrictedShell.Source.Script
