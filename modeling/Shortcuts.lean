import Shortcuts.Text.Blank
import Shortcuts.Text.Case
import Shortcuts.Text.Category
import Shortcuts.Text.Script
import Shortcuts.Decimal.Shortest
import Shortcuts.Decimal.Literal
import Shortcuts.Json.Reader
import Shortcuts.Json.Writer
import Shortcuts.Locale
import Shortcuts.Chord.Reader
import Shortcuts.KeyEvent
import Shortcuts.Accelerator
import Shortcuts.Terminal
import Shortcuts.Pattern.Reader
import Shortcuts.Clause.Printer
import Shortcuts.Clause.Reader
import Shortcuts.Emitter.Reaction
import Shortcuts.Disposable
import Shortcuts.Storage
import Shortcuts.Settings
import Shortcuts.Context.Arena
import Shortcuts.Toml.Reader
import Shortcuts.Toml.Writer
import Shortcuts.Keymap.Basic
import Shortcuts.Keymap.Collision
import Shortcuts.Keymap.File
import Shortcuts.Preferences
import Shortcuts.Layout.Active
import Shortcuts.Context.Viewpoint
import Shortcuts.Command
import Shortcuts.Workbench.Start
import Shortcuts.Describe.Clause
import Shortcuts.Describe.Error
import Shortcuts.Describe.Sequence
import Shortcuts.Describe.Workbench
import Shortcuts.Session.Basic
import Shortcuts.Session.Start
import Shortcuts.Proofs.Dispatch.Segments
import Shortcuts.Proofs.Dispatch.Unbinding
import Shortcuts.Proofs.Dispatch.Calls
import Shortcuts.Proofs.Dispatch.CollisionReport
import Shortcuts.Proofs.Workbench.Replacement
import Shortcuts.Proofs.Chord.Grammar
import Shortcuts.Proofs.Chord.PrefixOrder
import Shortcuts.Proofs.Context.Answers
import Shortcuts.Proofs.Context.Buffering
import Shortcuts.Proofs.Emitter.Reacting
import Shortcuts.Proofs.Layout.Following
import Shortcuts.Proofs.Layout.Resumption
import Shortcuts.Proofs.Storage.Refinement
import Shortcuts.Proofs.Clause.RoundTrip
import Shortcuts.Proofs.Clause.Tokens
import Shortcuts.Proofs.Context.Notification
import Shortcuts.Proofs.Context.Transparency
import Shortcuts.Proofs.Context.Reparenting
import Shortcuts.Proofs.Layout.Naming
import Shortcuts.Proofs.Layout.Snapshot
import Shortcuts.Proofs.Chord.RoundTrip
import Shortcuts.Proofs.Context.WhatIf
import Shortcuts.Proofs.Context.Anchoring
import Shortcuts.Proofs.Context.Ending
import Shortcuts.Proofs.Context.Flattening
import Shortcuts.Proofs.Context.Recall
import Shortcuts.Proofs.Settings.Affected
import Shortcuts.Proofs.Layout.Choice
import Shortcuts.Proofs.Layout.TopScore
import Shortcuts.Proofs.Layout.Resolution
import Shortcuts.Proofs.Layout.Selecting
import Shortcuts.Proofs.Layout.Pinning
import Shortcuts.Proofs.Layout.Lead
import Shortcuts.Proofs.Layout.Agreement
import Shortcuts.Proofs.Layout.Replay
import Shortcuts.Proofs.Command.Ownership
