import ShaderBundle.Gl.Backend
import ShaderBundle.Gl.Scripted
import ShaderBundle.Graphics.BackendKind
import ShaderBundle.Graphics.Build
import ShaderBundle.Graphics.Scripted
import ShaderBundle.Headless.Layout
import ShaderBundle.Source.Loader
import ShaderBundle.Number.Binary
import ShaderBundle.Number.Shortest
import ShaderBundle.Toml.Cursor
import ShaderBundle.Toml.Reader
import ShaderBundle.Settings.Duration
import ShaderBundle.Settings.Reading
import ShaderBundle.Registry.Registry
import ShaderBundle.Glsl.Fault
import ShaderBundle.Headless.Backend
import ShaderBundle.Glsl.Lexeme
import ShaderBundle.Glsl.Macro
import ShaderBundle.Glsl.Preprocessed
import ShaderBundle.Glsl.Signature
import ShaderBundle.Glsl.Term
import ShaderBundle.Glsl.Session
import ShaderBundle.Glsl.Meaning
import ShaderBundle.Glsl.Grammar
import ShaderBundle.Glsl.Qualifier
import ShaderBundle.Glsl.Declaration
import ShaderBundle.Glsl.Statement
import ShaderBundle.Glsl.EntryPoint
import ShaderBundle.Glsl.Shader
import ShaderBundle.Command.Answer
import ShaderBundle.Main
import ShaderBundle.Proofs.Text.Lines
import ShaderBundle.Proofs.Text.Masked
import ShaderBundle.Proofs.Text.Zones
import ShaderBundle.Proofs.Text.Words
import ShaderBundle.Proofs.Bundle.Declaration
import ShaderBundle.Proofs.Bundle.Rename
import ShaderBundle.Proofs.Bundle.Outline
import ShaderBundle.Proofs.Bundle.Blocks
import ShaderBundle.Proofs.Bundle.Partition
import ShaderBundle.Proofs.Bundle.Comments
import ShaderBundle.Proofs.Bundle.Verdict
import ShaderBundle.Proofs.Graphics.Keeps
import ShaderBundle.Proofs.Graphics.Ledger
import ShaderBundle.Proofs.Graphics.Recording
import ShaderBundle.Proofs.Headless.Layout
import ShaderBundle.Proofs.Headless.Outcome
import ShaderBundle.Proofs.Headless.History
import ShaderBundle.Proofs.Command.Check
import ShaderBundle.Proofs.Graphics.Courses
import ShaderBundle.Proofs.Graphics.Conservation
import ShaderBundle.Proofs.Graphics.Settled
import ShaderBundle.Proofs.Graphics.Visits
import ShaderBundle.Proofs.Graphics.Bystanders
import ShaderBundle.Proofs.Registry.Slots
import ShaderBundle.Proofs.Registry.Traffic
import ShaderBundle.Proofs.Registry.DeadHandles
import ShaderBundle.Proofs.Registry.Thread
import ShaderBundle.Proofs.Registry.Holdings
import ShaderBundle.Proofs.Registry.Scene
import ShaderBundle.Proofs.Registry.Custody
import ShaderBundle.Proofs.Registry.Interleaving
import ShaderBundle.Proofs.Registry.Lifetimes
import ShaderBundle.Proofs.Registry.Orders
import ShaderBundle.Proofs.Registry.Discards
import ShaderBundle.Proofs.Registry.Staged
import ShaderBundle.Proofs.Registry.Operations
import ShaderBundle.Proofs.Registry.Marks
import ShaderBundle.Proofs.Registry.FailedReload
import ShaderBundle.Proofs.Registry.Duplicates
import ShaderBundle.Proofs.Registry.Service
import ShaderBundle.Proofs.Registry.Keeping
import ShaderBundle.Proofs.Registry.Performed
import ShaderBundle.Proofs.Registry.Inheriting
import ShaderBundle.Proofs.Registry.Snapshots
import ShaderBundle.Proofs.Registry.Versions
import ShaderBundle.Proofs.Registry.AtRest
import ShaderBundle.Proofs.Registry.LookingAfter
import ShaderBundle.Proofs.Registry.Statuses
import ShaderBundle.Proofs.Registry.Convergence
import ShaderBundle.Proofs.Headless.Varyings
import ShaderBundle.Proofs.Headless.StoredValues
import ShaderBundle.Proofs.Gl.Current
import ShaderBundle.Proofs.Graphics.CutCourses
import ShaderBundle.Proofs.Registry.Leftovers
import ShaderBundle.Proofs.Graphics.Wiring
import ShaderBundle.Proofs.Gl.Objects
import ShaderBundle.Proofs.Gl.Release
import ShaderBundle.Proofs.Headless.Numbering
import ShaderBundle.Proofs.Headless.Locations
import ShaderBundle.Proofs.Headless.Bindings
import ShaderBundle.Proofs.Headless.Lifting
import ShaderBundle.Proofs.Diagnostic.Place
import ShaderBundle.Proofs.Diagnostic.Remap
import ShaderBundle.Proofs.Headless.Reflection
import ShaderBundle.Proofs.Headless.Rewriting
import ShaderBundle.Proofs.Headless.Asking
import ShaderBundle.Proofs.Headless.Spelling
import ShaderBundle.Proofs.Bundle.Indifference
import ShaderBundle.Proofs.Graphics.Remembering
import ShaderBundle.Proofs.Headless.Lookups
import ShaderBundle.Proofs.Registry.Lookups
import ShaderBundle.Proofs.Settings.Interval
import ShaderBundle.Proofs.Diagnostic.Overflow
import ShaderBundle.Proofs.Text.Eraser
import ShaderBundle.Proofs.Bundle.Slices
