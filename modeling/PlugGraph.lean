import PlugGraph.Assoc
import PlugGraph.Attr
import PlugGraph.Channel
import PlugGraph.CommandLine.Command
import PlugGraph.CommandLine.Options
import PlugGraph.CommandLine.Report
import PlugGraph.CommandLine.Run
import PlugGraph.Curve
import PlugGraph.Dialogue
import PlugGraph.Display.Color
import PlugGraph.Display.Emoji
import PlugGraph.Display.Emoji.AToC
import PlugGraph.Display.Emoji.DToF
import PlugGraph.Display.Emoji.GToL
import PlugGraph.Display.Emoji.MToO
import PlugGraph.Display.Emoji.PToS
import PlugGraph.Display.Emoji.TToZ
import PlugGraph.Display.Literal
import PlugGraph.Display.Literal.Token
import PlugGraph.Display.Markup
import PlugGraph.Display.Panel
import PlugGraph.Display.Style
import PlugGraph.Display.Table
import PlugGraph.Display.Wrap
import PlugGraph.Document.Json
import PlugGraph.Document.SampleFile
import PlugGraph.Document.SceneFile
import PlugGraph.Document.Toml
import PlugGraph.Document.Toml.Number
import PlugGraph.Document.Toml.Quoted
import PlugGraph.Document.Toml.Table
import PlugGraph.Document.Value
import PlugGraph.Eval.Context
import PlugGraph.Eval.Diagnostic
import PlugGraph.Eval.Formula
import PlugGraph.Eval.Inputs
import PlugGraph.Eval.Kind
import PlugGraph.Eval.Query
import PlugGraph.Eval.Samples
import PlugGraph.Eval.Walk
import PlugGraph.Expr.Assignment
import PlugGraph.Expr.Builtin
import PlugGraph.Expr.Postfix
import PlugGraph.Expr.Program
import PlugGraph.Expr.Token
import PlugGraph.FileSystem
import PlugGraph.FrameRange
import PlugGraph.Main
import PlugGraph.Number.Binary
import PlugGraph.Number.Decimal
import PlugGraph.Number.Double
import PlugGraph.Number.Interpolation
import PlugGraph.Number.Layout
import PlugGraph.Number.Numeral
import PlugGraph.Number.Scalar
import PlugGraph.Number.Single
import PlugGraph.Number.Spelled
import PlugGraph.Path
import PlugGraph.Plug
import PlugGraph.Proofs.Agreement
import PlugGraph.Proofs.Anchor
import PlugGraph.Proofs.Availability
import PlugGraph.Proofs.Bindings
import PlugGraph.Proofs.Blocked
import PlugGraph.Proofs.Choice
import PlugGraph.Proofs.Coherence
import PlugGraph.Proofs.Conservation
import PlugGraph.Proofs.Curves
import PlugGraph.Proofs.Cycles
import PlugGraph.Proofs.Descent
import PlugGraph.Proofs.Driven
import PlugGraph.Proofs.Elements
import PlugGraph.Proofs.Epoch
import PlugGraph.Proofs.Exact
import PlugGraph.Proofs.Flow
import PlugGraph.Proofs.Frames
import PlugGraph.Proofs.Grammar
import PlugGraph.Proofs.History
import PlugGraph.Proofs.Indices
import PlugGraph.Proofs.Interpreter
import PlugGraph.Proofs.Loops
import PlugGraph.Proofs.Meaning
import PlugGraph.Proofs.Order
import PlugGraph.Proofs.PairBlend
import PlugGraph.Proofs.Parentheses
import PlugGraph.Proofs.Plugs
import PlugGraph.Proofs.Precision
import PlugGraph.Proofs.Records
import PlugGraph.Proofs.Remapping
import PlugGraph.Proofs.Reports
import PlugGraph.Proofs.Rewiring
import PlugGraph.Proofs.Rounding
import PlugGraph.Proofs.Session
import PlugGraph.Proofs.Settings
import PlugGraph.Proofs.Shadowing
import PlugGraph.Proofs.Slots
import PlugGraph.Proofs.Spacing
import PlugGraph.Proofs.Statements
import PlugGraph.Proofs.Termination
import PlugGraph.Proofs.Triples
import PlugGraph.Proofs.Unclosed
import PlugGraph.Proofs.Views
import PlugGraph.Proofs.Vocabulary
import PlugGraph.Proofs.Walk
import PlugGraph.Proofs.WeightedMean
import PlugGraph.Rotation.Order
import PlugGraph.Rotation.Quaternion
import PlugGraph.Runs
import PlugGraph.Scene
import PlugGraph.Scene.Binding
import PlugGraph.Scene.Blocked
import PlugGraph.Scene.Graph
import PlugGraph.Scene.Node
import PlugGraph.Settings
import PlugGraph.Text.Blank
import PlugGraph.Text.Case
import PlugGraph.Text.Digit
import PlugGraph.Text.Encoding
import PlugGraph.Text.Letter
import PlugGraph.Text.Printable
import PlugGraph.Text.Quoted
import PlugGraph.Text.Ranges
import PlugGraph.Text.Small
import PlugGraph.Text.Symbol
import PlugGraph.Text.Width
import PlugGraph.Vec3
