import Recolour.Bytes
import Recolour.Channel
import Recolour.Channel.Parser
import Recolour.Command
import Recolour.Command.Basic
import Recolour.Command.Check
import Recolour.Command.Completions
import Recolour.Command.Formats
import Recolour.Command.Init
import Recolour.Command.Presets
import Recolour.Command.Run
import Recolour.CommandLine
import Recolour.EncoderOptions
import Recolour.Error
import Recolour.Execution
import Recolour.Expression.Parser
import Recolour.FileTree
import Recolour.Format
import Recolour.Format.Builtin
import Recolour.Format.Choice
import Recolour.Format.Registry
import Recolour.Host
import Recolour.Image
import Recolour.Image.Painting
import Recolour.Library
import Recolour.Lint
import Recolour.Main
import Recolour.Misreading
import Recolour.Path
import Recolour.Pixel
import Recolour.Pixel.Metrics
import Recolour.Pixel.Transfer
import Recolour.Plain
import Recolour.Plain.Gif
import Recolour.Plain.Jpeg
import Recolour.Plain.Png
import Recolour.Plain.Pnm
import Recolour.Plain.Pnm.Parser
import Recolour.Plain.Samples
import Recolour.Plain.Yaml
import Recolour.Plain.Yaml.Cell
import Recolour.Plain.Yaml.Parser
import Recolour.Plain.Yaml.Scalar
import Recolour.Plain.Yaml.Settings
import Recolour.Preset
import Recolour.Program
import Recolour.Proofs.Answer
import Recolour.Proofs.Assembly
import Recolour.Proofs.Brightness
import Recolour.Proofs.Counting
import Recolour.Proofs.Directory.Delivery
import Recolour.Proofs.Directory.Naming
import Recolour.Proofs.Directory.Target
import Recolour.Proofs.Directory.Writes
import Recolour.Proofs.Doubles
import Recolour.Proofs.EncoderOptions
import Recolour.Proofs.EncoderOptions.History
import Recolour.Proofs.Encoding
import Recolour.Proofs.FailedRun
import Recolour.Proofs.FileTree
import Recolour.Proofs.Grayscale
import Recolour.Proofs.Image
import Recolour.Proofs.Layering
import Recolour.Proofs.Legality
import Recolour.Proofs.Linting
import Recolour.Proofs.Merging
import Recolour.Proofs.Metrics
import Recolour.Proofs.Painting
import Recolour.Proofs.Path
import Recolour.Proofs.Percentage
import Recolour.Proofs.Pixels
import Recolour.Proofs.Places
import Recolour.Proofs.Plain.Files
import Recolour.Proofs.Plain.Words
import Recolour.Proofs.Planes
import Recolour.Proofs.Pnm.Layout
import Recolour.Proofs.Pnm.RoundTrip
import Recolour.Proofs.Presets
import Recolour.Proofs.Reading.Bytes
import Recolour.Proofs.Reading.Grammar
import Recolour.Proofs.Reading.Line
import Recolour.Proofs.Reading.Misreading
import Recolour.Proofs.Reading.Numbering
import Recolour.Proofs.Reading.Outcome
import Recolour.Proofs.Reading.Packed
import Recolour.Proofs.Reading.RoundTrip
import Recolour.Proofs.Reading.Token
import Recolour.Proofs.Recipe.Entry
import Recolour.Proofs.Recipe.Ingredient
import Recolour.Proofs.Recipe.Segments
import Recolour.Proofs.Recolouring
import Recolour.Proofs.Registry
import Recolour.Proofs.Reporting
import Recolour.Proofs.Running
import Recolour.Proofs.Sequence
import Recolour.Proofs.Session
import Recolour.Proofs.Sorting
import Recolour.Proofs.StrictRecolouring
import Recolour.Proofs.Success
import Recolour.Proofs.Text.Case
import Recolour.Proofs.Text.Digits
import Recolour.Proofs.Text.Fields
import Recolour.Proofs.Text.Lines
import Recolour.Proofs.Text.Newlines
import Recolour.Proofs.Text.Utf8
import Recolour.Proofs.Thresholding
import Recolour.Proofs.Unreachable
import Recolour.Proofs.Writing
import Recolour.Recipe
import Recolour.Recolouring
import Recolour.Report
import Recolour.Report.Display
import Recolour.Report.Json
import Recolour.Rounding
import Recolour.Rule
import Recolour.Rule.Legality
import Recolour.Rule.Parser
import Recolour.Session
import Recolour.Settings
import Recolour.Terminal
import Recolour.Text.Blank
import Recolour.Text.Case
import Recolour.Text.Digits
import Recolour.Text.Hidden
import Recolour.Text.Json
import Recolour.Text.Lines
import Recolour.Text.Quoted
import Recolour.Text.Utf8
import Recolour.Written
