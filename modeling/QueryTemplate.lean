import QueryTemplate.CommandLine.Run
import QueryTemplate.Compile
import QueryTemplate.Main
import QueryTemplate.Proofs.Assembly.Arguments
import QueryTemplate.Proofs.Assembly.BlockBody
import QueryTemplate.Proofs.Assembly.Continuation
import QueryTemplate.Proofs.Assembly.Counts
import QueryTemplate.Proofs.Assembly.Offence
import QueryTemplate.Proofs.Assembly.Reading
import QueryTemplate.Proofs.Assembly.Respacing
import QueryTemplate.Proofs.Assembly.Segments
import QueryTemplate.Proofs.Binary64.Bits
import QueryTemplate.Proofs.Binary64.Nearest
import QueryTemplate.Proofs.CommandLine.Arguments
import QueryTemplate.Proofs.CommandLine.Reading
import QueryTemplate.Proofs.CommandLine.Run
import QueryTemplate.Proofs.Compile.Accounting
import QueryTemplate.Proofs.Compile.BlockElimination
import QueryTemplate.Proofs.Compile.Composition
import QueryTemplate.Proofs.Compile.ErrorClass
import QueryTemplate.Proofs.Compile.FirstOffence
import QueryTemplate.Proofs.Compile.Layout
import QueryTemplate.Proofs.Compile.Lists
import QueryTemplate.Proofs.Compile.Relaxation
import QueryTemplate.Proofs.Compile.Trimming
import QueryTemplate.Proofs.Containment.Query
import QueryTemplate.Proofs.Containment.Rendering
import QueryTemplate.Proofs.Containment.Scanner
import QueryTemplate.Proofs.Json.Places
import QueryTemplate.Proofs.Json.Reading
import QueryTemplate.Proofs.Numeral.Grammar
import QueryTemplate.Proofs.Numeral.Longest
import QueryTemplate.Proofs.Render.Arrays
import QueryTemplate.Proofs.Render.Characters
import QueryTemplate.Proofs.Render.IntegerLiteral
import QueryTemplate.Proofs.Render.IntegerRange
import QueryTemplate.Proofs.Render.Literals
import QueryTemplate.Proofs.Render.LooseNumbers
import QueryTemplate.Proofs.Render.Names
import QueryTemplate.Proofs.Results
import QueryTemplate.Proofs.Schema.KeyOrder
import QueryTemplate.Proofs.Schema.Loading
import QueryTemplate.Proofs.Schema.Offence
import QueryTemplate.Proofs.Schema.OptionsFile
import QueryTemplate.Proofs.Template.Grammar
import QueryTemplate.Proofs.Template.Lossless
import QueryTemplate.Proofs.Template.Places
import QueryTemplate.Proofs.Template.Spelling
import QueryTemplate.Proofs.Template.Tiling
import QueryTemplate.Proofs.Template.Words
import QueryTemplate.Proofs.Text
import QueryTemplate.Proofs.Value
import QueryTemplate.Settings
