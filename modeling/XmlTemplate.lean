import XmlTemplate.Text.Blank
import XmlTemplate.Text.Identifier
import XmlTemplate.Text.Quoted
import XmlTemplate.Text.Outline
import XmlTemplate.Decimal.Layout
import XmlTemplate.Decimal.Literal
import XmlTemplate.Value.Equality
import XmlTemplate.Value.Node
import XmlTemplate.Xml.Name
import XmlTemplate.Run
import XmlTemplate.Builtin
import XmlTemplate.Expression.Placeholder
import XmlTemplate.Expression.Call
import XmlTemplate.Template.Compile
import XmlTemplate.Render
import XmlTemplate.Stream
import XmlTemplate.Yaml.Merge
import XmlTemplate.Yaml.Glyph
import XmlTemplate.Yaml.Token
import XmlTemplate.Yaml.Token.Flow
import XmlTemplate.Yaml.Token.Block
import XmlTemplate.Yaml.Token.Lexer
import XmlTemplate.Yaml.Tree.Parser
import XmlTemplate.Yaml.Document
import XmlTemplate.Engine
import XmlTemplate.Proofs.Stop
import XmlTemplate.Proofs.Strict
import XmlTemplate.Proofs.Degradation
import XmlTemplate.Proofs.Immunity
import XmlTemplate.Proofs.Term
import XmlTemplate.Proofs.Reader
import XmlTemplate.Proofs.Document
import XmlTemplate.Proofs.Failure
import XmlTemplate.Proofs.Reorder
import XmlTemplate.Proofs.Shadow
import XmlTemplate.Proofs.Bracket
import XmlTemplate.Proofs.Printing
import XmlTemplate.Proofs.Writing
import XmlTemplate.Proofs.Classification
import XmlTemplate.Proofs.Delivery
import XmlTemplate.Proofs.Comparison
import XmlTemplate.Proofs.Tier
import XmlTemplate.Proofs.Depth
import XmlTemplate.Proofs.Related
import XmlTemplate.Proofs.Shape
import XmlTemplate.Proofs.Extension
import XmlTemplate.Proofs.Interruption
import XmlTemplate.Proofs.Demand
import XmlTemplate.Proofs.Reach
import XmlTemplate.Proofs.Fault
import XmlTemplate.Proofs.Bare
import XmlTemplate.Proofs.Merging
import XmlTemplate.Proofs.Order
import XmlTemplate.Proofs.Legal
import XmlTemplate.Proofs.Shown
import XmlTemplate.Proofs.Accepted
import XmlTemplate.Proofs.WellFormed
import XmlTemplate.Proofs.History
import XmlTemplate.Proofs.Scanning
import XmlTemplate.Proofs.Passes
import XmlTemplate.Proofs.Survival
import XmlTemplate.Proofs.Repetition
import XmlTemplate.Proofs.Recognition
import XmlTemplate.Proofs.Escaping
import XmlTemplate.Proofs.Pattern
import XmlTemplate.Proofs.Rounding
import XmlTemplate.Proofs.Nearest
import XmlTemplate.Proofs.Shortest
import XmlTemplate.Proofs.Numeral
import XmlTemplate.Proofs.Cast
import XmlTemplate.Proofs.Readback
import XmlTemplate.Proofs.Operand
import XmlTemplate.Proofs.Precedence
import XmlTemplate.Proofs.Independence
import XmlTemplate.Proofs.Naming
import XmlTemplate.Proofs.StrictEquality
import XmlTemplate.Proofs.Kinds
import XmlTemplate.Proofs.Slicing
