import CheckedLiterals.Binary.Basic
import CheckedLiterals.Binary.Bits
import CheckedLiterals.Binary.Decimal
import CheckedLiterals.Binary.Format
import CheckedLiterals.Binary.Rounding
import CheckedLiterals.Binary.Shortest
import CheckedLiterals.Check
import CheckedLiterals.Expansion
import CheckedLiterals.Expression.Basic
import CheckedLiterals.Expression.Operator
import CheckedLiterals.Expression.Parser
import CheckedLiterals.FrontEnd
import CheckedLiterals.Invocation
import CheckedLiterals.Json.Blank
import CheckedLiterals.Json.Number
import CheckedLiterals.Json.Skip
import CheckedLiterals.Json.Text
import CheckedLiterals.Kind
import CheckedLiterals.Layout
import CheckedLiterals.LiteralNumber
import CheckedLiterals.Numeral
import CheckedLiterals.Refined.Alias
import CheckedLiterals.Refined.Basic
import CheckedLiterals.Refined.Collection
import CheckedLiterals.Refined.Domain
import CheckedLiterals.Refined.Encoding
import CheckedLiterals.Refined.Layer
import CheckedLiterals.Refined.Predicate
import CheckedLiterals.Refined.Template
import CheckedLiterals.Refined.Text
import CheckedLiterals.Refined.ValueType
import CheckedLiterals.Refined.Whole
import CheckedLiterals.Rejection
import CheckedLiterals.Rule
import CheckedLiterals.Text.CharacterRange
import CheckedLiterals.Text.Escape
import CheckedLiterals.Text.Hexadecimal
import CheckedLiterals.Text.Identifier
import CheckedLiterals.Text.Scanner
import CheckedLiterals.Text.WhiteSpace
import CheckedLiterals.Token.Comment
import CheckedLiterals.Token.Lexeme
import CheckedLiterals.Token.Lexer
import CheckedLiterals.Token.Literal
import CheckedLiterals.Token.Number
import CheckedLiterals.Token.Quoted
import CheckedLiterals.Token.Tree
import CheckedLiterals.Proofs.Binary.Grid
import CheckedLiterals.Proofs.Binary.Nearest
import CheckedLiterals.Proofs.Binary.Rounded
import CheckedLiterals.Proofs.LiteralNumber.Body
import CheckedLiterals.Proofs.LiteralNumber.Reading
import CheckedLiterals.Proofs.Binary.Order
import CheckedLiterals.Proofs.Binary.Threshold
import CheckedLiterals.Proofs.Binary.Extended
import CheckedLiterals.Proofs.Binary.Bounds
import CheckedLiterals.Proofs.Check.Verdict
import CheckedLiterals.Proofs.Check.Judgement
import CheckedLiterals.Proofs.Check.Stages
import CheckedLiterals.Proofs.Check.Soundness
import CheckedLiterals.Proofs.Invocation.Laws
import CheckedLiterals.Proofs.Invocation.Outcome
import CheckedLiterals.Proofs.Invocation.NonEmpty
import CheckedLiterals.Proofs.LiteralNumber.Unreadable
import CheckedLiterals.Proofs.LiteralNumber.Spelled
import CheckedLiterals.Proofs.Numeral.Written
import CheckedLiterals.Proofs.Binary.ReadBack
import CheckedLiterals.Proofs.Binary.ShortDecimal
import CheckedLiterals.Proofs.Check.WholeSpelling
import CheckedLiterals.Proofs.Check.FloatSpelling
import CheckedLiterals.Proofs.Refined.Run
import CheckedLiterals.Proofs.Binary.Twice
import CheckedLiterals.Proofs.LiteralNumber.Narrowed
import CheckedLiterals.Proofs.Binary.Underflow
import CheckedLiterals.Proofs.Check.Margin
import CheckedLiterals.Proofs.Check.Lattice
import CheckedLiterals.Proofs.Check.Spelling
import CheckedLiterals.Proofs.LiteralNumber.Minus
import CheckedLiterals.Proofs.Check.Mirror
import CheckedLiterals.Proofs.LiteralNumber.RoundTrip
import CheckedLiterals.Proofs.Token.Quoted
import CheckedLiterals.Proofs.Token.Cutting
import CheckedLiterals.Proofs.Expression.Lookahead
import CheckedLiterals.Proofs.Expression.Extension
import CheckedLiterals.Proofs.LiteralNumber.Comparison
import CheckedLiterals.Proofs.Binary.Narrowing
import CheckedLiterals.Proofs.Check.Retraction
import CheckedLiterals.Proofs.Invocation.Rendering
import CheckedLiterals.Proofs.Invocation.Standalone
import CheckedLiterals.Proofs.Invocation.ConstructorCall
import CheckedLiterals.Proofs.Invocation.Verbatim
import CheckedLiterals.Proofs.Invocation.Numeric
import CheckedLiterals.Proofs.Invocation.StringLiteral
import CheckedLiterals.Proofs.Invocation.Forwarded
import CheckedLiterals.Proofs.Invocation.LaterArguments
import CheckedLiterals.Proofs.Refined.Layer
import CheckedLiterals.Proofs.Refined.Serialization
