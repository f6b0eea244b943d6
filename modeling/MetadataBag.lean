import MetadataBag.Bag
import MetadataBag.Catalog.BuiltIn
import MetadataBag.Catalog.Loading
import MetadataBag.Catalog.Namespace
import MetadataBag.Codec
import MetadataBag.Command.Grammar
import MetadataBag.Command.Invocation
import MetadataBag.Command.Log
import MetadataBag.Command.Run
import MetadataBag.Command.Show
import MetadataBag.Configuration
import MetadataBag.Date.Civil
import MetadataBag.Date.Format
import MetadataBag.Date.Normalizer
import MetadataBag.Date.Zone
import MetadataBag.Decimal.Binary
import MetadataBag.Decimal.Integer
import MetadataBag.Decimal.Real
import MetadataBag.Decimal.Shortest
import MetadataBag.Error
import MetadataBag.Folder
import MetadataBag.Key
import MetadataBag.Kind
import MetadataBag.Main
import MetadataBag.Markup.Char
import MetadataBag.Markup.Print
import MetadataBag.Markup.Tree
import MetadataBag.Markup.Uri
import MetadataBag.Name
import MetadataBag.Namespaces
import MetadataBag.OrderedMap
import MetadataBag.Property
import MetadataBag.Registry
import MetadataBag.Store
import MetadataBag.Text.Blank
import MetadataBag.Text.Case
import MetadataBag.Text.CaseTable
import MetadataBag.Text.Digit
import MetadataBag.Text.Fields
import MetadataBag.Text.Printable
import MetadataBag.Text.Quoted
import MetadataBag.Toml.Document
import MetadataBag.Toml.Scalar
import MetadataBag.Toml.Table
import MetadataBag.Toml.Text
import MetadataBag.Value
import MetadataBag.XPath.Eval
import MetadataBag.XPath.Function
import MetadataBag.XPath.Node
import MetadataBag.XPath.Number
import MetadataBag.XPath.Reader
import MetadataBag.XPath.Syntax
import MetadataBag.Yaml.Cursor
import MetadataBag.Yaml.Document
import MetadataBag.Yaml.Node
import MetadataBag.Yaml.Scalar
import MetadataBag.Yaml.Token
import MetadataBag.Yaml.Token.Lexer
import MetadataBag.Yaml.Token.Scalar
import MetadataBag.Proofs.Codec.SinglePass
import MetadataBag.Proofs.Codec.Escaped
import MetadataBag.Proofs.Decimal.Numeral
import MetadataBag.Proofs.Store.Kept
import MetadataBag.Proofs.Store.Order
import MetadataBag.Proofs.Store.History
import MetadataBag.Proofs.Store.Reading
import MetadataBag.Proofs.Bag.Effect
import MetadataBag.Proofs.Registry.History
import MetadataBag.Proofs.Registry.Resolution
import MetadataBag.Proofs.Registry.Extension
import MetadataBag.Proofs.Registry.Coherence
import MetadataBag.Proofs.Bag.Run
import MetadataBag.Proofs.Bag.Slots
import MetadataBag.Proofs.Bag.SingleValue
import MetadataBag.Proofs.Bag.Named
import MetadataBag.Proofs.Bag.Display
import MetadataBag.Proofs.Bag.Copy
import MetadataBag.Proofs.Bag.Composite
import MetadataBag.Proofs.Bag.Addition
import MetadataBag.Proofs.Bag.Integer
import MetadataBag.Proofs.Bag.Congruence
import MetadataBag.Proofs.Bag.Equality
import MetadataBag.Proofs.Bag.Transcript
import MetadataBag.Proofs.Bag.Recoded
import MetadataBag.Proofs.Bag.Independence
import MetadataBag.Proofs.Bag.Synonym
import MetadataBag.Proofs.Bag.Clearing
import MetadataBag.Proofs.Bag.Bindings
import MetadataBag.Proofs.Bag.Assignment
import MetadataBag.Proofs.Bag.WholeNumber
import MetadataBag.Proofs.Markup.Written
import MetadataBag.Proofs.Markup.Built
import MetadataBag.Proofs.Date.Calendar
import MetadataBag.Proofs.Date.Field
import MetadataBag.Proofs.Date.Canonical
import MetadataBag.Proofs.Date.Failure
import MetadataBag.Proofs.Date.Spelling
import MetadataBag.Proofs.Date.Offset
import MetadataBag.Proofs.Date.Agreement
import MetadataBag.Proofs.Date.Preference
import MetadataBag.Proofs.Date.Colon
import MetadataBag.Proofs.Date.Order
import MetadataBag.Proofs.Markup.Complete
import MetadataBag.Proofs.Markup.Grouped
import MetadataBag.Proofs.Catalog.Course
import MetadataBag.Proofs.Catalog.Conservative
import MetadataBag.Proofs.Catalog.Report
import MetadataBag.Proofs.Codec.Trace
import MetadataBag.Proofs.Name.Spelling
import MetadataBag.Proofs.Registry.Collision
import MetadataBag.Proofs.Store.Gathered
import MetadataBag.Proofs.Command.Filling
import MetadataBag.Proofs.Command.Shown
