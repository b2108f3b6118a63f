import IniSchema.Demo
import IniSchema.Main
import IniSchema.Number.Literal.Lemmas
import IniSchema.Text.Lemmas
import IniSchema.Proofs.Blocks
import IniSchema.Proofs.Characters
import IniSchema.Proofs.Manual.Compilation
import IniSchema.Proofs.Manual.Forms
import IniSchema.Proofs.Manual.Grammar
import IniSchema.Proofs.Manual.Outline
import IniSchema.Proofs.Manual.Steps
import IniSchema.Proofs.Number.Float
import IniSchema.Proofs.Number.Unsigned
import IniSchema.Proofs.OrderedMap
import IniSchema.Proofs.Reading
import IniSchema.Proofs.Run
import IniSchema.Proofs.Schema
import IniSchema.Proofs.Settings
import IniSchema.Proofs.Source.Built
import IniSchema.Proofs.Source.Lines
import IniSchema.Proofs.Source.Outline
import IniSchema.Proofs.Source.Reader
import IniSchema.Proofs.Template
import IniSchema.Proofs.Text
import IniSchema.Proofs.Undeclared
import IniSchema.Proofs.Validation
import IniSchema.Proofs.Manual.Declarations
import IniSchema.Proofs.Listing
import IniSchema.Proofs.Satisfiable
import IniSchema.Proofs.Source.Steps
import IniSchema.Proofs.Source.Overlay
import IniSchema.Proofs.Source.Concatenation
import IniSchema.Proofs.Source.Sessions
import IniSchema.Proofs.Loading
import IniSchema.Proofs.Sameness
import IniSchema.Proofs.Manual.Independence
import IniSchema.Proofs.Case
import IniSchema.Proofs.Source.Recasing
import IniSchema.Proofs.Source.Grammar
import IniSchema.Proofs.Source.Labels
import IniSchema.Proofs.Source.Transport
import IniSchema.Proofs.Layout
import IniSchema.Proofs.Source.Layout
import IniSchema.Proofs.Manual.Layout
import IniSchema.Proofs.Manual.Written
import IniSchema.Proofs.Number.Integer
import IniSchema.Proofs.Insertion
import IniSchema.Proofs.Source.Written
import IniSchema.Proofs.LookUp
import IniSchema.Proofs.Number.Rounding
import IniSchema.Proofs.Number.Rational
import IniSchema.Proofs.Number.Decimal
import IniSchema.Proofs.Number.Reading
import IniSchema.Proofs.Number.Agreement
import IniSchema.Proofs.Number.Recognition
import IniSchema.Proofs.Number.Whole
import IniSchema.Proofs.Manual.Cursors
import IniSchema.Proofs.Capitals
