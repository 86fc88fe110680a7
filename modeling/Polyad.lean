import Polyad.Session
import Polyad.Value.Function
import Polyad.Text.Directive
import Polyad.Rows
import Polyad.FloatOrder
import Polyad.Family.Items
import Polyad.Family.Expansion
import Polyad.Code.Reading
import Polyad.Code.Evaluation
import Polyad.Ceiling
import Polyad.Manifest
import Polyad.LawTests
import Polyad.Main
import Polyad.Proofs.Session.Calls
import Polyad.Proofs.Session.Lists
import Polyad.Proofs.Session.Twins
import Polyad.Proofs.Session.Appends
import Polyad.Proofs.Session.Conservation
import Polyad.Proofs.Family.Names
import Polyad.Proofs.Family.Typing
import Polyad.Proofs.Family.Positions
import Polyad.Proofs.Family.Layouts
import Polyad.Proofs.Family.Alignment
import Polyad.Proofs.Family.Census
import Polyad.Proofs.Family.Closure
import Polyad.Proofs.Family.Widening
import Polyad.Proofs.Family.Expansion
import Polyad.Proofs.Family.Evaluation
import Polyad.Proofs.Family.Meaning
import Polyad.Proofs.Family.Calling
import Polyad.Proofs.Family.Comparing
import Polyad.Proofs.Family.Rendering
import Polyad.Proofs.Family.Mentions
import Polyad.Proofs.Family.Scopes
import Polyad.Proofs.Family.MethodScopes
import Polyad.Proofs.Family.Hygiene
import Polyad.Proofs.Family.Safety
import Polyad.Proofs.Order.Comparators
import Polyad.Proofs.Order.Values
import Polyad.Proofs.Order.Floats
import Polyad.Proofs.Order.PartialTuples
import Polyad.Proofs.Order.Agreement
import Polyad.Proofs.Order.ColumnSort
import Polyad.Proofs.Order.Calls
import Polyad.Proofs.Order.Parts
import Polyad.Proofs.Packed.Growth
import Polyad.Proofs.Packed.Slots
import Polyad.Proofs.Packed.Mapping
import Polyad.Proofs.Digest
import Polyad.Proofs.Order.DistinctRows
import Polyad.Proofs.Lexical.Digits
import Polyad.Proofs.Lexical.Integers
import Polyad.Proofs.Lexical.Exponents
import Polyad.Proofs.Lexical.Literals
import Polyad.Proofs.Lexical.Lexing
import Polyad.Proofs.Text.Escapes
import Polyad.Proofs.Text.NativeForm
import Polyad.Proofs.Text.Reading
import Polyad.Proofs.Text.Nesting
import Polyad.Proofs.Sampling.Native
import Polyad.Proofs.Sampling.Descent
import Polyad.Proofs.Sampling.Candidates
import Polyad.Proofs.Ceiling
import Polyad.Proofs.LawTests
