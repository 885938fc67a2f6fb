import Obfuscation.Text.Basic
import Obfuscation.Text.Printable
import Obfuscation.Text.Identifier
import Obfuscation.Text.Quote
import Obfuscation.Text.NameList
import Obfuscation.Text.Names
import Obfuscation.Text.NormalData
import Obfuscation.Text.Normal
import Obfuscation.Fault
import Obfuscation.Text.Utf8
import Obfuscation.Bytes.Hex
import Obfuscation.Bytes.Base64
import Obfuscation.Cipher.Aes
import Obfuscation.Entropy
import Obfuscation.Cipher.Stream
import Obfuscation.Cipher.Sealed
import Obfuscation.Session
import Obfuscation.Syntax.Tree
import Obfuscation.Syntax.Token
import Obfuscation.Syntax.Lexer
import Obfuscation.Syntax.Parser.Basic
import Obfuscation.Syntax.Literal
import Obfuscation.Decimal.Shortest
import Obfuscation.Decimal.Notation
import Obfuscation.Syntax.Number
import Obfuscation.Syntax.Parser.Expr
import Obfuscation.Syntax.Parser.Pattern
import Obfuscation.Syntax.Parser.Stmt
import Obfuscation.Syntax.Printer.Delimiter
import Obfuscation.Syntax.Printer.Expr
import Obfuscation.Syntax.Printer.Stmt
import Obfuscation.Syntax.Parse
import Obfuscation.Syntax.Walk
import Obfuscation.Pass.Rename
import Obfuscation.Pass.Seal
import Obfuscation.Pass.Flatten
import Obfuscation.Pass.Inject
import Obfuscation.Pass.Strip
import Obfuscation.Pass.Transform
import Obfuscation.Workspace.Path
import Obfuscation.Workspace.Basic
import Obfuscation.Workspace.Process
import Obfuscation.Workspace.Copy
import Obfuscation.Workspace.CommandLine
import Obfuscation.Workload
import Obfuscation.Main
import Obfuscation.Syntax.Checking.Basic
import Obfuscation.Syntax.Checking.Expr
import Obfuscation.Syntax.Checking.Stmt
import Obfuscation.Proofs.Base64
import Obfuscation.Proofs.Utf8
import Obfuscation.Proofs.Run
import Obfuscation.Proofs.Sealing
import Obfuscation.Proofs.Outcome
import Obfuscation.Proofs.Nested
import Obfuscation.Proofs.Passes
import Obfuscation.Proofs.Docstrings
import Obfuscation.Proofs.Rules
import Obfuscation.Proofs.Steps
import Obfuscation.Proofs.WalkRules
import Obfuscation.Proofs.PassRules
import Obfuscation.Proofs.Traversal
import Obfuscation.Proofs.Renaming
import Obfuscation.Proofs.Closed
import Obfuscation.Proofs.Paths
import Obfuscation.Proofs.Effects
import Obfuscation.Proofs.Frame
import Obfuscation.Proofs.DefinitionWalk
import Obfuscation.Proofs.Injection
import Obfuscation.Proofs.RenamingOrder
import Obfuscation.Proofs.SealingOrder
import Obfuscation.Proofs.Execution
import Obfuscation.Proofs.Refill
import Obfuscation.Proofs.Flattening
import Obfuscation.Proofs.Totality
import Obfuscation.Proofs.Decryptor
import Obfuscation.Proofs.Substitution
import Obfuscation.Proofs.DefinitionEdits
import Obfuscation.Proofs.Reflattening
import Obfuscation.Proofs.Inertness
import Obfuscation.Proofs.BlockPadding
import Obfuscation.Proofs.Relational
import Obfuscation.Proofs.Printing
import Obfuscation.Proofs.WalkPrinting
import Obfuscation.Proofs.PassPrinting
import Obfuscation.Proofs.Scoping
import Obfuscation.Proofs.ScopeWalks
import Obfuscation.Proofs.PassScoping
import Obfuscation.Proofs.Enclosing
import Obfuscation.Proofs.DecryptorCalls
