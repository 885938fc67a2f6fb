import Obfuscation.Text.Quote
/-!
Faults: the ways an operation can fail, each with the kind name and message it reports.

A fault carries a kind, which names the class of failure as the host system reports it, and a
message. Modules that detect a failure build the message from their own error values; this
module only fixes the vocabulary of kinds and the common messages.
-/

namespace Obfuscation

inductive FaultKind where
  | keyError
  | valueError
  | typeError
  | indexError
  | attributeError
  | unicodeEncodeError
  | unicodeDecodeError
  | base64Error
  | syntaxError
  | indentationError
  | tabError
  | fileNotFound
  | notADirectory
  | isADirectory
  | fileExists
  | sameFile
  | copyFailures
  deriving DecidableEq, Repr, Inhabited

def FaultKind.name : FaultKind → String
  | .keyError => "KeyError"
  | .valueError => "ValueError"
  | .typeError => "TypeError"
  | .indexError => "IndexError"
  | .attributeError => "AttributeError"
  | .unicodeEncodeError => "UnicodeEncodeError"
  | .unicodeDecodeError => "UnicodeDecodeError"
  | .base64Error => "Error"
  | .syntaxError => "SyntaxError"
  | .indentationError => "IndentationError"
  | .tabError => "TabError"
  | .fileNotFound => "FileNotFoundError"
  | .notADirectory => "NotADirectoryError"
  | .isADirectory => "IsADirectoryError"
  | .fileExists => "FileExistsError"
  | .sameFile => "SameFileError"
  | .copyFailures => "Error"

structure Fault where
  kind : FaultKind
  message : String
  deriving DecidableEq, Repr, Inhabited

namespace Fault

def missingKey (key : Text) : Fault := ⟨.keyError, Text.quote key⟩

def stringIndex : Fault := ⟨.indexError, "string index out of range"⟩

def listIndex : Fault := ⟨.indexError, "list index out of range"⟩

def noLength (typeName : String) : Fault :=
  ⟨.typeError, "object of type '" ++ typeName ++ "' has no len()"⟩

def notAnInteger (typeName : String) : Fault :=
  ⟨.typeError, "'" ++ typeName ++ "' object cannot be interpreted as an integer"⟩

end Fault

end Obfuscation
