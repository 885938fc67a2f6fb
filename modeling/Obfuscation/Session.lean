import Obfuscation.Entropy
import Obfuscation.Cipher.Sealed
import Obfuscation.Workspace.Basic
/-!
A session: the entropy source, the lines printed so far, and the work directory.

Work that draws names, numbers or vectors, or prints, runs in `Run`, which threads the session
and may stop with a fault. A fault keeps the session as it was when the fault arose, so that a
caller who catches it goes on with every draw and line made before.
-/

namespace Obfuscation

structure Session where
  entropy : Entropy := {}
  printed : String := ""
  reported : String := ""
  tree : Workspace.Tree := {}
  deriving Inhabited

abbrev Run := ExceptT Fault (StateM Session)

namespace Run

def say (line : String) : Run Unit :=
  modify fun s => { s with printed := s.printed ++ line ++ "\n" }

def report (text : String) : Run Unit :=
  modify fun s => { s with reported := s.reported ++ text }

def tree : Run Workspace.Tree := do return (← get).tree

def setTree (w : Workspace.Tree) : Run Unit := modify fun s => { s with tree := w }

def fail {α : Type} (f : Fault) : Run α := throw f

def ofExcept {α : Type} : Except Fault α → Run α
  | .ok a => pure a
  | .error f => throw f

/-- Draw a fresh variable name of `k` characters after `v_`. -/
def drawName (k : Int) : Run String := do
  let s ← get
  let (name, e) := s.entropy.drawName k
  set { s with entropy := e }
  return name

def drawBetween (lo hi : Int) : Run Int := do
  let s ← get
  let (n, e) := s.entropy.drawBetween lo hi
  set { s with entropy := e }
  return n

def key : Run (List UInt8) := do ofExcept (← get).entropy.key

def drawVector : Run (List UInt8) := do
  let s ← get
  let (iv, e) := s.entropy.drawVector
  set { s with entropy := e }
  ofExcept iv

def reseed : Run Unit := modify fun s => { s with entropy := s.entropy.reseed }

/-- Seal a text under a key with a freshly drawn vector. The key is checked before the vector is
drawn, and the vector before the text is encoded. -/
def sealText (key : List UInt8) (plain : Text) : Run String := do
  let keys ← ofExcept (Cipher.prepareKey key)
  let iv ← ofExcept (Cipher.prepareVector (← drawVector))
  ofExcept (Cipher.sealWith (Cipher.encryptBlock keys) iv plain)

end Run

end Obfuscation
