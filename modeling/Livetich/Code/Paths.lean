/-
The path rules of the shared code document: `isSafeDocumentPath` and `isProtectedCodePath`. A
string is a list of characters; lengths count UTF-16 units, as the source's do.
-/
import Mathlib.Algebra.GroupWithZero.Nat
import Mathlib.Tactic.Common

namespace Livetich.Code

/-! ## Strings -/

/-- `length`: UTF-16 units. -/
def jsLength (s : List Char) : Nat := (s.map fun c => if c.toNat < 0x10000 then 1 else 2).sum

/-- One character under `toLowerCase`, as far as a comparison with ASCII text can tell: outside
ASCII only the Kelvin sign and the dotted capital I have ASCII in their lower case. -/
def lowerChar (c : Char) : List Char :=
  if c.isUpper then [c.toLower]
  else if c = '\u212A' then ['k']
  else if c = '\u0130' then ['i', '\u0307']
  else [c]

def toLowerCase (s : List Char) : List Char := s.flatMap lowerChar

/-- `replace(/\\/g, '/')`. -/
def forwardSlashes (s : List Char) : List Char := s.map fun c => if c = '\\' then '/' else c

/-- `/^[a-z]:/i`. -/
def hasDrive : List Char → Bool
  | c :: ':' :: _ => c.isAlpha
  | _ => false

/-! ## Paths -/

def isSafeDocumentPath (value : String) : Bool :=
  let normalized := forwardSlashes value.toList
  0 < jsLength normalized && jsLength normalized ≤ 512 &&
    normalized.head? != some '/' && !hasDrive normalized &&
    !(normalized.splitOn '/').any fun part => part == [] || part == ['.'] || part == ['.', '.']

def protectedSegments : List String := [".aws", ".ssh", ".secrets", ".docker", "secrets"]

def templateNames : List String := [".env.example", ".env.sample", ".env.template"]

def protectedNames : List String :=
  [".env", ".npmrc", ".netrc", "credentials", "credentials.json", "secrets.json"]

def protectedPrefixes : List String := [".env.", "id_rsa", "id_ed25519"]

def protectedSuffixes : List String := [".pem", ".key", ".p12", ".pfx"]

def isProtectedCodePath (value : String) : Bool :=
  let segments := (toLowerCase (forwardSlashes value.toList)).splitOn '/'
  if segments.any fun segment => protectedSegments.any (·.toList == segment) then true
  else
    let fileName := segments.getLastD []
    if templateNames.any (·.toList == fileName) then false
    else
      protectedNames.any (·.toList == fileName) ||
        protectedPrefixes.any (·.toList.isPrefixOf fileName) ||
        protectedSuffixes.any (·.toList.isSuffixOf fileName)

/-- The path of a file the shared document may hold. -/
def isFilePath (path : String) : Bool := isSafeDocumentPath path && !isProtectedCodePath path

theorem isFilePath_empty : isFilePath "" = false := by decide

example : isFilePath "src/main.ts" = true ∧ isFilePath "a/../b" = false ∧
    isFilePath "config\\.ENV.local" = false ∧ isFilePath ".env.example" = true := by decide

end Livetich.Code
