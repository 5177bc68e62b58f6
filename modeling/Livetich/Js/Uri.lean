/-
`decodeURIComponent`: each percent sign begins an octet in two hexadecimal digits, and octets are UTF-8.
Everything else stays as it is. What is malformed throws (`none` here).
-/
import Livetich.Js.Number

namespace Livetich.Js

/-- A character that stands for itself, or an octet. -/
inductive UriPiece
  | char (c : Char)
  | octet (n : Nat)
  deriving DecidableEq

def hexValue (c : Char) : Option Nat := if radixValue c < 16 then some (radixValue c) else none

def uriPieces : List Char → Option (List UriPiece)
  | [] => some []
  | '%' :: a :: b :: rest => do
    let high ← hexValue a
    let low ← hexValue b
    let pieces ← uriPieces rest
    return .octet (high * 16 + low) :: pieces
  | c :: rest => if c = '%' then none else (uriPieces rest).map (.char c :: ·)

/-- A lead octet's bits with those of the octets that continue it. -/
def continued (lead : Nat) : List Nat → Option Nat
  | [] => some lead
  | n :: rest => if 0x80 ≤ n ∧ n < 0xC0 then continued (lead * 64 + n % 64) rest else none

/-- The character of a code point that is not shorter to write. -/
def scalar (least n : Nat) : Option Char := if least ≤ n ∧ n.isValidChar then some (Char.ofNat n) else none

def decodePieces : List UriPiece → Option (List Char)
  | [] => some []
  | .char c :: rest => (decodePieces rest).map (c :: ·)
  | .octet a :: rest =>
    if a < 0x80 then (decodePieces rest).map (Char.ofNat a :: ·)
    else if 0xC0 ≤ a ∧ a < 0xE0 then
      match rest with
      | .octet b :: rest => do
        let c ← scalar 0x80 (← continued (a % 32) [b])
        (decodePieces rest).map (c :: ·)
      | _ => none
    else if 0xE0 ≤ a ∧ a < 0xF0 then
      match rest with
      | .octet b :: .octet c :: rest => do
        let c ← scalar 0x800 (← continued (a % 16) [b, c])
        (decodePieces rest).map (c :: ·)
      | _ => none
    else if 0xF0 ≤ a ∧ a < 0xF8 then
      match rest with
      | .octet b :: .octet c :: .octet d :: rest => do
        let c ← scalar 0x10000 (← continued (a % 8) [b, c, d])
        (decodePieces rest).map (c :: ·)
      | _ => none
    else none

def decodeURIComponent (cs : List Char) : Option (List Char) := (uriPieces cs).bind decodePieces

example : decodeURIComponent "a%20%C3%A9%e2%82%ac".toList = some ['a', ' ', 'é', '€'] ∧
    decodeURIComponent ['%'] = none ∧ decodeURIComponent "%C0%80".toList = none ∧
    decodeURIComponent "%ED%A0%80".toList = none := by decide +kernel

end Livetich.Js
