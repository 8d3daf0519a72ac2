import DispatchChain.Identifier
/-!
# Reading — tokens at the front of a text

Each reader takes a token off the front of some characters and gives back what follows, or nothing
if the token is not there.  They read what the printers of clauses and signatures write, and no
other spelling of it.
-/
namespace DispatchChain

namespace Text

def readLiteral : (text : List Char) → List Char → Option (List Char)
  | [], rest => some rest
  | _ :: _, [] => none
  | t :: text, c :: rest => if t = c then readLiteral text rest else none

/-- Reads an identifier, as long as it goes. -/
def readIdentifier (cs : List Char) : Option (String × List Char) :=
  let name := cs.takeWhile (decide <| ContinuesIdentifier ·)
  if SpellsIdentifier name then some (String.ofList name, cs.dropWhile (decide <| ContinuesIdentifier ·)) else none

/-- Reads a 32-bit word in decimal, as long as it goes and without needless zeros. -/
def readWord (cs : List Char) : Option (UInt32 × List Char) :=
  let digits := cs.takeWhile Char.isDigit
  let value := Nat.ofDigitChars 10 digits 0
  if Nat.toDigits 10 value = digits ∧ value < UInt32.size then
    some (UInt32.ofNat value, cs.dropWhile Char.isDigit)
  else none

/-- Reads one item or more, with a separator between them. -/
def readSeparated {α : Type} (read : List Char → Option (α × List Char)) (separator : List Char) :
    (fuel : Nat) → List Char → Option (List α × List Char)
  | 0, _ => none
  | fuel + 1, cs => do
    let (item, rest) ← read cs
    match readLiteral separator rest with
    | none => return ([item], rest)
    | some rest =>
      let (items, rest) ← readSeparated read separator fuel rest
      return (item :: items, rest)

end Text

end DispatchChain
