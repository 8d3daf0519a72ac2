import DispatchChain.Text.Unprinted
/-!
# Quoted — text in quotes, every character visible

The double quote, the backslash and the common controls are escaped by a backslash; other characters
without a shape of their own are written by their numbers.  A single quote closes nothing and stands
as it is.
-/
namespace DispatchChain

namespace Text

def escape (c : Char) : String :=
  if c = '\x00' then "\\0"
  else if c = '\t' then "\\t"
  else if c = '\n' then "\\n"
  else if c = '\r' then "\\r"
  else if c = '\\' ∨ c = '"' then "\\" ++ c.toString
  else if isUnprinted c then "\\u\x7b" ++ String.ofList (Nat.toDigits 16 c.toNat) ++ "\x7d"
  else c.toString

def quote (text : String) : String := "\"" ++ String.join (text.toList.map escape) ++ "\""

example : quote "a \"b\"\n" = "\"a \\\"b\\\"\\n\"" := by decide +kernel

example : quote "it's" = "\"it's\"" := by decide +kernel

def padRight (width : Nat) (text : String) : String := text.pushn ' ' (width - text.length)

def padLeft (width : Nat) (text : String) : String := "".pushn ' ' (width - text.length) ++ text

end Text

end DispatchChain
