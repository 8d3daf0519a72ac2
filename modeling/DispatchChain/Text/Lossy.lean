/-!
# Lossy — text from any bytes

Bytes are read as UTF-8.  Where they are none, a replacement character stands for the bytes that begin a character
and do not end it, as many as there are, or else for one byte.  What is text is read as it is
(`Text.decodeLossy_toByteArray`).
-/
namespace DispatchChain

namespace Text

/-- The number of bytes of a character, by the first of them; none for bytes that no character starts with. -/
def widthFrom (first : UInt8) : Nat :=
  if first < 0x80 then 1
  else if first < 0xC2 then 0
  else if first < 0xE0 then 2
  else if first < 0xF0 then 3
  else if first < 0xF5 then 4
  else 0

def continues (byte : UInt8) : Bool := 0x80 ≤ byte && byte < 0xC0

/-- Whether a byte may be the second of a character.  After some bytes it would stand for a character that has a
shorter form, for a surrogate or for nothing. -/
def continuesFirst (first second : UInt8) : Bool :=
  continues second &&
    if first = 0xE0 then 0xA0 ≤ second
    else if first = 0xED then second < 0xA0
    else if first = 0xF0 then 0x90 ≤ second
    else if first = 0xF4 then second < 0x90
    else true

/-- The number of bytes that one replacement character stands for, where no character can be read. -/
def brokenSize (bytes : ByteArray) (position : Nat) : Nat :=
  let byte (offset : Nat) := bytes.data.getD (position + offset) 0
  if 2 < widthFrom (byte 0) ∧ continuesFirst (byte 0) (byte 1) then
    if 3 < widthFrom (byte 0) ∧ continues (byte 2) then 3 else 2
  else 1

theorem brokenSize_pos (bytes : ByteArray) (position : Nat) : 0 < brokenSize bytes position := by
  unfold brokenSize
  grind

/-- The characters of some bytes from a position on. -/
def decodeFrom (bytes : ByteArray) (position : Nat) : List Char :=
  if position < bytes.size then
    match bytes.utf8DecodeChar? position with
    | some c => c :: decodeFrom bytes (position + c.utf8Size)
    | none => '\uFFFD' :: decodeFrom bytes (position + brokenSize bytes position)
  else []
termination_by bytes.size - position
decreasing_by
  · have := c.utf8Size_pos
    omega
  · have := brokenSize_pos bytes position
    omega

def decodeLossy (bytes : ByteArray) : String := String.ofList (decodeFrom bytes 0)

theorem decodeFrom_append : ∀ (cs : List Char) (before : ByteArray),
    decodeFrom (before ++ cs.utf8Encode) before.size = cs
  | [], before => by
    rw [decodeFrom, if_neg]
    simp
  | c :: cs, before => by
    have later := decodeFrom_append cs (before ++ [c].utf8Encode)
    have size : (before ++ [c].utf8Encode).size = before.size + c.utf8Size := by
      simp [List.utf8Encode_singleton]
    have reads : (before ++ (c :: cs).utf8Encode).utf8DecodeChar? before.size = some c := by
      rw [ByteArray.utf8DecodeChar?_eq_utf8DecodeChar?_extract,
        ByteArray.extract_append_eq_right rfl ByteArray.size_append, List.utf8DecodeChar?_utf8Encode_cons]
    have inside : before.size < (before ++ (c :: cs).utf8Encode).size := by
      have := c.utf8Size_pos
      rw [List.utf8Encode_cons, ← ByteArray.append_assoc, ByteArray.size_append, size]
      omega
    rw [size, ByteArray.append_assoc, ← List.utf8Encode_cons] at later
    rw [decodeFrom, if_pos inside, reads]
    exact congrArg (c :: ·) later

/-- **What is text is read as it is.** -/
theorem decodeLossy_toByteArray (text : String) : decodeLossy text.toByteArray = text := by
  have whole := decodeFrom_append text.toList .empty
  rw [ByteArray.empty_append, String.utf8Encode_toList, ByteArray.size_empty] at whole
  rw [decodeLossy, whole, String.ofList_toList]

example : decodeLossy ⟨#[0x61, 0xE2, 0x82, 0x62, 0xE0, 0x80, 0xFF]⟩ = "a\uFFFDb\uFFFD\uFFFD\uFFFD" := by
  decide +kernel

end Text

end DispatchChain
