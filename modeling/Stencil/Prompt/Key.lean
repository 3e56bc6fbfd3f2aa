/-
Keys that a user presses, read from the bytes that a terminal sends.  Keys
that no question answers to are all the same key.
-/

namespace Stencil

inductive Key where
  | char (c : Char)
  | enter
  | backspace
  | tab
  | backTab
  | up
  | down
  | left
  | right
  | wordLeft
  | wordRight
  | interrupt
  | other
deriving DecidableEq, Repr

/-- What has been read of a key whose bytes are not all there. -/
inductive KeyStart where
  | nothing
  | escape
  | bracket
  | numbered
  | character (missing : Nat) (bytes : List UInt8)
deriving DecidableEq, Repr

namespace KeyStart

/-- The number of bytes that follow the first byte of a character. -/
def following (byte : UInt8) : Nat :=
  if byte &&& 0xE0 = 0xC0 then 1
  else if byte &&& 0xF0 = 0xE0 then 2
  else if byte &&& 0xF8 = 0xF0 then 3
  else 0

def ofByte (byte : UInt8) : Char :=
  Char.ofNat byte.toNat

/-- The key of a single byte. -/
def plainKey (byte : UInt8) : Key :=
  match byte with
  | 0x0A => .enter
  | 0x0D => .enter
  | 0x7F => .backspace
  | 0x08 => .backspace
  | 0x09 => .tab
  | 0x01 => .other
  | 0x05 => .other
  | byte => .char (ofByte byte)

/-- The key of an escape and one byte. -/
def escapedKey (byte : UInt8) : Key :=
  match ofByte byte with
  | 'b' => .wordLeft
  | 'f' => .wordRight
  | _ => .other

/-- The key of an escape, a bracket and one byte, if no further byte belongs
to it. -/
def bracketKey? (byte : UInt8) : Option Key :=
  match ofByte byte with
  | 'A' => some .up
  | 'B' => some .down
  | 'C' => some .right
  | 'D' => some .left
  | 'H' => some .other
  | 'F' => some .other
  | 'Z' => some .backTab
  | _ => none

/-- The key of the bytes of one character. -/
def characterKey (bytes : List UInt8) : Key :=
  match String.fromUTF8? ⟨bytes.toArray⟩ with
  | some s =>
      match s.toList with
      | c :: _ => .char c
      | [] => .other
  | none => .other

/-- Read one more byte, which may complete a key. -/
def feed (start : KeyStart) (byte : UInt8) : KeyStart × Option Key :=
  match start with
  | character missing bytes =>
      let bytes := bytes ++ [byte]
      if missing ≤ 1 then (nothing, some (characterKey bytes))
      else (character (missing - 1) bytes, none)
  | nothing =>
      if byte = 0x03 then (nothing, some .interrupt)
      else if byte = 0x1B then (escape, none)
      else if following byte = 0 then (nothing, some (plainKey byte))
      else (character (following byte) [byte], none)
  | escape =>
      if byte = 0x03 then (nothing, some .interrupt)
      else if ofByte byte = '[' then (bracket, none)
      else (nothing, some (escapedKey byte))
  | bracket =>
      if byte = 0x03 then (nothing, some .interrupt)
      else
        match bracketKey? byte with
        | some key => (nothing, some key)
        | none => (numbered, none)
  | numbered => (nothing, some (if byte = 0x03 then .interrupt else .other))

/-- The keys in a run of bytes. -/
def keys (start : KeyStart) : List UInt8 → List Key
  | [] => []
  | byte :: bytes =>
      match start.feed byte with
      | (next, some key) => key :: keys next bytes
      | (next, none) => keys next bytes

end KeyStart

/-- The keys in a run of bytes that begins between two keys. -/
def Key.ofBytes (bytes : List UInt8) : List Key :=
  KeyStart.nothing.keys bytes

example : Key.ofBytes [0x1B, 0x5B, 0x41, 0x0D] = [.up, .enter] := rfl
example : Key.ofBytes [0x1B, 0x5B, 0x33, 0x7E, 0x6A] =
    [.other, .char 'j'] := rfl

end Stencil
