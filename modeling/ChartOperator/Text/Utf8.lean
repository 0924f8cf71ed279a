/-!
# UTF-8

File names and file contents are sequences of bytes.  This module reads them as text: strictly,
where ill-formed bytes are an error, and leniently, where each maximal ill-formed run becomes
the replacement character.
-/

namespace ChartOperator

/-- A sequence of bytes. -/
abbrev Bytes := List UInt8

namespace Utf8

/-- A continuation byte within the given bounds. -/
def isWithin (low high : UInt8) (b : UInt8) : Bool :=
  low ≤ b && b ≤ high

/-- The payload of a continuation byte. -/
def payload (b : UInt8) : Nat :=
  b.toNat - 0x80

/-- The bounds of the byte after a lead byte of a longer sequence, and the number of plain
continuation bytes that follow it.  They exclude overlong forms, surrogates and values above
the last code point. -/
def continuation? (lead : UInt8) : Option (UInt8 × UInt8 × Nat) :=
  if isWithin 0xC2 0xDF lead then some (0x80, 0xBF, 0)
  else if lead == 0xE0 then some (0xA0, 0xBF, 1)
  else if lead == 0xED then some (0x80, 0x9F, 1)
  else if isWithin 0xE1 0xEF lead then some (0x80, 0xBF, 1)
  else if lead == 0xF0 then some (0x90, 0xBF, 2)
  else if lead == 0xF4 then some (0x80, 0x8F, 2)
  else if isWithin 0xF1 0xF3 lead then some (0x80, 0xBF, 2)
  else none

/-- The bits of a lead byte that belong to the code point. -/
def leadPayload (lead : UInt8) : Nat :=
  if lead < 0xE0 then lead.toNat - 0xC0
  else if lead < 0xF0 then lead.toNat - 0xE0
  else lead.toNat - 0xF0

/-- Reads the plain continuation bytes onto a code point.  Returns `none` in place of the
character when one is missing, and what follows the bytes taken. -/
def readTail : Nat → Nat → Bytes → Option Char × Bytes
  | 0, code, rest => (some (Char.ofNat code), rest)
  | more + 1, code, rest =>
      match rest with
      | b :: rest' =>
          if isWithin 0x80 0xBF b then readTail more (code * 64 + payload b) rest'
          else (none, rest)
      | [] => (none, [])

/-- Reads one character whose first byte is given, or the longest ill-formed run. -/
def readChar (lead : UInt8) (rest : Bytes) : Option Char × Bytes :=
  if lead < 0x80 then (some (Char.ofNat lead.toNat), rest)
  else
    match continuation? lead with
    | none => (none, rest)
    | some (low, high, more) =>
        match rest with
        | b :: rest' =>
            if isWithin low high b then readTail more (leadPayload lead * 64 + payload b) rest'
            else (none, rest)
        | [] => (none, [])

theorem readTail_length_le (more code : Nat) (rest : Bytes) :
    (readTail more code rest).2.length ≤ rest.length := by
  induction more generalizing code rest with
  | zero => simp [readTail]
  | succ more ih =>
      cases rest with
      | nil => simp [readTail]
      | cons b rest' =>
          simp only [readTail]
          split
          · exact Nat.le_trans (ih _ _) (by simp)
          · simp

theorem readChar_length_le (lead : UInt8) (rest : Bytes) :
    (readChar lead rest).2.length ≤ rest.length := by
  unfold readChar
  split
  · simp
  · split
    · simp
    · cases rest with
      | nil => simp
      | cons b rest' =>
          simp only
          split
          · exact Nat.le_trans (readTail_length_le _ _ _) (by simp)
          · simp

/-- The characters of a byte sequence, `none` standing for each maximal ill-formed run. -/
def units : Bytes → List (Option Char)
  | [] => []
  | lead :: rest => (readChar lead rest).1 :: units (readChar lead rest).2
  termination_by bytes => bytes.length
  decreasing_by
    have := readChar_length_le lead rest
    simp only [List.length_cons]
    omega

/-- The text of a byte sequence, if it is well-formed. -/
def decode? (bytes : Bytes) : Option (List Char) :=
  (units bytes).mapM id

/-- The text of a byte sequence, with the replacement character for each ill-formed run. -/
def decodeLossy (bytes : Bytes) : List Char :=
  (units bytes).map (·.getD '\uFFFD')

/-- The bytes of a text. -/
def encode (cs : List Char) : Bytes :=
  cs.flatMap String.utf8EncodeChar

/-- The bytes of a string. -/
def ofString (s : String) : Bytes :=
  encode s.toList

end Utf8

end ChartOperator
