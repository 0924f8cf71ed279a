/-!
# Blank characters

White space in the sense of the Unicode property `White_Space`, and its removal from both ends
of a text.  Every setting that is trimmed before it is read (durations, namespace signals, bind
addresses, ignore patterns) uses this one notion of blank.
-/

namespace ChartOperator.Text

/-- The characters with the Unicode property `White_Space`. -/
def isBlank (c : Char) : Bool :=
  let n := c.toNat
  (9 ≤ n && n ≤ 13) || n == 0x20 || n == 0x85 || n == 0xA0 || n == 0x1680 ||
    (0x2000 ≤ n && n ≤ 0x200A) || n == 0x2028 || n == 0x2029 || n == 0x202F ||
    n == 0x205F || n == 0x3000

/-- Drops the blanks at the end of a text. -/
def trimEnd (cs : List Char) : List Char :=
  (cs.reverse.dropWhile isBlank).reverse

/-- Drops the blanks at both ends of a text. -/
def trimChars (cs : List Char) : List Char :=
  trimEnd (cs.dropWhile isBlank)

/-- Drops the blanks at both ends of a string. -/
def trim (s : String) : String :=
  String.ofList (trimChars s.toList)

/-- A text is blank when nothing but white space stands in it. -/
def isBlankText (s : String) : Bool :=
  s.toList.all isBlank

/-- The pieces of a text between the separators, empty pieces included; there is always at
least one piece. -/
def splitAt (separator : Char) : List Char → List (List Char)
  | [] => [[]]
  | c :: rest =>
      if c = separator then [] :: splitAt separator rest
      else
        match splitAt separator rest with
        | [] => [[c]]
        | piece :: pieces => (c :: piece) :: pieces

end ChartOperator.Text
