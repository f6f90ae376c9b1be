/-
  ShardBridge.Text.Blank

  Blanks. Lines from the daemon are blank by the ASCII rule, on bytes; values
  from the environment are trimmed by the wider rule, on characters.
-/

namespace ShardBridge.Text

/-- The byte is ASCII white space: tab, line feed, form feed, carriage return or space. -/
def isBlankByte (b : UInt8) : Bool :=
  b = 0x09 || b = 0x0A || b = 0x0C || b = 0x0D || b = 0x20

/-- The character is white space of some script. -/
def isBlank (c : Char) : Bool :=
  let n := c.toNat
  (0x09 ≤ n && n ≤ 0x0D) || n = 0x20 || n = 0x85 || n = 0xA0 || n = 0x1680 ||
    (0x2000 ≤ n && n ≤ 0x200A) || n = 0x2028 || n = 0x2029 || n = 0x202F || n = 0x205F ||
    n = 0x3000

/-- The text without the blanks at its two ends. -/
def trim (text : List Char) : List Char :=
  ((text.dropWhile isBlank).reverse.dropWhile isBlank).reverse

/-- An ASCII capital becomes its small letter; everything else stays. -/
def lowerAscii (c : Char) : Char :=
  if 'A' ≤ c && c ≤ 'Z' then Char.ofNat (c.toNat + 32) else c

def toLowerAscii (text : String) : String := String.ofList (text.toList.map lowerAscii)

end ShardBridge.Text
