namespace ScreenPattern.Text

/-- The Unicode property `White_Space`. -/
def isBlankChar (c : Char) : Bool :=
  let n := c.toNat
  (9 ≤ n && n ≤ 13) || n == 0x20 || n == 0x85 || n == 0xA0 || n == 0x1680 ||
    (0x2000 ≤ n && n ≤ 0x200A) || n == 0x2028 || n == 0x2029 || n == 0x202F ||
    n == 0x205F || n == 0x3000

/-- Drops the elements that satisfy `p` at both ends. -/
def stripEnds (p : Char → Bool) (cs : List Char) : List Char :=
  ((cs.dropWhile p).reverse.dropWhile p).reverse

def trim (s : String) : String :=
  String.ofList (stripEnds isBlankChar s.toList)

def isBlank (s : String) : Bool :=
  s.toList.all isBlankChar

/-- The trimmed text, when anything is left of it. -/
def filled? (s : String) : Option String :=
  if isBlank s then none else some (trim s)

end ScreenPattern.Text
