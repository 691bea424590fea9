/-!
The characters with the Unicode property White_Space.
-/

namespace PortfolioReports.Text

def blankRanges : List (Nat × Nat) :=
  [(0x09, 0x0D), (0x20, 0x20), (0x85, 0x85), (0xA0, 0xA0), (0x1680, 0x1680), (0x2000, 0x200A),
   (0x2028, 0x2029), (0x202F, 0x202F), (0x205F, 0x205F), (0x3000, 0x3000)]

def isBlank (c : Char) : Bool := blankRanges.any fun r => r.1 ≤ c.toNat && c.toNat ≤ r.2

def isBlankText (s : String) : Bool := s.toList.all isBlank

def trimLeft (cs : List Char) : List Char := cs.dropWhile isBlank

def trimRight (cs : List Char) : List Char := (cs.reverse.dropWhile isBlank).reverse

def trim (s : String) : String := String.ofList (trimRight (trimLeft s.toList))

def consWord (word : List Char) (others : List (List Char)) : List (List Char) :=
  if word.isEmpty then others else word.reverse :: others

def wordsAfter (begun : List Char) : List Char → List (List Char)
  | [] => consWord begun []
  | c :: cs => if isBlank c then consWord begun (wordsAfter [] cs) else wordsAfter (c :: begun) cs

def words (cs : List Char) : List (List Char) := wordsAfter [] cs

end PortfolioReports.Text
