namespace PortfolioReports.Text

def byteCount (cs : List Char) : Nat := cs.foldl (fun n c => n + c.utf8Size) 0

def padRight (width : Nat) (s : String) (c : Char) : String :=
  s ++ String.ofList (List.replicate (width - s.length) c)

def padLeft (width : Nat) (s : String) (c : Char) : String :=
  String.ofList (List.replicate (width - s.length) c) ++ s

def takeChars (n : Nat) (s : String) : String := String.ofList (s.toList.take n)

def zeroPadded (width n : Nat) : String := padLeft width (toString n) '0'

def sameIgnoringCase (a b : String) : Bool := a.toLower == b.toLower

def isPart (part : List Char) : List Char → Bool
  | [] => part.isEmpty
  | c :: cs => part.isPrefixOf (c :: cs) || isPart part cs

end PortfolioReports.Text
