namespace PortfolioReports.Text

inductive Wild where
  | many
  | one
  | char (c : Char)
deriving DecidableEq, Repr

def Wild.ofChar (c : Char) : Wild := if c = '%' then many else if c = '_' then one else char c

def sameLetter (a b : Char) : Bool := a.toLower == b.toLower

def markBefore : List Bool → List Bool
  | [] => []
  | b :: bs =>
    let marks := markBefore bs
    (b || marks.headD false) :: marks

/-- The tails of a text that a pattern matches, given those that it matches without its first sign.
Tails are marked from the longest to the empty one. -/
def Wild.marks (w : Wild) (cs : List Char) (rest : List Bool) : List Bool :=
  match w with
  | many => markBefore rest
  | one => rest.drop 1 ++ [false]
  | char a => cs.zipWith (fun c b => sameLetter a c && b) (rest.drop 1) ++ [false]

def matchesWild (ws : List Wild) (cs : List Char) : Bool :=
  (ws.foldr (fun w rest => w.marks cs rest) (cs.map (fun _ => false) ++ [true])).headD false

/-- The two noncharacters at the end of the first plane are read as the replacement character. -/
def readable (c : Char) : Char := if c = '\uFFFE' ∨ c = '\uFFFF' then '\uFFFD' else c

def comparable (s : String) : List Char := (s.toList.takeWhile fun c => c ≠ '\x00').map readable

def longestPattern : Nat := 50000

def isTooLong (search : String) : Bool := longestPattern < ("%" ++ search ++ "%").utf8ByteSize

def containing (search : String) : List Wild := (comparable ("%" ++ search ++ "%")).map Wild.ofChar

def found (search s : String) : Bool := matchesWild (containing search) (comparable s)

end PortfolioReports.Text
