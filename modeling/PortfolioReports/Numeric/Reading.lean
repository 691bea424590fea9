namespace PortfolioReports.Numeric

def digitsValue (cs : List Char) : Nat := cs.foldl (fun n c => n * 10 + (c.toNat - 48)) 0

def readNat? (cs : List Char) : Option Nat :=
  if !cs.isEmpty && cs.all Char.isDigit then some (digitsValue cs) else none

def readInt? : List Char → Option Int
  | '-' :: cs => (readNat? cs).map fun n => -n
  | '+' :: cs => (readNat? cs).map Int.ofNat
  | cs => (readNat? cs).map Int.ofNat

def readIntIn? (lo hi : Int) (s : String) : Option Int := (readInt? s.toList).filter fun n => lo ≤ n ∧ n ≤ hi

def nearestFloat (m : Nat) (e : Int) : Float :=
  let digits : Int := (toString m).length
  if m = 0 ∨ digits + e < -400 then 0
  else if 400 < digits + e then 1.0 / 0.0
  else Float.ofScientific m (e < 0) e.natAbs

def readExponent? : List Char → Option Int
  | [] => some 0
  | c :: cs => if c = 'e' ∨ c = 'E' then readInt? cs else none

def readUnsigned? (cs : List Char) : Option Float :=
  let whole := cs.takeWhile Char.isDigit
  let rest := cs.dropWhile Char.isDigit
  let (fraction, rest) := match rest with
    | '.' :: rest => (rest.takeWhile Char.isDigit, rest.dropWhile Char.isDigit)
    | rest => ([], rest)
  if whole.isEmpty && fraction.isEmpty then none
  else (readExponent? rest).map fun e => nearestFloat (digitsValue (whole ++ fraction)) (e - fraction.length)

def readMagnitude? (cs : List Char) : Option Float :=
  match (String.ofList cs).toLower with
  | "inf" | "infinity" => some (1.0 / 0.0)
  | "nan" => some (0.0 / 0.0)
  | _ => readUnsigned? cs

def readFloat? (s : String) : Option Float :=
  match s.toList with
  | '-' :: cs => (readMagnitude? cs).map fun x => -x
  | '+' :: cs => readMagnitude? cs
  | cs => readMagnitude? cs

end PortfolioReports.Numeric
