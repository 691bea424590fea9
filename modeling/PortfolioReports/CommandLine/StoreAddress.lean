import PortfolioReports.Fault
import PortfolioReports.Text.Hex

namespace PortfolioReports.CommandLine

open Text

inductive StorePlace where
  | apart
  | shared
  | file (path : String)
deriving DecidableEq, Repr

structure StoreAddress where
  place : StorePlace
  creates : Bool
  writes : Bool
deriving DecidableEq, Repr

namespace StoreAddress

def decodeBytes : List Char → List UInt8
  | '%' :: a :: b :: cs =>
    match hexDigit? a, hexDigit? b with
    | some a, some b =>
      if a.val * 16 + b.val = 0 then [] else UInt8.ofNat (a.val * 16 + b.val) :: decodeBytes cs
    | _, _ => '%'.toUInt8 :: decodeBytes (a :: b :: cs)
  | c :: cs => (String.singleton c).toUTF8.toList ++ decodeBytes cs
  | [] => []

def decode (cs : List Char) : String :=
  let bytes := ByteArray.mk (decodeBytes cs).toArray
  (String.fromUTF8? bytes).getD (String.ofList cs)

def scheme : String := "file:"

def afterAuthority (cs : List Char) : Except AddressFault (List Char) :=
  match cs with
  | '/' :: '/' :: rest =>
    let authority := String.ofList (rest.takeWhile (· ≠ '/'))
    if authority.isEmpty || authority == "localhost" then .ok (rest.dropWhile (· ≠ '/'))
    else .error (.authority authority)
  | _ => .ok cs

def parameter? (s : String) : Option (String × String) :=
  let cs := s.toList
  let name := decode (cs.takeWhile (· ≠ '='))
  if name.isEmpty then none else some (name, decode ((cs.dropWhile (· ≠ '=')).drop 1))

def unixFiles : List String := ["unix", "unix-dotfile", "unix-excl", "unix-none"]

def withParameter (a : StoreAddress) : String × String → Except AddressFault StoreAddress
  | ("mode", "ro") => .ok { a with creates := false, writes := false }
  | ("mode", "rw") => .ok { a with creates := false, writes := true }
  | ("mode", "rwc") => .ok { a with creates := true, writes := true }
  | ("mode", "memory") => .ok { a with place := .apart }
  | ("mode", word) => .error (.mode "access" word)
  | ("cache", "shared") | ("cache", "private") => .ok a
  | ("cache", word) => .error (.mode "cache" word)
  | ("vfs", name) => if unixFiles.contains name then .ok a else .error (.fileSystem name)
  | _ => .ok a

def placeOf (path : String) : StorePlace := if path.isEmpty || path == ":memory:" then .apart else .file path

def ofUri (cs : List Char) : Except AddressFault StoreAddress := do
  let cs ← afterAuthority cs
  let cs := cs.takeWhile (· ≠ '#')
  let path := decode (cs.takeWhile (· ≠ '?'))
  let parameters := ((String.ofList ((cs.dropWhile (· ≠ '?')).drop 1)).splitOn "&").filterMap parameter?
  let a ← parameters.foldlM withParameter ⟨placeOf path, true, true⟩
  pure (if a.place = .apart && parameters.contains ("cache", "shared") && !path.isEmpty then { a with place := .shared }
    else a)

def read (s : String) : Except AddressFault StoreAddress :=
  if s.startsWith scheme then ofUri (s.toList.drop scheme.length) else .ok ⟨placeOf s, true, true⟩

end StoreAddress

end PortfolioReports.CommandLine
