namespace PortfolioReports

inductive Json where
  | null
  | bool (b : Bool)
  | int (n : Int)
  | float (x : Float)
  | text (s : String)
  | list (items : List Json)
  | object (fields : List (String × Json))
  /-- A token that is well formed and denotes nothing: half of a surrogate pair, or a number beyond
  the floats. -/
  | unreadable
deriving Inhabited

namespace Json

mutual

def depth : Json → Nat
  | list items => depthOfItems items + 1
  | object fields => depthOfFields fields + 1
  | _ => 0

def depthOfItems : List Json → Nat
  | [] => 0
  | j :: js => max j.depth (depthOfItems js)

def depthOfFields : List (String × Json) → Nat
  | [] => 0
  | (_, j) :: fs => max j.depth (depthOfFields fs)

end

def depthLimit : Nat := 127

mutual

def limited (levels : Nat) : Json → Json
  | list items => if levels = 0 then unreadable else list (limitedItems (levels - 1) items)
  | object fields => if levels = 0 then unreadable else object (limitedFields (levels - 1) fields)
  | j => j

def limitedItems (levels : Nat) : List Json → List Json
  | [] => []
  | j :: js => j.limited levels :: limitedItems levels js

def limitedFields (levels : Nat) : List (String × Json) → List (String × Json)
  | [] => []
  | (k, j) :: fs => (k, j.limited levels) :: limitedFields levels fs

end

def ofOption {α : Type} (f : α → Json) : Option α → Json
  | some a => f a
  | none => null

def ofFloat (x : Float) : Json := if x.isFinite then float x else null

def ofNat (n : Nat) : Json := int n

def texts (l : List String) : Json := list (l.map text)

end Json

def insertSorted {α : Type} (k : String) (v : α) : List (String × α) → List (String × α)
  | [] => [(k, v)]
  | (k', v') :: rest =>
    if k = k' then (k, v) :: rest
    else if k < k' then (k, v) :: (k', v') :: rest
    else (k', v') :: insertSorted k v rest

def sortEntries {α : Type} (l : List (String × α)) : List (String × α) :=
  l.foldl (fun acc e => insertSorted e.1 e.2 acc) []

namespace Json

mutual

def document? : Json → Option Json
  | list items => (documents? items).map list
  | object fields => (documentFields? fields).map fun fs => object (sortEntries fs)
  | unreadable => none
  | j => some j

def documents? : List Json → Option (List Json)
  | [] => some []
  | j :: js => do
    let j ← j.document?
    let js ← documents? js
    pure (j :: js)

def documentFields? : List (String × Json) → Option (List (String × Json))
  | [] => some []
  | (k, j) :: fs => do
    let j ← j.document?
    let fs ← documentFields? fs
    pure ((k, j) :: fs)

end

end Json

end PortfolioReports
