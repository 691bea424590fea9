import PortfolioReports.Json.Basic
import PortfolioReports.Pages.Layout

namespace PortfolioReports

structure PagedDocument where
  mediaBox : List String
  pages : List String
deriving DecidableEq

namespace Content

def real (x : Float) : String := Numeric.plain.renderSingle x

def colorPart (n : Nat) : String := real (Float.ofNat n / 255)

def colorLine (operator : String) (c : Rgb) : String :=
  s!"{colorPart c.red} {colorPart c.green} {colorPart c.blue} {operator}"

def resource : Typeface → String
  | .regular => "/F1"
  | .bold => "/F2"
  | .italic => "/F3"

def coded (c : Char) : Char := if c.toNat < 256 then c else '?'

def unmatched (opened : List Nat) : List (Char × Nat) → List Nat
  | [] => opened
  | ('(', i) :: rest => unmatched (i :: opened) rest
  | (')', i) :: rest =>
    match opened with
    | _ :: opened => unmatched opened rest
    | [] => i :: unmatched [] rest
  | _ :: rest => unmatched opened rest

def literal (s : String) : String :=
  let cs := (s.toList.map coded).zipIdx
  let single := unmatched [] cs
  let written := cs.flatMap fun (c, i) =>
    if c = '\\' then ['\\', '\\']
    else if c = '\r' then ['\\', 'r']
    else if single.contains i then ['\\', c]
    else [c]
  "(" ++ String.ofList written ++ ")"

def labelLines (height : Float) (l : Label Float) : List String :=
  ["BT", colorLine "rg" l.color, s!"{resource l.face} {real (Float.ofNat l.size)} Tf",
   s!"{real (l.x * pointsPerMm)} {real ((height - l.baseline) * pointsPerMm)} Td",
   s!"{literal l.text} Tj", "ET"]

def boxLines (height : Float) (b : Box Float) : List String :=
  [s!"{real (0.2 * pointsPerMm)} w", colorLine "rg" b.fill, colorLine "RG" black,
   s!"{real (b.x * pointsPerMm)} {real ((height - b.y - b.height) * pointsPerMm)} " ++
   s!"{real (b.width * pointsPerMm)} {real (b.height * pointsPerMm)} re", "B"] ++
  labelLines height b.label

def blockLines (height : Float) : Block Float → List String
  | .line l => labelLines height l
  | .summaryEntry key value => labelLines height key ++ labelLines height value
  | .headerRow boxes => boxes.flatMap (boxLines height)
  | .dataRow _ boxes => boxes.flatMap (boxLines height)
  | .footer l => labelLines height l

def pageText (height : Float) (blocks : List (Block Float)) : String :=
  "\n".intercalate (blocks.flatMap (blockLines height))

end Content

namespace PageSetup

def document (s : PageSetup Float) (pages : List (List (Block Float))) : PagedDocument :=
  ⟨["0", "0", Content.real (s.width * pointsPerMm), Content.real (s.height * pointsPerMm)],
    pages.map (Content.pageText s.height)⟩

end PageSetup

open Json

def PagedDocument.outline (d : PagedDocument) : List (String × Json) :=
  [("version", .text "1.5"), ("media_box", texts d.mediaBox), ("pages", texts d.pages)]

end PortfolioReports
