import PortfolioReports.Calendar.Pattern
import PortfolioReports.Csv.Dialect
import PortfolioReports.Fault
import PortfolioReports.Table.Row

namespace PortfolioReports

open Calendar

namespace CsvDialect

def patternText (pattern : String) (d : Date) (t : Option Clock) : Except Fault String :=
  match Pattern.write? pattern d t with
  | some s => .ok s
  | none => .error (.render .pattern)

def momentField (d : CsvDialect) (m : Moment) : Except Fault String := do
  let date ← patternText d.datePattern m.date (some m.clock)
  if m.clock = .midnight then pure date
  else do
    let time ← patternText d.timePattern m.date (some m.clock)
    pure (date ++ " " ++ time)

mutual

def cellText (d : CsvDialect) : Cell → Except Fault String
  | .null => .ok d.nullText
  | .date x => patternText d.datePattern x none
  | .moment m => momentField d m
  | .list items => (cellTexts d items).map (", ".intercalate ·)
  | .bool b => .ok (Cell.bool b).display
  | .int n => .ok (Cell.int n).display
  | .float x => .ok (Cell.float x).display
  | .text s => .ok s

def cellTexts (d : CsvDialect) : List Cell → Except Fault (List String)
  | [] => .ok []
  | c :: cs => do
    let s ← cellText d c
    let rest ← cellTexts d cs
    pure (s :: rest)

end

def needsQuotes (d : CsvDialect) (cs : List Char) : Bool :=
  cs.any fun c => c = d.delimiter || c = d.quote || c = '\n' || c = '\r'

def doubled (quote : Char) (cs : List Char) : List Char :=
  cs.flatMap fun c => if c = quote then [c, c] else [c]

def escapeField (d : CsvDialect) (cs : List Char) : List Char :=
  if needsQuotes d cs then d.quote :: (doubled d.quote cs ++ [d.quote]) else cs

def escape (d : CsvDialect) (s : String) : String := String.ofList (escapeField d s.toList)

def record (d : CsvDialect) (fields : List String) : String :=
  (String.ofList [d.delimiter]).intercalate (fields.map d.escape) ++ d.lineEnd

def header (d : CsvDialect) (columns : List Column) : String := d.record (columns.map Column.label)

def fieldText (d : CsvDialect) (row : Row) (c : Column) : Except Fault String :=
  match row.get? c.key with
  | some v => d.cellText v
  | none => .ok d.nullText

def rowText (d : CsvDialect) (columns : List Column) (row : Row) : Except Fault String := do
  let fields ← columns.mapM (d.fieldText row)
  pure (d.record fields)

def headerOf (d : CsvDialect) (columns : List Column) : String :=
  if d.includeHeader && !columns.isEmpty then d.header columns else ""

def encode (d : CsvDialect) (rows : List Row) (columns : List Column) : Except Fault String := do
  let columns := Column.resolve columns rows
  let lines ← rows.mapM (d.rowText columns)
  pure (d.headerOf columns ++ String.join lines)

end CsvDialect

end PortfolioReports
