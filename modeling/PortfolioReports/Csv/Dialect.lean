import PortfolioReports.Json.Record

namespace PortfolioReports

structure CsvDialect where
  delimiter : Char
  quote : Char
  useCrlf : Bool
  includeHeader : Bool
  datePattern : String
  timePattern : String
  nullText : String
deriving Repr

namespace CsvDialect

def standard : CsvDialect := ⟨',', '"', true, true, "%Y-%m-%d", "%H:%M:%S", ""⟩

def lineEnd (d : CsvDialect) : String := if d.useCrlf then "\r\n" else "\n"

section Json

open Json

def asChar? (j : Json) : Option Char :=
  match j with
  | .text s => match s.toList with
    | [c] => some c
    | _ => none
  | _ => none

def ofJson? (j : Json) : Option CsvDialect := do
  let r ← j.record?
    ["delimiter", "quote", "use_crlf", "include_header", "date_format", "time_format", "null_value"]
  let delimiter ← r.fieldOr "delimiter" asChar? standard.delimiter
  let quote ← r.fieldOr "quote" asChar? standard.quote
  let useCrlf ← r.fieldOr "use_crlf" asBool? standard.useCrlf
  let includeHeader ← r.fieldOr "include_header" asBool? standard.includeHeader
  let datePattern ← r.fieldOr "date_format" asText? standard.datePattern
  let timePattern ← r.fieldOr "time_format" asText? standard.timePattern
  let nullText ← r.fieldOr "null_value" asText? standard.nullText
  pure ⟨delimiter, quote, useCrlf, includeHeader, datePattern, timePattern, nullText⟩

def toJson (d : CsvDialect) : Json := .object
  [("delimiter", .text (String.ofList [d.delimiter])), ("quote", .text (String.ofList [d.quote])),
   ("use_crlf", .bool d.useCrlf), ("include_header", .bool d.includeHeader),
   ("date_format", .text d.datePattern), ("time_format", .text d.timePattern),
   ("null_value", .text d.nullText)]

end Json

end CsvDialect

end PortfolioReports
