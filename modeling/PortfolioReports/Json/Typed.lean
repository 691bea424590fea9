import PortfolioReports.Calendar.Reading
import PortfolioReports.Json.Record
import PortfolioReports.Json.Shape
import PortfolioReports.Uuid
import PortfolioReports.Vocabulary

namespace PortfolioReports.Json

open Calendar

section Word

variable {α : Type} [Vocabulary α]

def asWord? : Json → Option α := asName? Vocabulary.ofName?

def ofWord (a : α) : Json := text (Vocabulary.name a)

def Shape.wordOf (α : Type) [Vocabulary α] : Shape :=
  .word (some ((Vocabulary.all : List α).map Vocabulary.name))

end Word

def asUuid? : Json → Option Uuid
  | text s => Uuid.ofText? s
  | _ => none

def ofUuid (u : Uuid) : Json := text u.toText

def asMoment? : Json → Option Moment
  | text s => (readUtc s).toOption
  | _ => none

def ofMoment (m : Moment) : Json := text (utcText m)

def asLocal? : Json → Option Moment
  | text s => (readLocal s).toOption
  | _ => none

def ofLocal (m : Moment) : Json := text (momentText "T" m ++ fractionText m.clock)

def present {α : Type} (key : String) (write : α → Json) : Option α → List (String × Json)
  | some a => [(key, write a)]
  | none => []

end PortfolioReports.Json
