import PortfolioReports.Reporting.Call
import PortfolioReports.Store.Widgets

namespace PortfolioReports

open Calendar

def Widget.validate (w : Widget) : Except Fault Unit :=
  if Text.isBlankText w.title then .error (.invalidConfig .widgetTitleRequired)
  else if w.refreshSeconds < 0 then .error (.invalidConfig .negativeRefresh)
  else .ok ()

namespace Reporting

open Call

def stampWidget (fresh : Uuid) (now : Moment) (w : Widget) : Call Widget := do
  if w.id.isNil then pure { w with id := fresh, createdAt := now, updatedAt := now }
  else
    let old? ← read .widgets fun s => s.getWidget w.id
    let createdAt := (old?.map Widget.createdAt).getD now
    pure { w with createdAt, updatedAt := now }

def saveWidget (fresh : Uuid) (now : Moment) (w : Widget) : Call Widget := do
  check w.validate
  let w ← stampWidget fresh now w
  change fun s => (s.putWidget w, w)

def listWidgets (user? : Option Uuid) (area? : Option String) : Call (List Widget) :=
  match area? with
  | some area => read .widgets fun s => s.listWidgets none (some area)
  | none => read .widgets fun s => s.listWidgets user? none

def moveWidgets (user : Uuid) (positions : List (Uuid × Int64)) (now : Moment) : Call Nat :=
  change fun s => s.moveWidgets user now positions

def deleteWidget (id : Uuid) : Call Unit := do
  changed (.widget id) (← change fun s => s.deleteWidget id)

end Reporting

end PortfolioReports
