import PortfolioReports.Store.Basic

namespace PortfolioReports

open Calendar

namespace WidgetRow

def passes (user? : Option Uuid) (area? : Option String) (w : WidgetRow) : Bool :=
  user?.all (fun u => w.owner?.all fun o => o == u.toText) && area?.all (fun a => w.area == a)

def listedBefore (a b : WidgetRow) : Bool :=
  a.position < b.position || (a.position == b.position && !(b.id < a.id))

def updateFrom (new old : WidgetRow) : WidgetRow := { new with createdAt := old.createdAt }

def isOf (user id : Uuid) (w : WidgetRow) : Bool := w.id == id.toText && w.owner? == some user.toText

end WidgetRow

namespace Store

def hasWidget (s : Store) (id : Uuid) : Bool := s.widgets.any fun w => w.id == id.toText

def putWidget (s : Store) (w : Widget) : Store :=
  let row := WidgetRow.ofWidget w
  if s.hasWidget w.id then { s with widgets := change (fun r => r.id == w.id.toText) row.updateFrom s.widgets }
  else { s with widgets := s.widgets ++ [row] }

def getWidget (s : Store) (id : Uuid) : Except StoreFault (Option Widget) :=
  readFirst (fun w => w.id == id.toText) WidgetRow.toWidget s.widgets

def listWidgets (s : Store) (user? : Option Uuid) (area? : Option String) : Except StoreFault (List Widget) :=
  ((s.widgets.filter (WidgetRow.passes user? area?)).mergeSort WidgetRow.listedBefore).mapM WidgetRow.toWidget

def deleteWidget (s : Store) (id : Uuid) : Store × Bool :=
  ({ s with widgets := s.widgets.filter fun w => w.id != id.toText }, s.hasWidget id)

def moveWidgets (s : Store) (user : Uuid) (time : Moment) : List (Uuid × Int64) → Store × Nat
  | [] => (s, 0)
  | (id, position) :: rest =>
    let move (w : WidgetRow) : WidgetRow := { w with position, updatedAt := utcText time }
    let moved := { s with widgets := change (WidgetRow.isOf user id) move s.widgets }
    let (last, n) := moveWidgets moved user time rest
    (last, s.widgets.countP (WidgetRow.isOf user id) + n)

end Store

end PortfolioReports
