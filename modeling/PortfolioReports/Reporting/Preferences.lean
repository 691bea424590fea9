import PortfolioReports.Reporting.Call
import PortfolioReports.Settings

namespace PortfolioReports.Reporting

open Call

def getSetting (key : String) : Call (Option String) := read .settings fun s => .ok (s.getSetting key)

def putSetting (key value : String) : Call Unit := do
  check (Settings.validate key value)
  change fun s => (s.putSetting key value, ())

def listSettings : Call (List (String × String)) := read .settings fun s => .ok s.settings

def getSettings : Call Settings := do
  check (Settings.ofPairs (← listSettings))

end PortfolioReports.Reporting
