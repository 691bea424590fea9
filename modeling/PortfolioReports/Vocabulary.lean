namespace PortfolioReports

class Vocabulary (α : Type) where
  title : String
  all : List α
  name : α → String
  find?_name : ∀ a, (all.find? fun b => name b == name a) = some a

namespace Vocabulary

variable {α : Type} [Vocabulary α]

def ofName? (s : String) : Option α := (all : List α).find? fun a => name a == s

theorem ofName?_name (a : α) : ofName? (name a) = some a := find?_name a

theorem name_of_ofName? {s : String} {a : α} (h : ofName? s = some a) : name a = s := by
  simpa using List.find?_some h

end Vocabulary

end PortfolioReports
