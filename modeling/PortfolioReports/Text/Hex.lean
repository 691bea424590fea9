namespace PortfolioReports.Text

def hexChar (n : Fin 16) : Char := if n < 10 then Char.ofNat (48 + n) else Char.ofNat (87 + n)

def hexDigit? (c : Char) : Option (Fin 16) :=
  if c.isDigit then some ⟨(c.toNat - 48) % 16, by omega⟩
  else if 'a' ≤ c ∧ c ≤ 'f' then some ⟨(c.toNat - 87) % 16, by omega⟩
  else if 'A' ≤ c ∧ c ≤ 'F' then some ⟨(c.toNat - 55) % 16, by omega⟩
  else none

def hexText (n : Nat) : String := String.ofList (Nat.toDigits 16 n)

theorem hexDigit?_hexChar (n : Fin 16) : hexDigit? (hexChar n) = some n := by
  revert n; decide

end PortfolioReports.Text
