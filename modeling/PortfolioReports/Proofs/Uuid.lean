import PortfolioReports.Uuid

namespace PortfolioReports

open Text

namespace Uuid

theorem intercalate_groups (cs : List Char) :
    ['-'].intercalate (groups cs) = cs.take 8 ++ '-' :: ((cs.drop 8).take 4 ++ '-' :: ((cs.drop 12).take 4 ++
      '-' :: ((cs.drop 16).take 4 ++ '-' :: cs.drop 20))) := by
  simp [groups, List.intercalate]

theorem ofGroups?_append {a b c d e : List Char} (ha : a.length = 8) (hb : b.length = 4) (hc : c.length = 4)
    (hd : d.length = 4) (he : e.length = 12) :
    ofGroups? (a ++ '-' :: (b ++ '-' :: (c ++ '-' :: (d ++ '-' :: e)))) = ofDigits? (a ++ b ++ c ++ d ++ e) := by
  have hlength : (a ++ '-' :: (b ++ '-' :: (c ++ '-' :: (d ++ '-' :: e)))).length = 36 := by
    simp [ha, hb, hc, hd, he]
  have hplaces : [8, 13, 18, 23].all
      (fun i => (a ++ '-' :: (b ++ '-' :: (c ++ '-' :: (d ++ '-' :: e))))[i]? = some '-') = true := by
    simp [List.getElem?_append, ha, hb, hc, hd]
  rw [ofGroups?, if_pos ⟨hlength, hplaces⟩]
  simp [List.drop_append, List.drop_of_length_le, ha, hb, hc, hd]

theorem ofGroups?_groups {cs : List Char} (h : cs.length = 32) :
    ofGroups? (['-'].intercalate (groups cs)) = ofDigits? cs := by
  rw [intercalate_groups, ofGroups?_append (by simp [h]) (by simp [h]) (by simp [h]) (by simp [h]) (by simp [h])]
  have h12 : cs.drop 12 = (cs.drop 8).drop 4 := by rw [List.drop_drop]
  have h16 : cs.drop 16 = (cs.drop 12).drop 4 := by rw [List.drop_drop]
  have h20 : cs.drop 20 = (cs.drop 16).drop 4 := by rw [List.drop_drop]
  simp only [List.append_assoc]
  rw [h20, List.take_append_drop, h16, List.take_append_drop, h12, List.take_append_drop, List.take_append_drop]

theorem mapM_hexDigit?_hexChar (ds : List (Fin 16)) : (ds.map hexChar).mapM hexDigit? = some ds := by
  induction ds with
  | nil => rfl
  | cons d ds ih => simp [hexDigit?_hexChar, ih]

theorem ofDigits?_digits (u : Uuid) : ofDigits? (u.digits.toList.map hexChar) = some u := by
  have hlength : u.digits.toList.length = 32 := by simp
  rw [ofDigits?, mapM_hexDigit?_hexChar]
  simp only [hlength, dif_pos]
  rfl

theorem shape_of_hexChar (d : Fin 16) (cs : List Char) :
    Shape.of (hexChar d :: cs) = .bare (hexChar d :: cs) := by
  have hbrace : hexChar d ≠ '\x7b' := by revert d; decide
  have hlower : (hexChar d).toLower ≠ 'u' := by revert d; decide +kernel
  have hlead : urnLead = ['u', 'r', 'n', ':', 'u', 'u', 'i', 'd', ':'] := by decide
  have hurn : isUrn (hexChar d :: cs) = false := by
    rw [isUrn, hlead, List.length_cons, List.take_succ_cons, List.map_cons, beq_eq_false_iff_ne]
    exact fun heq => hlower (List.cons.inj heq).1
  unfold Shape.of
  split
  · rename_i hcons
    exact absurd (List.cons.inj hcons).1 hbrace
  · rw [hurn]
    rfl

theorem read_toText (u : Uuid) : read u.toText = .ok u := by
  have hlength : (u.digits.toList.map hexChar).length = 32 := by simp
  have hgroups := ofGroups?_groups hlength
  rw [ofDigits?_digits] at hgroups
  have hwide : (['-'].intercalate (groups (u.digits.toList.map hexChar))).length = 36 := by
    simp [intercalate_groups]
  cases hds : u.digits.toList with
  | nil => simp [hds] at hlength
  | cons d ds =>
    have hshape : Shape.of (['-'].intercalate (groups (u.digits.toList.map hexChar))) =
        .bare (['-'].intercalate (groups (u.digits.toList.map hexChar))) := by
      rw [intercalate_groups, hds]
      exact shape_of_hexChar d _
    simp [read, toText, accepted?, hshape, hwide, hgroups]

theorem toText_injective {u v : Uuid} (h : u.toText = v.toText) : u = v := by
  have hread := read_toText u
  rw [h, read_toText v] at hread
  exact (Except.ok.inj hread).symm

@[simp] theorem toText_inj {u v : Uuid} : u.toText = v.toText ↔ u = v := ⟨toText_injective, congrArg toText⟩

end Uuid

end PortfolioReports
