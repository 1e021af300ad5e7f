/-!
# Password check sums

The 16-bit check sum that stands for a password in a protected sheet.
-/

namespace ShipReport.Xlsx

/-- Rotates the low fifteen bits of a number by one place. -/
def rotate (h : Nat) : Nat :=
  (h >>> 14) % 2 ||| (h <<< 1) % 0x8000

/-- The check sum of a password, computed from its last byte to its first. -/
def passwordSum (password : String) : Nat :=
  let bytes := password.toUTF8.toList
  let h := bytes.foldr (fun b h => rotate h ^^^ b.toNat) 0
  rotate h ^^^ bytes.length % 0x10000 ^^^ 0xCE4B

/-- The check sum in four hexadecimal digits. -/
def passwordHash (password : String) : String :=
  let ds := (Nat.toDigits 16 (passwordSum password)).map Char.toUpper
  String.ofList (List.replicate (4 - ds.length) '0' ++ ds)

end ShipReport.Xlsx
