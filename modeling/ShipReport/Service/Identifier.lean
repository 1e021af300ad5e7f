/-!
# Identifiers

Names that have to be new are made from sixteen random bytes, of which six bits are fixed to mark
them as random identifiers of the fourth version. A batch is named by the hexadecimal digits alone,
a token has them in five groups.
-/

namespace ShipReport.Service.Identifier

/-- The bytes with the version and the variant in their places. -/
def marked (bytes : List UInt8) : List UInt8 :=
  bytes.zipIdx.map fun (b, i) =>
    if i = 6 then (b &&& 0x0F) ||| 0x40
    else if i = 8 then (b &&& 0x3F) ||| 0x80
    else b

/-- A byte as two hexadecimal digits. -/
def hexByte (b : UInt8) : List Char :=
  [b.toNat / 16, b.toNat % 16].map Nat.digitChar

/-- Bytes as hexadecimal digits. -/
def hexText (bytes : List UInt8) : String :=
  String.ofList (bytes.flatMap hexByte)

/-- A name for a batch. -/
def batchId (bytes : List UInt8) : String :=
  hexText (marked bytes)

/-- The lengths of the groups of a token, in bytes. -/
def groupLengths : List Nat :=
  [4, 2, 2, 2, 6]

/-- Bytes in groups of given lengths. -/
def groups : List Nat → List UInt8 → List (List UInt8)
  | [], _ => []
  | n :: ns, bytes => bytes.take n :: groups ns (bytes.drop n)

def token (bytes : List UInt8) : String :=
  "-".intercalate ((groups groupLengths (marked bytes)).map hexText)

end ShipReport.Service.Identifier
