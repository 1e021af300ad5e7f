/-!
# UTF-8

How far a sequence of bytes is valid UTF-8. A sequence is valid if it is made of shortest encodings
of code points that are not surrogates.
-/

namespace ShipReport.Text

/-- A byte that continues an encoding, within bounds. -/
def isTail (lo hi : Nat) (b : UInt8) : Bool :=
  decide (lo ≤ b.toNat ∧ b.toNat ≤ hi)

/-- The number of bytes of the encoding that a sequence starts with; zero if it starts with none.
The bounds of the second byte keep out long forms, surrogates and numbers that are too large. -/
def encodingLength (bytes : List UInt8) : Nat :=
  match bytes with
  | [] => 0
  | a :: rest =>
    let a := a.toNat
    let tail := isTail 0x80 0xBF
    if a < 0x80 then 1
    else
      match rest with
      | [] => 0
      | b :: rest =>
        if 0xC2 ≤ a ∧ a ≤ 0xDF then if tail b then 2 else 0
        else
          match rest with
          | [] => 0
          | c :: rest =>
            let lo := if a = 0xE0 then 0xA0 else 0x80
            let hi := if a = 0xED then 0x9F else 0xBF
            if 0xE0 ≤ a ∧ a ≤ 0xEF then if isTail lo hi b && tail c then 3 else 0
            else
              match rest with
              | [] => 0
              | d :: _ =>
                let lo := if a = 0xF0 then 0x90 else 0x80
                let hi := if a = 0xF4 then 0x8F else 0xBF
                if 0xF0 ≤ a ∧ a ≤ 0xF4 ∧ isTail lo hi b ∧ tail c ∧ tail d then 4 else 0

/-- The length of the longest valid beginning, given how many bytes of the current encoding are
still to be passed. -/
def validLengthFrom (pending : Nat) : List UInt8 → Nat
  | [] => 0
  | b :: bytes =>
    match pending with
    | n + 1 => 1 + validLengthFrom n bytes
    | 0 =>
      match encodingLength (b :: bytes) with
      | 0 => 0
      | n + 1 => 1 + validLengthFrom n bytes

/-- The length of the longest beginning that is valid. -/
def validLength (bytes : List UInt8) : Nat :=
  validLengthFrom 0 bytes

/-- The text that bytes encode, if they are valid. -/
def ofUtf8? (bytes : List UInt8) : Option String :=
  String.fromUTF8? (ByteArray.mk bytes.toArray)

end ShipReport.Text
