/-! Whole numbers in decimal digits, and the 64-bit range. -/
namespace CommandBridge.Decimal

def digits (n : Nat) : List Char := Nat.toDigits 10 n

def intDigits (i : Int) : List Char :=
  if i < 0 then '-' :: digits i.natAbs else digits i.natAbs

/-- One or more ASCII digits. -/
def readNat? (s : List Char) : Option Nat :=
  if !s.isEmpty && s.all Char.isDigit then some (Nat.ofDigitChars 10 s 0) else none

/-- An optional sign and one or more digits, within the signed 64-bit range. -/
def readInt64? : List Char → Option Int64
  | '-' :: s =>
    (readNat? s).bind fun n => if n ≤ Nat.pow 2 63 then some (Int64.ofInt (-n)) else none
  | '+' :: s => (readNat? s).bind fun n => if n < Nat.pow 2 63 then some (Int64.ofInt n) else none
  | s => (readNat? s).bind fun n => if n < Nat.pow 2 63 then some (Int64.ofInt n) else none

def int64Digits (i : Int64) : List Char := intDigits i.toInt

end CommandBridge.Decimal
