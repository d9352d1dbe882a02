/-! Lengths of time in milliseconds. -/
namespace CommandBridge

/-- Digits of a fraction of a thousand without the zeros at its end. -/
def thousandths (n : Nat) : List Char :=
  let ds := [n / 100, n / 10 % 10, n % 10].map Nat.digitChar
  (ds.reverse.dropWhile (· == '0')).reverse

/-- The length of time in the largest unit that makes it at least one. -/
def spanText (ms : Nat) : String :=
  if ms = 0 then "0ns"
  else if ms < 1000 then s!"{ms}ms"
  else if ms % 1000 = 0 then s!"{ms / 1000}s"
  else s!"{ms / 1000}.{String.ofList (thousandths (ms % 1000))}s"

end CommandBridge
