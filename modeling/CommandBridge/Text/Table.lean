/-! Tables of code points. Small ones are lists of ranges; large ones are lines of hexadecimal
numbers, with one blank between two entries. -/
namespace CommandBridge.Text

def inRanges (ranges : List (Nat × Nat)) (n : Nat) : Bool :=
  ranges.any fun r => r.1 ≤ n && n ≤ r.2

def hexDigitValue (c : Char) : Nat :=
  if c.isDigit then c.toNat - '0'.toNat else c.toNat - 'a'.toNat + 10

def codePoint (s : List Char) : Nat := s.foldl (fun n c => n * 16 + hexDigitValue c) 0

/-- The ends of `a-b`, or `a` twice. -/
def readRange (s : List Char) : Nat × Nat :=
  match (s.splitOn '-').map codePoint with
  | [a, b] => (a, b)
  | _ => (codePoint s, codePoint s)

/-- The images in an entry. `a=x,y.z` has `x` for `a`, and `y` with `z` for the code point after
`a`; `a-b=x` counts up from `x` while it counts from `a` to `b`. -/
def readImages (s : List Char) : List (Nat × List Nat) :=
  match s.splitOn '=' with
  | [source, target] =>
    let (first, last) := readRange source
    match (target.splitOn ',').map fun image => (image.splitOn '.').map codePoint with
    | [[x]] => (List.range (last + 1 - first)).map fun i => (first + i, [x + i])
    | images => images.mapIdx fun i image => (first + i, image)
  | _ => []

def entries (lines : List String) : List (List Char) := lines.flatMap (·.toList.splitOn ' ')

/-- Ranges with both ends included. -/
def ranges (lines : List String) : List (Nat × Nat) := (entries lines).map readRange

/-- Code points with what they stand for. -/
def images (lines : List String) : List (Nat × List Nat) := (entries lines).flatMap readImages

end CommandBridge.Text
