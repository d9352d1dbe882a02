/-! Text in which a quote suspends the meaning of separators until the same quote comes again. -/
namespace CommandBridge.Command

def isQuote (c : Char) : Bool := c == '\'' || c == '"'

/-- The quote that is open after `c`, when `q` was open before it. -/
def quoteAfter (q : Option Char) (c : Char) : Option Char :=
  match q with
  | some q => if c == q then none else some q
  | none => if isQuote c then some c else none

/-- The quote that is open at the end of `s`. -/
def openQuote (q : Option Char) (s : List Char) : Option Char := s.foldl quoteAfter q

/-- An open quote is closed at the end. -/
def closed (s : List Char) : List Char := s ++ (openQuote none s).toList

/-- The pieces between the separators outside quotes. -/
def pieces (isSeparator : Char → Bool) (q : Option Char) : List Char → List (List Char)
  | [] => [[]]
  | c :: s =>
    if q.isNone && isSeparator c then [] :: pieces isSeparator none s
    else
      match pieces isSeparator (quoteAfter q c) s with
      | [] => [[c]]
      | p :: ps => (c :: p) :: ps

/-- The inside of text wrapped in one pair of quotes, if the quote does not close earlier. -/
def stripQuotes? : List Char → Option (List Char)
  | [] => none
  | q :: s =>
    if isQuote q && s.getLast? == some q && !s.dropLast.contains q then some s.dropLast else none

def unquote (s : List Char) : List Char := (stripQuotes? s).getD s

@[simp] theorem openQuote_nil (q : Option Char) : openQuote q [] = q := rfl

@[simp] theorem openQuote_cons (q : Option Char) (c : Char) (s : List Char) :
    openQuote q (c :: s) = openQuote (quoteAfter q c) s := rfl

theorem openQuote_append (q : Option Char) (s t : List Char) :
    openQuote q (s ++ t) = openQuote (openQuote q s) t := List.foldl_append

theorem pieces_ne_nil (isSeparator : Char → Bool) (q : Option Char) (s : List Char) :
    pieces isSeparator q s ≠ [] := by
  cases s with
  | nil => simp [pieces]
  | cons c s =>
    rw [pieces]
    split
    · simp
    · split <;> simp

end CommandBridge.Command
