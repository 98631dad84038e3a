import PlugGraph.Display.Literal.Token
import PlugGraph.Text.Blank
import PlugGraph.Text.Symbol

/-!
# Literals

The parameters of an action are a name, which literals in parentheses may follow, or literals alone.
A literal is a number, which may have a sign or an imaginary part, a string, one of the words
`None`, `True` and `False`, the ellipsis, or a tuple, set or dictionary of literals. Members of sets
and keys of dictionaries cannot be sets or dictionaries. Whether a text is such a thing is all that
is asked here.
-/

namespace PlugGraph.Display.Literal

/-- What has been read, as far as it matters for what may follow. -/
inductive Shape where
  /-- A real number without a sign. -/
  | real
  /-- An imaginary number without a sign. -/
  | imaginary
  /-- A real number with a sign. -/
  | signed
  /-- Another value that may be a key. -/
  | fixed
  /-- A value that cannot be a key. -/
  | changing
  /-- The word `set`, which is no value before parentheses follow. -/
  | setName
deriving DecidableEq, Repr

namespace Shape

def isKey : Shape → Bool
  | real | imaginary | signed | fixed => true
  | changing | setName => false

def withSign? : Shape → Option Shape
  | real => some signed
  | imaginary => some fixed
  | _ => none

def sum? : Shape → Shape → Option Shape
  | real, imaginary | signed, imaginary => some fixed
  | _, _ => none

/-- The shape of a collection that is a key if all of it are keys. -/
def ofKeys (areKeys : Bool) : Shape := if areKeys then fixed else changing

end Shape

/-- Items between brackets: a tuple, or a set or dictionary. Which of the two it is shows behind the
first item. -/
inductive Bracket where
  | round
  | curly (isDictionary : Option Bool)
deriving DecidableEq, Repr

def Bracket.closing : Bracket → Token
  | round => .mark ')'
  | curly _ => .mark '\x7d'

/-- Calls `set`, if parentheses follow the word. -/
def callSet : Shape → List Token → Shape × List Token
  | .setName, .mark '(' :: .mark ')' :: rest => (.changing, rest)
  | shape, rest => (shape, rest)

mutual

/-- Reads a value without a sign. `fuel` bounds the number of steps. -/
def atom? : (fuel : Nat) → List Token → Option (Shape × List Token)
  | 0, _ => none
  | fuel + 1, tokens =>
    match tokens with
    | .number isImaginary :: rest => some (if isImaginary then .imaginary else .real, rest)
    | .string isBytes :: rest =>
      let rest := rest.dropWhile (· == .string isBytes)
      if rest.head? == some (.string !isBytes) then none else some (.fixed, rest)
    | .constant :: rest => some (.fixed, rest)
    | .setName :: rest => some (callSet .setName rest)
    | .mark '(' :: .mark ')' :: rest => some (.fixed, rest)
    | .mark '(' :: rest => do
      let (shape, rest) ← value? fuel rest
      match rest with
      | .mark ')' :: rest => return callSet shape rest
      | .mark ',' :: rest =>
        if shape == .setName then none
        else
          let (areKeys, rest) ← items? fuel .round shape.isKey rest
          return (.ofKeys areKeys, rest)
      | _ => none
    | .mark '\x7b' :: rest => do
      let (_, rest) ← items? fuel (.curly none) true rest
      return (.changing, rest)
    | _ => none

/-- Reads a value, which may be a sum. -/
def value? : (fuel : Nat) → List Token → Option (Shape × List Token)
  | 0, _ => none
  | fuel + 1, tokens => do
    let (left, rest) ← match tokens with
      | .mark '+' :: rest | .mark '-' :: rest => do
        let (shape, rest) ← atom? fuel rest
        pure (← shape.withSign?, rest)
      | tokens => atom? fuel tokens
    match rest with
    | .mark '+' :: rest | .mark '-' :: rest =>
      let (right, rest) ← atom? fuel rest
      return (← left.sum? right, rest)
    | rest => return (left, rest)

/-- Reads items and the bracket that closes them. Tells as well whether all items are keys, given
that `areKeys` says it of those in front. -/
def items? : (fuel : Nat) → Bracket → (areKeys : Bool) → List Token →
    Option (Bool × List Token)
  | 0, _, _, _ => none
  | fuel + 1, bracket, areKeys, tokens =>
    if tokens.head? == some bracket.closing then some (areKeys, tokens.drop 1)
    else do
      let (shape, rest) ← value? fuel tokens
      if shape == .setName then none
      let (bracket, rest) ← match bracket, rest with
        | .round, rest => some (bracket, rest)
        | .curly (some false), .mark ':' :: _ => none
        | .curly _, .mark ':' :: rest => do
          let (value, rest) ← value? fuel rest
          if !shape.isKey || value == .setName then none
          pure (Bracket.curly (some true), rest)
        | .curly (some true), _ => none
        | .curly _, rest => if shape.isKey then some (.curly (some false), rest) else none
      let areKeys := areKeys && shape.isKey
      match rest with
      | .mark ',' :: rest => items? fuel bracket areKeys rest
      | token :: rest => if token == bracket.closing then some (areKeys, rest) else none
      | [] => none

end

/-- Whether a text is a literal, or several with commas between them. -/
def isLiteral (cs : List Char) : Bool :=
  match tokens? cs with
  | none => false
  | some tokens =>
    let tokens := (tokens.reverse.dropWhile (· == .lineEnd)).reverse
    let read? := items? (3 * (tokens.length + 1)) .round true (tokens ++ [.mark ')'])
    !tokens.isEmpty && read?.any fun (_, rest) => rest.isEmpty

/-- Whether a text holds half of a surrogate pair. -/
def holdsHalf (cs : List Char) : Bool :=
  (Text.Symbol.ofSpelling cs).any fun symbol => symbol matches .half _

/-- Whether a text can be the parameters of an action. -/
def isAction (cs : List Char) : Bool :=
  let cs := Text.trim cs
  let rest := cs.dropWhile fun c => isNameChar c || c == '.'
  match rest with
  | [] => true
  | '(' :: _ =>
    if rest.getLast? == some ')' && !rest.contains '\n' then isLiteral rest && !holdsHalf rest
    else isLiteral cs && !holdsHalf cs
  | _ => isLiteral cs && !holdsHalf cs

end PlugGraph.Display.Literal
