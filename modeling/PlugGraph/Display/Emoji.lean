import PlugGraph.Display.Emoji.AToC
import PlugGraph.Display.Emoji.DToF
import PlugGraph.Display.Emoji.GToL
import PlugGraph.Display.Emoji.MToO
import PlugGraph.Display.Emoji.PToS
import PlugGraph.Display.Emoji.TToZ
import PlugGraph.Text.Blank
import PlugGraph.Text.Small

/-!
# Emoji codes

A name between colons stands for an emoji, in whatever letter case it is written. Behind the name,
`-text` and `-emoji` choose between the two ways to draw it. What stands between two colons and is
no such name is left as it is, and its second colon does not begin another code.
-/

namespace PlugGraph.Display.Emoji

/-- The names and emoji in a row of the table. -/
def entries (row : String) : List (List Char × List Char) :=
  (row.toList.splitOn ' ').map fun entry =>
    (entry.takeWhile (· != '='), (entry.dropWhile (· != '=')).drop 1)

def names : List (List Char × List Char) :=
  (rowsAToC ++ rowsDToF ++ rowsGToL ++ rowsMToO ++ rowsPToS ++ rowsTToZ).flatMap entries

inductive Variant where
  | text
  | emoji
deriving DecidableEq, Repr

namespace Variant

/-- What chooses a variant behind a name. -/
def suffix : Variant → List Char
  | text => ['-', 't', 'e', 'x', 't']
  | emoji => ['-', 'e', 'm', 'o', 'j', 'i']

/-- The character behind an emoji that chooses a variant. -/
def selector : Variant → Char
  | text => '\uFE0E'
  | emoji => '\uFE0F'

def split (code : List Char) : List Char × Option Variant :=
  match [text, emoji].find? fun variant => variant.suffix.isSuffixOf code with
  | some variant => (code.take (code.length - variant.suffix.length), some variant)
  | none => (code, none)

end Variant

/-- The emoji that a code, without its colons, stands for. -/
def ofCode? (code : List Char) : Option (List Char) :=
  let (name, variant?) := Variant.split code
  (names.lookup (Text.smallChars name)).map (· ++ (variant?.map (·.selector)).toList)

/-- Replaces the codes in a text. `fuel` bounds the number of characters. -/
def replaceFrom : (fuel : Nat) → List Char → List Char
  | fuel + 1, ':' :: rest =>
    let code := rest.takeWhile fun c => c != ':' && !Text.isBlank c
    match rest.drop code.length with
    | ':' :: behind =>
      (ofCode? code).getD (':' :: code ++ [':']) ++ replaceFrom fuel behind
    | _ => ':' :: replaceFrom fuel rest
  | fuel + 1, c :: rest => c :: replaceFrom fuel rest
  | _, cs => cs

def replace (cs : List Char) : List Char := replaceFrom cs.length cs

end PlugGraph.Display.Emoji
