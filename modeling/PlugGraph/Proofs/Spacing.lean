import Mathlib.Data.List.TakeWhile
import PlugGraph.Expr.Token
import PlugGraph.Number.Double

/-!
# Tokens do not depend on spacing

No blank may stand in a number or an identifier. So the text of a token is read as that token
wherever a blank or nothing follows it (`Token.Reads`): the scan of a number or an identifier takes
what it took before and stops at the blank. The tokenizer finds only tokens of this kind, and they
are found again whatever blanks stand between their texts.
-/

namespace PlugGraph

namespace Text

def blankCodes : List Nat :=
  List.range' 9 5 ++ List.range' 28 5 ++ [0x85, 0xA0, 0x1680] ++ List.range' 0x2000 11 ++
    [0x2028, 0x2029, 0x202F, 0x205F, 0x3000]

theorem toNat_mem_blankCodes {c : Char} (blank : isBlank c = true) : c.toNat ∈ blankCodes := by
  simp only [isBlank, Bool.or_eq_true, Bool.and_eq_true, decide_eq_true_eq, beq_iff_eq] at blank
  simp only [blankCodes, List.mem_append, List.mem_range'_1, List.mem_cons, List.not_mem_nil]
  omega

end Text

namespace Expr

/-! ### What a blank ends -/

/-- May stand in a number, a sign behind an exponent mark included. -/
def isNumberPart (c : Char) : Bool :=
  Text.isDigit c || c == '.' || isExponentMark c || (c == '+' || c == '-')

/-- The classes of letters, digits and numeric characters are tables, so this is looked up. -/
theorem not_part_of_isBlank {c : Char} (blank : Text.isBlank c = true) :
    isNumberPart c = false ∧ isIdentifierPart c = false := by
  have table : ∀ n ∈ Text.blankCodes,
      isNumberPart (.ofNat n) = false ∧ isIdentifierPart (.ofNat n) = false := by
    decide +kernel
  have entry := table c.toNat (Text.toNat_mem_blankCodes blank)
  rwa [Char.ofNat_toNat] at entry

/-- Begins with a blank, or is empty. -/
def StartsBlank (cs : List Char) : Prop := ∀ c ∈ cs.head?, Text.isBlank c = true

theorem startsBlank_of_blank {cs : List Char} (blank : ∀ c ∈ cs, Text.isBlank c = true) :
    StartsBlank cs :=
  fun c first => blank c (List.mem_of_mem_head? first)

theorem startsBlank_append {gap : List Char} (some : gap ≠ [])
    (blank : ∀ c ∈ gap, Text.isBlank c = true) (rest : List Char) : StartsBlank (gap ++ rest) := by
  obtain ⟨d, others, rfl⟩ := List.exists_cons_of_ne_nil some
  rintro c ⟨⟩
  exact blank d List.mem_cons_self

theorem spanNumber_of_startsBlank {cs : List Char} (blank : StartsBlank cs) (afterMark : Bool) :
    spanNumber afterMark cs = ([], cs) := by
  cases cs with
  | nil => rfl
  | cons c rest =>
    have part := (not_part_of_isBlank (blank c rfl)).1
    simp only [isNumberPart, Bool.or_eq_false_iff] at part
    simp [spanNumber, part]

/-- What a number takes, it takes again in front of a blank. Whether a sign belongs to it is decided
by the character before, which is taken as well. -/
theorem spanNumber_again (afterMark : Bool) (cs : List Char) {rest : List Char}
    (blank : StartsBlank rest) :
    spanNumber afterMark ((spanNumber afterMark cs).1 ++ rest) =
      ((spanNumber afterMark cs).1, rest) := by
  induction cs generalizing afterMark with
  | nil => exact spanNumber_of_startsBlank blank afterMark
  | cons c cs ih =>
    rw [spanNumber]
    split
    · next part =>
      have later := ih (isExponentMark c)
      simp [spanNumber, part, later]
    · exact spanNumber_of_startsBlank blank afterMark

/-- What an identifier takes, it takes again in front of a blank. -/
theorem takeWhile_again (cs : List Char) {rest : List Char} (blank : StartsBlank rest) :
    (cs.takeWhile isIdentifierPart ++ rest).takeWhile isIdentifierPart =
        cs.takeWhile isIdentifierPart ∧
      (cs.takeWhile isIdentifierPart ++ rest).dropWhile isIdentifierPart = rest := by
  have taken : ∀ c ∈ cs.takeWhile isIdentifierPart, isIdentifierPart c = true :=
    fun c member => List.mem_takeWhile_imp member
  have stops : rest.takeWhile isIdentifierPart = [] ∧ rest.dropWhile isIdentifierPart = rest := by
    cases rest with
    | nil => exact ⟨rfl, rfl⟩
    | cons c rest => simp [(not_part_of_isBlank (blank c rfl)).2]
  rw [List.takeWhile_append_of_pos taken, List.dropWhile_append_of_pos taken, stops.1, stops.2,
    List.append_nil]
  exact ⟨rfl, rfl⟩

/-- A number starts with a digit, or with a point before a digit. -/
theorem startsNumber_cons (c : Char) (cs : List Char) :
    startsNumber (c :: cs) = (Text.isDigit c || (c == '.' && cs.head?.any Text.isDigit)) := by
  have point : Text.isDigit '.' = false := by decide
  by_cases same : c = '.'
  · subst same
    cases cs with
    | nil => rfl
    | cons d rest => simp [startsNumber, point]
  · simp [startsNumber, same]

/-! ### Tokens of one character -/

/-- The characters that are tokens by themselves. -/
def symbols : List Char := ['(', ')', ',', '+', '-', '*', '/', '^']

/-- Starts no token, unless it is the point of a number. -/
def isPassedOver (c : Char) : Bool :=
  Text.isBlank c || !(Text.isDigit c || isIdentifierStart c || symbols.contains c)

theorem Operator.symbol_of_ofSymbol? {c : Char} {op : Operator} (found : ofSymbol? c = some op) :
    op.symbol = c := by
  unfold ofSymbol? at found
  split at found <;> cases found <;> rfl

section

variable {α : Type} {c : Char}

theorem text_of_charToken? {token : Token α} (found : charToken? c = some token) :
    token.text = .ofList [c] := by
  unfold charToken? at found
  split at found
  · obtain rfl := Option.some.inj found
    rfl
  · obtain rfl := Option.some.inj found
    rfl
  · obtain rfl := Option.some.inj found
    rfl
  · obtain ⟨op, symbol, rfl⟩ := Option.map_eq_some_iff.mp found
    rw [Token.text, Operator.text, Operator.symbol_of_ofSymbol? symbol]

theorem not_mem_symbols (none : charToken? (α := α) c = none) : c ∉ symbols := by
  intro member
  simp only [symbols, List.mem_cons, List.not_mem_nil, or_false] at member
  rcases member with rfl | rfl | rfl | rfl | rfl | rfl | rfl | rfl <;> cases none

end

/-! ### One token at a time -/

variable {α : Type} [Scalar α] {c : Char} {cs : List Char}

theorem tokenizeChars_append_of_blank {gap : List Char} (blank : ∀ c ∈ gap, Text.isBlank c = true)
    (rest : List Char) : tokenizeChars (α := α) (gap ++ rest) = tokenizeChars rest := by
  induction gap with
  | nil => rfl
  | cons c gap ih =>
    obtain ⟨first, later⟩ := List.forall_mem_cons.mp blank
    rw [List.cons_append, tokenizeChars, if_pos first, ih later]

theorem tokenizeChars_of_blank (blank : ∀ c ∈ cs, Text.isBlank c = true) :
    tokenizeChars (α := α) cs = [] := by
  have passed := tokenizeChars_append_of_blank (α := α) blank []
  rwa [List.append_nil, tokenizeChars] at passed

/-- The text of the token is read as this token, wherever a blank or nothing follows it. -/
def Token.Reads (token : Token α) : Prop :=
  ∀ rest, StartsBlank rest →
    tokenizeChars (token.text.toList ++ rest) = token :: tokenizeChars rest

theorem reads_number (notBlank : ¬ Text.isBlank c = true) (starts : startsNumber (c :: cs) = true) :
    (numberToken (α := α) (c :: (spanNumber false cs).1)).Reads := by
  intro rest blank
  have again : startsNumber (c :: ((spanNumber false cs).1 ++ rest)) = true := by
    rw [startsNumber_cons, Bool.or_eq_true, Bool.and_eq_true] at starts ⊢
    -- A digit behind the point is the first character of what is taken.
    refine starts.imp_right fun ⟨point, digit⟩ => ⟨point, ?_⟩
    obtain ⟨d, first, isDigit⟩ := (Option.any_eq_true _ _).mp digit
    obtain ⟨others, rfl⟩ := List.head?_eq_some_iff.mp first
    simp [spanNumber, isDigit]
  rw [numberToken, Token.text, String.toList_ofList, List.cons_append, tokenizeChars,
    if_neg notBlank, if_pos again, spanNumber_again false cs blank]
  rfl

theorem reads_identifier (notBlank : ¬ Text.isBlank c = true)
    (noNumber : ¬ startsNumber (c :: cs) = true) (starts : isIdentifierStart c = true) :
    (Token.identifier (.ofList (c :: cs.takeWhile isIdentifierPart)) : Token α).Reads := by
  intro rest blank
  have noPoint : (c == '.') = false := by
    rw [beq_eq_false_iff_ne]
    rintro rfl
    exact absurd starts (by decide)
  have again : ¬ startsNumber (c :: (cs.takeWhile isIdentifierPart ++ rest)) = true := by
    rw [startsNumber_cons, noPoint] at noNumber ⊢
    exact noNumber
  obtain ⟨taken, left⟩ := takeWhile_again cs blank
  rw [Token.text, String.toList_ofList, List.cons_append, tokenizeChars, if_neg notBlank,
    if_neg again, if_pos starts, taken, left]

theorem reads_char (notBlank : ¬ Text.isBlank c = true) (noDigit : ¬ Text.isDigit c = true)
    (noStart : ¬ isIdentifierStart c = true) {token : Token α}
    (found : charToken? c = some token) : token.Reads := by
  intro rest _
  have noPoint : (c == '.') = false := by
    rw [beq_eq_false_iff_ne]
    rintro rfl
    cases found
  have again : ¬ startsNumber (c :: rest) = true := by
    simp [startsNumber_cons, noPoint, noDigit]
  rw [text_of_charToken? found, String.toList_ofList, List.cons_append, List.nil_append,
    tokenizeChars, if_neg notBlank, if_neg again, if_neg noStart, found]

/-- The tokenizer finds no other tokens. -/
theorem reads_of_mem_tokenizeChars {token : Token α}
    (member : token ∈ tokenizeChars (α := α) cs) : token.Reads := by
  fun_induction tokenizeChars (α := α) cs with
  | case1 => cases member
  | case2 c rest blank ih => exact ih member
  | case3 c rest notBlank starts number ih =>
    rcases List.mem_cons.mp member with rfl | later
    · exact reads_number notBlank starts
    · exact ih later
  | case4 c rest notBlank noNumber starts ih =>
    rcases List.mem_cons.mp member with rfl | later
    · exact reads_identifier notBlank noNumber starts
    · exact ih later
  | case5 c rest notBlank noNumber noStart symbol found ih =>
    rcases List.mem_cons.mp member with rfl | later
    · rw [startsNumber_cons, Bool.or_eq_true, not_or] at noNumber
      exact reads_char notBlank noNumber.1 noStart found
    · exact ih later
  | case6 c rest notBlank noNumber noStart none ih => exact ih member

/-! ### All tokens of a text -/

namespace Token

/-- The texts of the tokens stand in `cs` one behind the other. Whatever else stands there is passed
over. -/
inductive Covers : List (Token α) → List Char → Prop
  | nil : Covers [] []
  | passed {c : Char} {tokens : List (Token α)} {cs : List Char} (idle : isPassedOver c = true)
      (rest : Covers tokens cs) : Covers tokens (c :: cs)
  | token (token : Token α) {tokens : List (Token α)} {cs : List Char} (rest : Covers tokens cs) :
      Covers (token :: tokens) (token.text.toList ++ cs)

/-- The texts of tokens with a run of characters between any two of them: `gap i` stands behind the
token at position `i`. -/
def spaced (gap : Nat → List Char) : List (Token α) → List Char
  | [] => []
  | [token] => token.text.toList
  | token :: next :: rest =>
    token.text.toList ++ gap 0 ++ spaced (fun i => gap (i + 1)) (next :: rest)

theorem covers_tokenizeChars (cs : List Char) : Covers (tokenizeChars (α := α) cs) cs := by
  fun_induction tokenizeChars (α := α) cs with
  | case1 => exact .nil
  | case2 c rest blank ih => exact .passed (by simp [isPassedOver, blank]) ih
  | case3 c rest notBlank starts number ih =>
    have covered := Covers.token (numberToken (α := α) (c :: number.1)) ih
    rwa [numberToken, Token.text, String.toList_ofList, List.cons_append,
      spanNumber_append] at covered
  | case4 c rest notBlank noNumber starts ih =>
    have covered := Covers.token
      (.identifier (.ofList (c :: rest.takeWhile isIdentifierPart)) : Token α) ih
    rwa [Token.text, String.toList_ofList, List.cons_append,
      List.takeWhile_append_dropWhile] at covered
  | case5 c rest notBlank noNumber noStart token found ih =>
    have covered := Covers.token token ih
    rwa [text_of_charToken? found, String.toList_ofList] at covered
  | case6 c rest notBlank noNumber noStart none ih =>
    rw [startsNumber_cons, Bool.or_eq_true, not_or] at noNumber
    refine .passed ?_ ih
    simp [isPassedOver, noNumber.1, noStart, not_mem_symbols none]

theorem tokenizeChars_spaced {tokens : List (Token α)} (reads : ∀ token ∈ tokens, token.Reads)
    {gap : Nat → List Char} (some : ∀ i, gap i ≠ [])
    (blank : ∀ i, ∀ c ∈ gap i, Text.isBlank c = true) {back : List Char}
    (blankBack : ∀ c ∈ back, Text.isBlank c = true) :
    tokenizeChars (spaced gap tokens ++ back) = tokens := by
  have nothing : tokenizeChars (α := α) back = [] := tokenizeChars_of_blank blankBack
  induction tokens generalizing gap with
  | nil => exact nothing
  | cons token rest ih =>
    obtain ⟨first, others⟩ := List.forall_mem_cons.mp reads
    cases rest with
    | nil => rw [spaced, first back (startsBlank_of_blank blankBack), nothing]
    | cons next rest =>
      have later := ih others (fun i => some (i + 1)) fun i => blank (i + 1)
      rw [spaced, List.append_assoc, List.append_assoc,
        first _ (startsBlank_append (some 0) (blank 0) _),
        tokenizeChars_append_of_blank (blank 0), later]

/-- The texts of the tokens stand in the text in order, with nothing between them that starts a
token. Written again with any blanks between them, they are the same tokens. -/
theorem tokenize_respaced (text : String) :
    Covers (tokenize (α := α) text) text.toList ∧
      ∀ (front back : List Char) (gap : Nat → List Char),
        (∀ c ∈ front ++ back, Text.isBlank c = true) →
        (∀ i, gap i ≠ [] ∧ ∀ c ∈ gap i, Text.isBlank c = true) →
        tokenize (.ofList (front ++ spaced gap (tokenize (α := α) text) ++ back)) =
          tokenize (α := α) text := by
  refine ⟨covers_tokenizeChars text.toList, fun front back gap blankEnds gaps => ?_⟩
  obtain ⟨blankFront, blankBack⟩ := List.forall_mem_append.mp blankEnds
  rw [tokenize, String.toList_ofList, List.append_assoc, tokenizeChars_append_of_blank blankFront]
  exact tokenizeChars_spaced (fun token member => reads_of_mem_tokenizeChars member)
    (fun i => (gaps i).1) (fun i => (gaps i).2) blankBack

/-- A minus sign right behind an exponent mark belongs to the number, and behind a blank it does
not. Both stay what they are. -/
theorem tokenize_respaced_exponent :
    let gap (i : Nat) : List Char := List.replicate (i + 1) ' '
    (∀ c ∈ ['\t'] ++ ['\n'], Text.isBlank c = true) ∧
      (∀ i, gap i ≠ [] ∧ ∀ c ∈ gap i, Text.isBlank c = true) ∧
      tokenize (α := Float) "\t1e-5² *  -   |a:b.c    2e     -      .5\n" =
        tokenize (α := Float) "1e-5²*-|a:b.c 2e -.5?" := by
  intro gap
  have blankEnds : ∀ c ∈ ['\t'] ++ ['\n'], Text.isBlank c = true := List.all_eq_true.mp rfl
  have gaps : ∀ i, gap i ≠ [] ∧ ∀ c ∈ gap i, Text.isBlank c = true := by
    intro i
    refine ⟨List.cons_ne_nil _ _, fun c member => ?_⟩
    rw [List.eq_of_mem_replicate member]
    rfl
  have written : "\t1e-5² *  -   |a:b.c    2e     -      .5\n" = String.ofList (['\t'] ++
      spaced gap (tokenize (α := Float) "1e-5²*-|a:b.c 2e -.5?") ++ ['\n']) := by
    decide +kernel
  refine ⟨blankEnds, gaps, ?_⟩
  rw [written]
  exact (tokenize_respaced "1e-5²*-|a:b.c 2e -.5?").2 ['\t'] ['\n'] gap blankEnds gaps

end Token

end Expr

end PlugGraph
