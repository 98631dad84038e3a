import PlugGraph.Proofs.Plugs

/-!
# Names of array elements

The name of an array element is that of the array with an index in brackets. The array is read back
from it, and so is the index if its numeral is not too long. A name with a longer numeral is that of
an array element without an index.
-/

namespace PlugGraph

namespace Numeral

variable {c : Char} {cs : List Char}

def isIntegerChar (c : Char) : Bool := c.isDigit || c == '-'

theorem toNat_of_isDigit (h : c.isDigit = true) : 48 ≤ c.toNat ∧ c.toNat ≤ 57 := by
  simp only [Char.isDigit, Bool.and_eq_true, decide_eq_true_eq] at h
  exact h

theorem not_isBlank_of_isIntegerChar (h : isIntegerChar c = true) : Text.isBlank c = false := by
  rcases Bool.or_eq_true_iff.mp h with digit | minus
  · obtain ⟨low, high⟩ := toNat_of_isDigit digit
    simp only [Text.isBlank, Bool.or_eq_false_iff, Bool.and_eq_false_iff, decide_eq_false_iff_not,
      beq_eq_false_iff_ne]
    omega
  · rw [beq_iff_eq.mp minus]
    decide

theorem asciiDigit_of_isIntegerChar (h : isIntegerChar c = true) : asciiDigit c = c := by
  rcases Bool.or_eq_true_iff.mp h with digit | minus
  · obtain ⟨low, high⟩ := toNat_of_isDigit digit
    have value : Text.decimalValue? c = some (c.toNat - 48) := by
      rw [Text.decimalValue?, if_pos (by omega), if_pos digit]
    have back : (Nat.digitChar (c.toNat - 48)).toNat = c.toNat := by
      rw [Nat.toNat_digitChar_of_lt_ten (by omega)]
      omega
    rw [asciiDigit, value]
    exact Char.toNat_inj.mp back
  · rw [beq_iff_eq.mp minus]
    decide

theorem dropUnderscores_eq_self (afterDigit : Bool) (none : '_' ∉ cs) :
    dropUnderscores afterDigit cs = some cs := by
  fun_induction dropUnderscores afterDigit cs with
  | case1 => rfl
  | case2 | case3 => exact absurd List.mem_cons_self none
  | case4 afterDigit c rest _ same =>
    exact absurd (beq_iff_eq.mp same ▸ List.mem_cons_self) none
  | case5 afterDigit c rest _ _ ih =>
    rw [ih fun member => none (List.mem_cons_of_mem c member), Option.map_some]

/-- Nothing but a sign is taken from the characters of an integer's numeral. -/
theorem integerOfChars?_of_isIntegerChar (chars : ∀ c ∈ cs, isIntegerChar c = true) :
    integerOfChars? cs =
      let (negative, digits) := takeSign cs
      if digits.isEmpty || !digits.all Char.isDigit || integerDigitLimit < digits.length then none
      else
        let value : Int := digitsValue 0 digits
        some (if negative then -value else value) := by
  have blank {c : Char} (member : c ∈ cs) : isPadding c = false := by
    rw [isPadding, not_isBlank_of_isIntegerChar (chars c member), Bool.false_and]
  have trimmed : Text.trimIf isPadding cs = cs :=
    Text.trimIf_eq_self (fun c first => blank (List.mem_of_mem_head? first))
      fun c last => blank (List.mem_of_getLast? last)
  have ascii : cs.map asciiDigit = cs :=
    (List.map_congr_left fun c member => asciiDigit_of_isIntegerChar (chars c member)).trans
      (List.map_id cs)
  have none : '_' ∉ cs := fun member => absurd (chars _ member) (by decide)
  simp only [integerOfChars?, trimmed, ascii, dropUnderscores_eq_self false none]
  rfl

theorem digitsValue_toDigits (n : Nat) : digitsValue 0 (Nat.toDigits 10 n) = n := by
  have read := Nat.ofDigitChars_ten_toDigits (n := n)
  simp only [Nat.ofDigitChars_eq_foldl, Nat.mul_comm 10] at read
  exact read

theorem isDigit_of_mem_toDigits {n : Nat} (member : c ∈ Nat.toDigits 10 n) : c.isDigit = true :=
  Nat.isDigit_of_mem_toDigits (by decide) (by decide) member

theorem takeSign_toDigits (n : Nat) :
    takeSign (Nat.toDigits 10 n) = (false, Nat.toDigits 10 n) := by
  have digits {c : Char} {rest : List Char} (front : Nat.toDigits 10 n = c :: rest) :
      c.isDigit = true :=
    isDigit_of_mem_toDigits (front ▸ List.mem_cons_self)
  unfold takeSign
  split
  · next front => exact absurd (digits front) (by decide)
  · next front => exact absurd (digits front) (by decide)
  · rfl

theorem toList_toString_ofNat (n : Nat) : (toString (Int.ofNat n)).toList = Nat.toDigits 10 n :=
  Nat.toList_repr

theorem toList_toString_negSucc (n : Nat) :
    (toString (Int.negSucc n)).toList = '-' :: Nat.toDigits 10 (n + 1) := by
  have numeral : toString (Int.negSucc n) = "-" ++ (n + 1).repr := rfl
  rw [numeral, String.toList_append, Nat.toList_repr]
  rfl

theorem isIntegerChar_of_mem_toString {i : Int} (member : c ∈ (toString i).toList) :
    isIntegerChar c = true := by
  rw [isIntegerChar, Bool.or_eq_true, beq_iff_eq]
  cases i with
  | ofNat n =>
    rw [toList_toString_ofNat] at member
    exact .inl (isDigit_of_mem_toDigits member)
  | negSucc n =>
    rw [toList_toString_negSucc, List.mem_cons] at member
    exact member.symm.imp_left isDigit_of_mem_toDigits

/-- The numeral of an integer is read back, unless it is too long. -/
theorem integerOfChars?_toString (i : Int) :
    integerOfChars? (toString i).toList =
      if (Nat.toDigits 10 i.natAbs).length ≤ integerDigitLimit then some i else none := by
  have digits (n : Nat) : (Nat.toDigits 10 n).isEmpty = false ∧
      (Nat.toDigits 10 n).all Char.isDigit = true :=
    ⟨by simp [Nat.toDigits_ne_nil], List.all_eq_true.mpr fun _ => isDigit_of_mem_toDigits⟩
  rw [integerOfChars?_of_isIntegerChar fun c => isIntegerChar_of_mem_toString]
  cases i with
  | ofNat n =>
    simp only [toList_toString_ofNat, takeSign_toDigits, digits, digitsValue_toDigits,
      Int.natAbs_ofNat', Bool.not_true, Bool.or_self, Bool.false_or, decide_eq_true_eq,
      ← Nat.not_le, ite_not, Bool.false_eq_true, if_false]
    rfl
  | negSucc n =>
    simp only [toList_toString_negSucc, takeSign, digits, digitsValue_toDigits,
      Int.natAbs_negSucc, Bool.not_true, Bool.or_self, Bool.false_or, decide_eq_true_eq,
      ← Nat.not_le, ite_not, if_true]
    rfl

/-- The numeral of a power of ten has a digit more than the exponent says. -/
theorem lt_length_toDigits_pow {digits : Nat} (some : 0 < digits) :
    digits < (Nat.toDigits 10 (Nat.pow 10 digits)).length := by
  rw [← Nat.not_le, Nat.length_toDigits_le_iff (by decide) some]
  exact Nat.lt_irrefl _

end Numeral

namespace Attr

variable {array : String}

theorem toList_element (array : String) (i : Int) :
    (element array i).toList = array.toList ++ '[' :: ((toString i).toList ++ [']']) := by
  simp [element]

theorem ne_element {attr : String} (noBracket : '[' ∉ attr.toList) (i : Int) :
    attr ≠ element array i := by
  rintro rfl
  simp [toList_element] at noBracket

theorem dropDot_eq_self {cs : List Char} (noDot : cs.head? ≠ some '.') : dropDot cs = cs := by
  unfold dropDot
  split
  · exact absurd rfl noDot
  · rfl

theorem withoutDot_eq_self {name : String} (noDot : name.toList.head? ≠ some '.') :
    withoutDot name = name := by
  rw [withoutDot, dropDot_eq_self noDot, String.ofList_toList]

theorem head?_element_append_ne (noDot : array.toList.head? ≠ some '.') (i : Int)
    (ending : String) : (element array i ++ ending).toList.head? ≠ some '.' := by
  rw [String.toList_append, toList_element]
  cases chars : array.toList with
  | nil => simp
  | cons c rest => simpa [chars] using noDot

theorem dropDot_element (noDot : array.toList.head? ≠ some '.') (i : Int) :
    dropDot (element array i).toList = (element array i).toList :=
  dropDot_eq_self (by simpa using head?_element_append_ne noDot i "")

theorem withoutDot_element (noDot : array.toList.head? ≠ some '.') (i : Int) :
    withoutDot (element array i) = element array i := by
  rw [withoutDot, dropDot_element noDot, String.ofList_toList]

/-- The index of an element is read back from its name and from those of its children, unless its
numeral is too long. -/
theorem index?_element_append (noBracket : '[' ∉ array.toList) (i : Int) (ending : String) :
    index? (element array i ++ ending) =
      if (Nat.toDigits 10 i.natAbs).length ≤ Numeral.integerDigitLimit then some i else none := by
  have other {c d : Char} (member : c ∈ (toString i).toList)
      (different : Numeral.isIntegerChar d = false) : (c != d) = true := by
    rw [bne_iff_ne]
    rintro rfl
    exact absurd (Numeral.isIntegerChar_of_mem_toString member) (by simp [different])
  have inside : (element array i ++ ending).toList.dropWhile (· != '[') =
      '[' :: ((toString i).toList ++ ']' :: ending.toList) := by
    rw [String.toList_append, toList_element, List.append_assoc,
      List.dropWhile_append_of_pos fun c member => ?_]
    · simp
    · exact bne_iff_ne.mpr (ne_of_mem_of_not_mem member noBracket)
  have closed : ((toString i).toList ++ ']' :: ending.toList).takeWhile (· != ']') =
      (toString i).toList := by
    rw [List.takeWhile_append_of_pos fun c member => other member (by decide)]
    simp
  have single : (toString i).toList.takeWhile (· != ':') = (toString i).toList :=
    List.takeWhile_eq_self_iff.mpr fun c member => other member (by decide)
  have trimmed : Text.trim (toString i).toList = (toString i).toList :=
    Text.trim_eq_self
      (fun c first => Numeral.not_isBlank_of_isIntegerChar
        (Numeral.isIntegerChar_of_mem_toString (List.mem_of_mem_head? first)))
      fun c last => Numeral.not_isBlank_of_isIntegerChar
        (Numeral.isIntegerChar_of_mem_toString (List.mem_of_getLast? last))
  simp only [index?, inside, closed, single, trimmed]
  rw [if_pos (by simp), Numeral.integerOfChars?_toString]

theorem index?_element (noBracket : '[' ∉ array.toList) (i : Int) :
    index? (element array i) =
      if (Nat.toDigits 10 i.natAbs).length ≤ Numeral.integerDigitLimit then some i else none := by
  simpa using index?_element_append noBracket i ""

theorem takeWhile_ne_bracket {front rest : List Char} (noBracket : '[' ∉ front) :
    (front ++ '[' :: rest).takeWhile (· != '[') = front := by
  rw [List.takeWhile_append_of_pos fun c member => ?_]
  · simp
  · exact bne_iff_ne.mpr (ne_of_mem_of_not_mem member noBracket)

/-- What stands in front of the first bracket holds none itself. -/
theorem noBracket_of_arrayName? {name : String} (named : arrayName? name = some array) :
    '[' ∉ array.toList := by
  simp only [arrayName?, Option.ite_none_left_eq_some, Option.some.injEq] at named
  obtain ⟨-, rfl⟩ := named
  rw [String.toList_ofList]
  intro inside
  simpa using List.mem_takeWhile_imp inside

/-- The array of an element is read back. -/
theorem arrayName?_element (named : array ≠ "") (noDot : array.toList.head? ≠ some '.')
    (noBracket : '[' ∉ array.toList) (i : Int) : arrayName? (element array i) = some array := by
  have front : (element array i).toList.takeWhile (· != '[') = array.toList := by
    rw [toList_element, takeWhile_ne_bracket noBracket]
  have someName : array.toList.isEmpty = false := by simpa using named
  simp only [arrayName?, dropDot_element noDot, front, someName]
  rw [if_neg, String.ofList_toList]
  simp [toList_element]

end Attr

end PlugGraph
