import PlugGraph.Expr.Assignment
import PlugGraph.Proofs.Plugs

/-!
# Statements are read as they are written

A statement may be written with blanks around its parts and with a word that declares its target. A
scan that starts at the blanks in front of a statement either skips them up to a line break, because
what follows a line break is no equals sign, or takes those behind the last line break for a part of
the target. From there on the first equals sign ends the target and the first semicolon ends the
value, since neither holds a sign that would end it sooner. Trimming takes the blanks off again, so
the statements of a text are read back in order (`parse_writeAll`).
-/

namespace PlugGraph

namespace Text

variable {cs : List Char}

theorem trimRightIf_append {p : Char → Bool} (cs : List Char) {back : List Char}
    (drops : ∀ c ∈ back, p c = true) : trimRightIf p (cs ++ back) = trimRightIf p cs := by
  rw [trimRightIf, List.reverse_append,
    List.dropWhile_append_of_pos fun c member => drops c (List.mem_reverse.mp member), trimRightIf]

/-- Has no blank at either end, and is not empty. -/
structure IsTrimmed (cs : List Char) : Prop where
  first : ∃ c, cs.head? = some c ∧ isBlank c = false
  last : ∃ c, cs.getLast? = some c ∧ isBlank c = false

theorem isTrimmed_of_trim (some : cs ≠ []) (fixed : trim cs = cs) : IsTrimmed cs := by
  have first : ∀ c ∈ cs.head?, isBlank c = false := fun c front => not_isBlank_of_trim fixed front
  obtain ⟨c, rest, rfl⟩ := List.exists_cons_of_ne_nil some
  have left : trimLeftIf isBlank (c :: rest) = c :: rest :=
    List.dropWhile_cons_of_neg (by simp [first c rfl])
  rw [trim, trimIf, left] at fixed
  have last := List.rdropWhile_eq_self_iff.mp fixed some
  exact ⟨⟨c, rfl, first c rfl⟩,
    ⟨_, List.getLast?_eq_some_getLast some, Bool.eq_false_iff.mpr last⟩⟩

theorem trim_of_strip {s : String} (fixed : strip s = s) : trim s.toList = s.toList := by
  have chars := congrArg String.toList fixed
  rwa [strip, String.toList_ofList] at chars

/-- Blanks around a trimmed text are trimmed off. -/
theorem IsTrimmed.trim_append (h : IsTrimmed cs) {front back : List Char}
    (blankFront : ∀ c ∈ front, isBlank c = true) (blankBack : ∀ c ∈ back, isBlank c = true) :
    trim (front ++ cs ++ back) = cs := by
  obtain ⟨c, first, notBlank⟩ := h.first
  obtain ⟨rest, rfl⟩ := List.head?_eq_some_iff.mp first
  obtain ⟨d, last, notBlank'⟩ := h.last
  have left : trimLeftIf isBlank (front ++ (c :: rest) ++ back) = (c :: rest) ++ back := by
    rw [trimLeftIf, List.append_assoc, List.dropWhile_append_of_pos blankFront, List.cons_append,
      List.dropWhile_cons_of_neg (by simp [notBlank])]
  rw [trim, trimIf, left, trimRightIf_append _ blankBack]
  refine trimRightIf_eq_self fun e final => ?_
  obtain rfl := Option.some.inj (last.symm.trans final)
  exact notBlank'

end Text

namespace Expr.Assignment

/-! ### Scanning on and on -/

namespace Scan

def rest : Scan → List Char
  | statement _ _ rest => rest
  | skip rest => rest

def found : Scan → List (List Char × List Char)
  | statement target value _ => [(target, value)]
  | skip _ => []

end Scan

/-- What a value leaves is shorter by its semicolon. -/
theorem length_value?_lt {cs value rest : List Char} (read : value? cs = some (value, rest)) :
    rest.length < cs.length := by
  have blanks := cs.dropWhile_suffix Text.isBlank
  unfold value? at read
  split at read
  · cases read
  · next chars =>
    rw [chars] at blanks
    split at read <;> cases read
    exact blanks.length_le
  · split at read
    · next chars =>
      have short := ((List.dropWhile_suffix Text.isBlank).trans
        (List.dropWhile_suffix isValueChar)).trans blanks
      rw [chars] at short
      cases read
      exact short.length_le
    · cases read

/-- Every scan leaves less than there was. -/
theorem length_rest_scan_lt {cs : List Char} (some : cs ≠ []) :
    (scan cs).rest.length < cs.length := by
  have positive := List.length_pos_iff.mpr some
  have blanks := (List.dropWhile_suffix Text.isBlank (l := cs.dropWhile isTargetChar)).trans
    (List.dropWhile_suffix isTargetChar)
  unfold scan
  dsimp only
  split
  · simp only [Scan.rest, List.length_drop]
    omega
  · next taken =>
    split
    · next after chars =>
      rw [chars] at blanks
      have shorter : after.length < cs.length := blanks.length_le
      split
      · next read => exact (length_value?_lt read).trans shorter
      · exact shorter
    · have whole := congrArg List.length (cs.takeWhile_append_dropWhile (p := isTargetChar))
      have positive' : 0 < (cs.takeWhile isTargetChar).length :=
        List.length_pos_iff.mpr (by simpa using taken)
      simp only [Scan.rest, List.length_drop]
      rw [List.length_append] at whole
      omega

theorem scanAll_nil (fuel : Nat) : scanAll fuel [] = [] := by
  cases fuel <;> rfl

theorem scanAll_succ {cs : List Char} (some : cs ≠ []) (fuel : Nat) :
    scanAll (fuel + 1) cs = (scan cs).found ++ scanAll fuel (scan cs).rest := by
  rw [scanAll]
  · cases scan cs <;> rfl
  · exact some

/-- More scans than there are characters find nothing new. -/
theorem scanAll_congr {fuel fuel' : Nat} {cs : List Char} (enough : cs.length ≤ fuel)
    (enough' : cs.length ≤ fuel') : scanAll fuel cs = scanAll fuel' cs := by
  induction fuel generalizing fuel' cs with
  | zero =>
    obtain rfl := List.eq_nil_of_length_eq_zero (Nat.le_zero.mp enough)
    rw [scanAll_nil, scanAll_nil]
  | succ fuel ih =>
    by_cases some : cs = []
    · rw [some, scanAll_nil, scanAll_nil]
    · have less := length_rest_scan_lt some
      obtain ⟨fuel', rfl⟩ : ∃ n, fuel' = n + 1 := ⟨fuel' - 1, by omega⟩
      rw [scanAll_succ some, scanAll_succ some]
      exact congrArg ((scan cs).found ++ ·) (ih (by omega) (by omega))

def raw (cs : List Char) : List (List Char × List Char) := scanAll cs.length cs

theorem raw_nil : raw [] = [] := rfl

/-- One scan, and those that follow it. -/
theorem raw_eq {cs : List Char} (some : cs ≠ []) :
    raw cs = (scan cs).found ++ raw (scan cs).rest := by
  have less := length_rest_scan_lt some
  obtain ⟨n, count⟩ : ∃ n, cs.length = n + 1 := ⟨cs.length - 1, by omega⟩
  rw [raw, count, scanAll_succ some, scanAll_congr (by omega) (Nat.le_refl _), raw]

/-! ### Blanks in front of a statement -/

/-- Neither begins with a blank nor with an equals sign. -/
def StartsPlain (cs : List Char) : Prop := ∀ c ∈ cs.head?, Text.isBlank c = false ∧ c ≠ '='

theorem scan_blank {before after body : List Char} {c : Char}
    (blankBefore : ∀ d ∈ before, isTargetChar d = true) (lineBreak : isTargetChar c = false)
    (blank : ∀ d ∈ c :: after, Text.isBlank d = true) (plain : StartsPlain body) :
    scan (before ++ c :: (after ++ body)) = .skip (after ++ body) := by
  have taken : (before ++ c :: (after ++ body)).takeWhile isTargetChar = before := by
    rw [List.takeWhile_append_of_pos blankBefore, List.takeWhile_cons_of_neg (by simp [lineBreak]),
      List.append_nil]
  have left : (before ++ c :: (after ++ body)).dropWhile isTargetChar = c :: (after ++ body) := by
    rw [List.dropWhile_append_of_pos blankBefore, List.dropWhile_cons_of_neg (by simp [lineBreak])]
  have behind : (c :: (after ++ body)).dropWhile Text.isBlank = body := by
    rw [← List.cons_append, List.dropWhile_append_of_pos blank]
    cases body with
    | nil => rfl
    | cons d body => exact List.dropWhile_cons_of_neg (by simp [(plain d rfl).1])
  unfold scan
  simp only [taken, left, behind]
  split
  · next none =>
    obtain rfl : before = [] := by simpa using none
    rfl
  · split
    · exact absurd rfl (plain '=' rfl).2
    · rfl

/-- Up to their last line break, blanks are skipped. -/
theorem exists_raw_blank {front body : List Char}
    (blank : ∀ c ∈ front, Text.isBlank c = true) (plain : StartsPlain body) :
    ∃ left, (∀ c ∈ left, Text.isBlank c = true ∧ isTargetChar c = true) ∧
      raw (front ++ body) = raw (left ++ body) := by
  induction count : front.length using Nat.strongRecOn generalizing front with
  | ind n ih =>
    match broken : front.dropWhile isTargetChar with
    | [] =>
      have chars := List.dropWhile_eq_nil_iff.mp broken
      exact ⟨front, fun c member => ⟨blank c member, chars c member⟩, rfl⟩
    | c :: after =>
      have whole := front.takeWhile_append_dropWhile (p := isTargetChar)
      rw [broken] at whole
      have lineBreak := List.head?_dropWhile_not isTargetChar front
      rw [broken] at lineBreak
      have blankAfter : ∀ d ∈ c :: after, Text.isBlank d = true :=
        fun d member => blank d (whole ▸ List.mem_append_right _ member)
      have skipped : scan (front ++ body) = .skip (after ++ body) := by
        rw [← whole, List.append_assoc, List.cons_append]
        exact scan_blank (fun d member => List.mem_takeWhile_imp member) lineBreak blankAfter plain
      have some : front ++ body ≠ [] := by
        rw [← whole]
        simp
      have shorter : after.length < n := by
        rw [← count, ← whole, List.length_append, List.length_cons]
        omega
      obtain ⟨left, chars, same⟩ :=
        ih after.length shorter (List.forall_mem_cons.mp blankAfter).2 rfl
      refine ⟨left, chars, ?_⟩
      rw [raw_eq some, skipped]
      exact same

/-- Blanks alone hold no statement. -/
theorem raw_of_blank {cs : List Char} (blank : ∀ c ∈ cs, Text.isBlank c = true) : raw cs = [] := by
  have plain : StartsPlain [] := nofun
  obtain ⟨left, chars, same⟩ := exists_raw_blank blank plain
  rw [List.append_nil, List.append_nil] at same
  rw [same]
  by_cases none : left = []
  · rw [none, raw_nil]
  · have taken : left.takeWhile isTargetChar = left :=
      List.takeWhile_eq_self_iff.mpr fun c member => (chars c member).2
    have gone : left.dropWhile isTargetChar = [] :=
      List.dropWhile_eq_nil_iff.mpr fun c member => (chars c member).2
    have skipped : scan left = .skip [] := by
      simp [scan, taken, gone, none]
    rw [raw_eq none, skipped]
    rfl

/-! ### One statement -/

/-- Target and value can be written: they are not empty, have no blanks at their ends and none of
the signs that would end them sooner, and the target does not look declared. -/
structure IsPlain (a : Assignment) : Prop where
  target : a.target ≠ "" ∧ Text.strip a.target = a.target
  targetChars : ∀ c ∈ a.target.toList, c ∉ ['=', ';', '\r', '\n']
  undeclared : ∀ word ∈ ["float ", "int "], Text.startsWith (Text.lower a.target) word = false
  value : a.value ≠ "" ∧ Text.strip a.value = a.value
  valueChars : ∀ c ∈ a.value.toList, c ∉ [';', '\r', '\n']

/-- How a statement is written: the word that declares its target, if there is one, and the blanks
around its parts. -/
structure Spelling where
  declaration : String
  front : List Char
  beforeSign : List Char
  afterSign : List Char
  beforeEnd : List Char
  declared : declaration ∈ ["", "float ", "int "]
  blank : ∀ c ∈ front ++ beforeSign ++ afterSign ++ beforeEnd, Text.isBlank c = true

namespace Spelling

/-- The characters of a statement up to its semicolon. -/
def write (s : Spelling) (a : Assignment) : List Char :=
  s.front ++ ((s.declaration.toList ++ a.target.toList) ++
    (s.beforeSign ++ '=' :: (s.afterSign ++ (a.value.toList ++ s.beforeEnd))))

def clipped (s : Spelling) : Spelling where
  declaration := s.declaration
  front := s.front
  beforeSign := s.beforeSign
  afterSign := s.afterSign
  beforeEnd := []
  declared := s.declared
  blank := by
    intro c member
    rw [List.append_nil] at member
    exact s.blank c (List.mem_append_left _ member)

theorem write_clipped (s : Spelling) (a : Assignment) :
    s.write a = s.clipped.write a ++ s.beforeEnd := by
  simp [write, clipped]

end Spelling

theorem isTargetChar_iff {c : Char} : isTargetChar c = true ↔ c ∉ ['=', ';', '\r', '\n'] := by
  simp [isTargetChar, isLineBreak, and_assoc]

theorem isValueChar_iff {c : Char} : isValueChar c = true ↔ c ∉ [';', '\r', '\n'] := by
  simp [isValueChar, isLineBreak]

/-- A scan stops at the first character that it does not take. -/
theorem span_append {p : Char → Bool} (cs : List Char) {c : Char} (stops : p c = false)
    (rest : List Char) : (cs ++ c :: rest).takeWhile p = cs.takeWhile p ∧
      (cs ++ c :: rest).dropWhile p = cs.dropWhile p ++ c :: rest := by
  induction cs with
  | nil => simp [stops]
  | cons d cs ih => by_cases taken : p d = true <;> simp [taken, ih]

/-- A value ends at its semicolon. The blanks on its line in front of that are read with it. -/
theorem value?_spelled {front value back rest : List Char}
    (blankFront : ∀ c ∈ front, Text.isBlank c = true) (trimmed : Text.IsTrimmed value)
    (chars : ∀ c ∈ value, isValueChar c = true) (blankBack : ∀ c ∈ back, Text.isBlank c = true) :
    value? (front ++ (value ++ (back ++ ';' :: rest))) =
      some (value ++ back.takeWhile isValueChar, rest) := by
  obtain ⟨c, first, notBlank⟩ := trimmed.first
  obtain ⟨others, rfl⟩ := List.head?_eq_some_iff.mp first
  have body : (front ++ (c :: others ++ (back ++ ';' :: rest))).dropWhile Text.isBlank =
      c :: (others ++ (back ++ ';' :: rest)) := by
    rw [List.dropWhile_append_of_pos blankFront, List.cons_append,
      List.dropWhile_cons_of_neg (by simp [notBlank])]
  have semicolon : c ≠ ';' := by
    rintro rfl
    exact absurd (chars ';' List.mem_cons_self) (by decide)
  obtain ⟨taken, left⟩ := span_append (p := isValueChar) back (c := ';') (by decide) rest
  have wholeTaken : (c :: (others ++ (back ++ ';' :: rest))).takeWhile isValueChar =
      c :: others ++ back.takeWhile isValueChar := by
    rw [← List.cons_append, List.takeWhile_append_of_pos chars, taken]
  have blankLeft : ∀ d ∈ back.dropWhile isValueChar, Text.isBlank d = true :=
    fun d member => blankBack d ((List.dropWhile_suffix _).subset member)
  have wholeLeft : ((c :: (others ++ (back ++ ';' :: rest))).dropWhile isValueChar).dropWhile
      Text.isBlank = ';' :: rest := by
    rw [← List.cons_append, List.dropWhile_append_of_pos chars, left,
      List.dropWhile_append_of_pos blankLeft]
    rfl
  unfold value?
  rw [body]
  split
  · next none => cases none
  · next same => exact absurd (List.cons.inj same).1 semicolon
  · rw [wholeLeft, wholeTaken]
    rfl

/-- The first equals sign ends the target. -/
theorem scan_spelled {left word back after : List Char} {value rest : List Char}
    (leftChars : ∀ c ∈ left, isTargetChar c = true) (notEmpty : word ≠ [])
    (wordChars : ∀ c ∈ word, isTargetChar c = true)
    (blankBack : ∀ c ∈ back, Text.isBlank c = true) (read : value? after = some (value, rest)) :
    scan (left ++ (word ++ (back ++ '=' :: after))) =
      .statement (left ++ word ++ back.takeWhile isTargetChar) value rest := by
  obtain ⟨taken, behind⟩ := span_append (p := isTargetChar) back (c := '=') (by decide) after
  have wholeTaken : (left ++ (word ++ (back ++ '=' :: after))).takeWhile isTargetChar =
      left ++ word ++ back.takeWhile isTargetChar := by
    rw [List.takeWhile_append_of_pos leftChars, List.takeWhile_append_of_pos wordChars, taken,
      List.append_assoc]
  have blankBehind : ∀ d ∈ back.dropWhile isTargetChar, Text.isBlank d = true :=
    fun d member => blankBack d ((List.dropWhile_suffix _).subset member)
  have sign : ((left ++ (word ++ (back ++ '=' :: after))).dropWhile isTargetChar).dropWhile
      Text.isBlank = '=' :: after := by
    rw [List.dropWhile_append_of_pos leftChars, List.dropWhile_append_of_pos wordChars, behind,
      List.dropWhile_append_of_pos blankBehind]
    rfl
  simp [scan, wholeTaken, sign, read, notEmpty]

namespace IsPlain

variable {a : Assignment}

theorem trimmed_target (h : a.IsPlain) : Text.IsTrimmed a.target.toList :=
  Text.isTrimmed_of_trim (by simpa using h.target.1) (Text.trim_of_strip h.target.2)

theorem trimmed_value (h : a.IsPlain) : Text.IsTrimmed a.value.toList :=
  Text.isTrimmed_of_trim (by simpa using h.value.1) (Text.trim_of_strip h.value.2)

/-- The word in front of a target is dropped. -/
theorem dropDeclaration_word (h : a.IsPlain) {word : String}
    (starts : word.toList.isPrefixOf ((word.toList ++ a.target.toList).map Char.toLower) = true) :
    dropDeclaration (word.toList ++ a.target.toList) word = a.target.toList := by
  rw [dropDeclaration, if_pos starts, ← String.length_toList, List.drop_left]
  exact Text.trim_of_strip h.target.2

/-- Without it there is none to drop. -/
theorem dropDeclaration_target (h : a.IsPlain) {word : String} (member : word ∈ declarations) :
    dropDeclaration a.target.toList word = a.target.toList := by
  have undeclared := h.undeclared word member
  rw [Text.startsWith, Text.lower, String.toList_ofList] at undeclared
  rw [dropDeclaration, undeclared]
  rfl

theorem foldl_dropDeclaration (h : a.IsPlain) {word : String}
    (declared : word ∈ ["", "float ", "int "]) :
    declarations.foldl dropDeclaration (word.toList ++ a.target.toList) = a.target.toList := by
  have float : dropDeclaration a.target.toList "float " = a.target.toList :=
    h.dropDeclaration_target (by decide)
  have int : dropDeclaration a.target.toList "int " = a.target.toList :=
    h.dropDeclaration_target (by decide)
  simp only [List.mem_cons, List.not_mem_nil, or_false] at declared
  simp only [declarations, List.foldl_cons, List.foldl_nil]
  rcases declared with rfl | rfl | rfl
  · have plain : "".toList ++ a.target.toList = a.target.toList := rfl
    rw [plain, float, int]
  · rw [h.dropDeclaration_word rfl, int]
  · have other : dropDeclaration ("int ".toList ++ a.target.toList) "float " =
        "int ".toList ++ a.target.toList := rfl
    rw [other, h.dropDeclaration_word rfl]

/-- A target with the word in front of it is trimmed like the target. -/
theorem trimmed_word (h : a.IsPlain) {word : String}
    (declared : word ∈ ["", "float ", "int "]) :
    Text.IsTrimmed (word.toList ++ a.target.toList) := by
  obtain ⟨first, last⟩ := h.trimmed_target
  simp only [List.mem_cons, List.not_mem_nil, or_false] at declared
  have final : ∃ c, (word.toList ++ a.target.toList).getLast? = some c ∧
      Text.isBlank c = false := by
    obtain ⟨c, last, notBlank⟩ := last
    exact ⟨c, by simp [last], notBlank⟩
  rcases declared with rfl | rfl | rfl
  · exact ⟨first, final⟩
  · exact ⟨⟨'f', rfl, by decide⟩, final⟩
  · exact ⟨⟨'i', rfl, by decide⟩, final⟩

theorem wordChars (h : a.IsPlain) {word : String} (declared : word ∈ ["", "float ", "int "]) :
    ∀ c ∈ word.toList ++ a.target.toList, isTargetChar c = true := by
  have ofWord : ∀ c ∈ word.toList, isTargetChar c = true := by
    simp only [List.mem_cons, List.not_mem_nil, or_false] at declared
    rcases declared with rfl | rfl | rfl <;> exact List.all_eq_true.mp rfl
  intro c member
  rcases List.mem_append.mp member with inWord | inTarget
  · exact ofWord c inWord
  · exact isTargetChar_iff.mpr (h.targetChars c inTarget)

/-- The blanks that were read with a target or with a value do not belong to it. -/
theorem ofRaw?_spelled (h : a.IsPlain) {word : String}
    (declared : word ∈ ["", "float ", "int "]) {front back back' : List Char}
    (blankFront : ∀ c ∈ front, Text.isBlank c = true)
    (blankBack : ∀ c ∈ back, Text.isBlank c = true)
    (blankBack' : ∀ c ∈ back', Text.isBlank c = true) :
    ofRaw? (front ++ (word.toList ++ a.target.toList) ++ back, a.value.toList ++ back') =
      some a := by
  have target := (h.trimmed_word declared).trim_append blankFront blankBack
  have value : Text.trim ([] ++ a.value.toList ++ back') = a.value.toList :=
    h.trimmed_value.trim_append nofun blankBack'
  rw [List.nil_append] at value
  have some : (a.target.toList.isEmpty || a.value.toList.isEmpty) = false := by
    simp [h.target.1, h.value.1]
  unfold ofRaw?
  dsimp only
  rw [target, value, h.foldl_dropDeclaration declared, some]
  simp

theorem startsPlain_word (h : a.IsPlain) {word : String} (declared : word ∈ ["", "float ", "int "])
    (rest : List Char) : StartsPlain (word.toList ++ a.target.toList ++ rest) := by
  obtain ⟨c, first, notBlank⟩ := (h.trimmed_word declared).first
  intro d front
  obtain rfl : c = d := by
    rw [List.head?_append, first] at front
    exact Option.some.inj front
  refine ⟨notBlank, ?_⟩
  rintro rfl
  exact absurd (h.wordChars declared '=' (List.mem_of_mem_head? first)) (by decide)

/-- A statement is found and read, and what follows its semicolon is scanned next. -/
theorem exists_raw_write (h : a.IsPlain) (s : Spelling) (rest : List Char) :
    ∃ found, raw (s.write a ++ ';' :: rest) = found :: raw rest ∧ ofRaw? found = some a := by
  have blank := s.blank
  simp only [List.forall_mem_append] at blank
  obtain ⟨⟨⟨blankFront, blankBefore⟩, blankAfter⟩, blankEnd⟩ := blank
  have notEmpty : s.declaration.toList ++ a.target.toList ≠ [] := by
    simp [h.target.1]
  have read : value? (s.afterSign ++ (a.value.toList ++ (s.beforeEnd ++ ';' :: rest))) =
      some (a.value.toList ++ s.beforeEnd.takeWhile isValueChar, rest) :=
    value?_spelled blankAfter h.trimmed_value
      (fun d member => isValueChar_iff.mpr (h.valueChars d member)) blankEnd
  obtain ⟨left, leftChars, same⟩ := exists_raw_blank blankFront (h.startsPlain_word s.declared
    (s.beforeSign ++ '=' :: (s.afterSign ++ (a.value.toList ++ (s.beforeEnd ++ ';' :: rest)))))
  have found := scan_spelled (fun d member => (leftChars d member).2) notEmpty
    (h.wordChars s.declared) blankBefore read
  have blankTarget : ∀ d ∈ s.beforeSign.takeWhile isTargetChar, Text.isBlank d = true :=
    fun d member => blankBefore d ((List.takeWhile_prefix _).subset member)
  have blankValue : ∀ d ∈ s.beforeEnd.takeWhile isValueChar, Text.isBlank d = true :=
    fun d member => blankEnd d ((List.takeWhile_prefix _).subset member)
  refine ⟨_, ?_, h.ofRaw?_spelled s.declared (fun d member => (leftChars d member).1) blankTarget
    blankValue⟩
  have text : s.write a ++ ';' :: rest =
      s.front ++ (s.declaration.toList ++ a.target.toList ++ (s.beforeSign ++
        '=' :: (s.afterSign ++ (a.value.toList ++ (s.beforeEnd ++ ';' :: rest))))) := by
    simp [Spelling.write]
  rw [text, same, raw_eq (by simp), found]
  rfl

end IsPlain

/-! ### Statement after statement -/

/-- Statements as they are written, with semicolons between them and one at the end if `ended`. -/
def writeAll (ended : Bool) : List (Spelling × Assignment) → List Char
  | [] => []
  | [(s, a)] => s.write a ++ if ended then [';'] else []
  | (s, a) :: next :: rest => s.write a ++ ';' :: writeAll ended (next :: rest)

theorem writeAll_true_cons (s : Spelling) (a : Assignment) (rest : List (Spelling × Assignment)) :
    writeAll true ((s, a) :: rest) = s.write a ++ ';' :: writeAll true rest := by
  cases rest <;> rfl

/-- Every statement but the last one has its semicolon. -/
theorem writeAll_append (ended : Bool) (written : List (Spelling × Assignment)) (s : Spelling)
    (a : Assignment) : writeAll ended (written ++ [(s, a)]) =
      writeAll true written ++ (s.write a ++ if ended then [';'] else []) := by
  induction written with
  | nil => rfl
  | cons entry rest ih =>
    obtain ⟨s', a'⟩ := entry
    have again : writeAll ended ((s', a') :: rest ++ [(s, a)]) =
        s'.write a' ++ ';' :: writeAll ended (rest ++ [(s, a)]) := by
      cases rest <;> rfl
    rw [again, ih, writeAll_true_cons, List.append_assoc, List.cons_append]

/-- Statements with all their semicolons are found one after the other. -/
theorem filterMap_raw_writeAll {written : List (Spelling × Assignment)}
    (plain : ∀ entry ∈ written, entry.2.IsPlain) {back : List Char}
    (blank : ∀ c ∈ back, Text.isBlank c = true) :
    (raw (writeAll true written ++ back)).filterMap ofRaw? = written.map (·.2) := by
  induction written with
  | nil => rw [writeAll, List.nil_append, raw_of_blank blank]; rfl
  | cons entry rest ih =>
    obtain ⟨s, a⟩ := entry
    obtain ⟨first, others⟩ := List.forall_mem_cons.mp plain
    obtain ⟨found, split, read⟩ := first.exists_raw_write s (writeAll true rest ++ back)
    rw [writeAll_true_cons, List.append_assoc, List.cons_append, split, List.filterMap_cons, read]
    exact congrArg (a :: ·) (ih others)

/-- A text that ends with a semicolon stays as it is. -/
theorem terminated_of_ended (cs : List Char) {back : List Char}
    (blank : ∀ c ∈ back, Text.isBlank c = true) :
    terminated (cs ++ ';' :: back) = cs ++ ';' :: back := by
  have trimmed : Text.trimRightIf Text.isBlank (cs ++ ';' :: back) = cs ++ [';'] := by
    rw [List.append_cons, Text.trimRightIf_append _ blank]
    exact Text.trimRightIf_eq_self (by simp; decide)
  rw [terminated, trimmed]
  simp

/-- Any other text gets a semicolon in the place of its last blanks. -/
theorem terminated_of_not_ended {cs back : List Char}
    (last : ∀ c ∈ cs.getLast?, Text.isBlank c = false ∧ c ≠ ';')
    (blank : ∀ c ∈ back, Text.isBlank c = true) : terminated (cs ++ back) = cs ++ [';'] := by
  have trimmed : Text.trimRightIf Text.isBlank (cs ++ back) = cs := by
    rw [Text.trimRightIf_append _ blank]
    exact Text.trimRightIf_eq_self fun c final => (last c final).1
  rw [terminated, trimmed]
  refine if_neg fun semicolon => ?_
  exact (last ';' (by simpa using semicolon)).2 rfl

theorem IsPlain.last_clipped {a : Assignment} (h : a.IsPlain) (front : List Char) (s : Spelling) :
    ∀ c ∈ (front ++ s.clipped.write a).getLast?, Text.isBlank c = false ∧ c ≠ ';' := by
  obtain ⟨c, last, notBlank⟩ := h.trimmed_value.last
  have final : (front ++ s.clipped.write a).getLast? = some c := by
    simp [Spelling.write, Spelling.clipped, List.getLast?_append, List.getLast?_cons, last]
  rintro d same
  obtain rfl := Option.some.inj (final.symm.trans same)
  refine ⟨notBlank, ?_⟩
  rintro rfl
  exact h.valueChars ';' (List.mem_of_getLast? last) (by decide)

/-- A missing semicolon is put behind the last value, so the statements are all ended. -/
theorem exists_terminated_writeAll (ended : Bool) {written : List (Spelling × Assignment)}
    (some : written ≠ []) (plain : ∀ entry ∈ written, entry.2.IsPlain) {back : List Char}
    (blank : ∀ c ∈ back, Text.isBlank c = true) :
    ∃ written' back', written'.map (·.2) = written.map (·.2) ∧
      (∀ c ∈ back', Text.isBlank c = true) ∧
      terminated (writeAll ended written ++ back) = writeAll true written' ++ back' := by
  obtain ⟨others, ⟨s, a⟩, rfl⟩ := List.eq_nil_or_concat written |>.resolve_left some
  have last : a.IsPlain := plain (s, a) (by simp)
  rw [List.concat_eq_append, writeAll_append]
  cases ended with
  | true =>
    refine ⟨others ++ [(s, a)], back, rfl, blank, ?_⟩
    rw [writeAll_append]
    simpa using terminated_of_ended (writeAll true others ++ s.write a) blank
  | false =>
    have blankEnd : ∀ c ∈ s.beforeEnd ++ back, Text.isBlank c = true := by
      intro c member
      rcases List.mem_append.mp member with inEnd | inBack
      · exact s.blank c (List.mem_append_right _ inEnd)
      · exact blank c inBack
    refine ⟨others ++ [(s.clipped, a)], [], by simp, nofun, ?_⟩
    rw [writeAll_append, s.write_clipped]
    simpa using terminated_of_not_ended (last.last_clipped (writeAll true others) s) blankEnd

/-- Reading undoes writing: statements are read back in order, however they are spelled, with blanks
behind them and with or without the last semicolon. -/
theorem parse_writeAll (ended : Bool) (written : List (Spelling × Assignment))
    (plain : ∀ entry ∈ written, entry.2.IsPlain) (back : List Char)
    (blank : ∀ c ∈ back, Text.isBlank c = true) :
    parse (.ofList (writeAll ended written ++ back)) = written.map (·.2) := by
  rw [parse, String.toList_ofList]
  change (raw (terminated (writeAll ended written ++ back))).filterMap ofRaw? = _
  by_cases some : written = []
  · subst some
    have alone : terminated ([] ++ back) = [] ++ [';'] := terminated_of_not_ended nofun blank
    rw [writeAll, alone]
    rfl
  · obtain ⟨written', back', same, blank', text⟩ :=
      exists_terminated_writeAll ended some plain blank
    have plain' : ∀ entry ∈ written', entry.2.IsPlain := by
      rw [← List.forall_mem_map (f := Prod.snd) (P := IsPlain), same]
      exact List.forall_mem_map.mpr plain
    rw [text, filterMap_raw_writeAll plain' blank', same]

/-- A declared target, line breaks inside of a statement, a comparison for a value, and no semicolon
at the end. -/
theorem parse_writeAll_unended :
    IsPlain ⟨"$x", "2"⟩ ∧ IsPlain ⟨"ball.ty", "a == b"⟩ ∧
      parse "\n float $x\t=\n 2 ;\r\n ball.ty = a == b \n" =
        [⟨"$x", "2"⟩, ⟨"ball.ty", "a == b"⟩] := by
  have first : IsPlain ⟨"$x", "2"⟩ :=
    ⟨⟨by decide, rfl⟩, by simp, by decide, ⟨by decide, rfl⟩, by simp⟩
  have second : IsPlain ⟨"ball.ty", "a == b"⟩ :=
    ⟨⟨by decide, rfl⟩, by simp, by decide, ⟨by decide, rfl⟩, by simp⟩
  have plain : ∀ a ∈ [⟨"$x", "2"⟩, ⟨"ball.ty", "a == b"⟩], IsPlain a :=
    List.forall_mem_cons.mpr ⟨first, List.forall_mem_singleton.mpr second⟩
  have read := parse_writeAll false
    [(⟨"float ", ['\n', ' '], ['\t'], ['\n', ' '], [' '], by decide, List.all_eq_true.mp rfl⟩,
        ⟨"$x", "2"⟩),
      (⟨"", ['\r', '\n', ' '], [' '], [' '], [' '], by decide, List.all_eq_true.mp rfl⟩,
        ⟨"ball.ty", "a == b"⟩)]
    (List.forall_mem_map.mp plain) ['\n'] (List.all_eq_true.mp rfl)
  refine ⟨first, second, ?_⟩
  simpa [writeAll, Spelling.write] using read

end Expr.Assignment

end PlugGraph
