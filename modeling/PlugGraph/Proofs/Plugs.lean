import Mathlib.Data.List.DropRight
import PlugGraph.Plug

/-!
# Texts of plugs

Normalizing takes blanks and one pair of quotes away, so it may change its own result: what it
leaves alone neither begins nor ends with a blank. The texts that formulas make up for the
attributes of a node are of this kind, because their nodes come from such texts and their attributes
end in a letter, a digit or a bracket. They split into the same node and attribute again.
-/

namespace PlugGraph

namespace Text

variable {cs : List Char}

theorem length_trim_le (cs : List Char) : (trim cs).length ≤ cs.length :=
  (List.rdropWhile_prefix isBlank (l := cs.dropWhile isBlank)).length_le.trans
    (cs.length_dropWhile_le isBlank)

/-- What ends in another character than those to trim is not trimmed on the right. -/
theorem trimRightIf_eq_self {p : Char → Bool} (last : ∀ c ∈ cs.getLast?, p c = false) :
    trimRightIf p cs = cs := by
  refine List.rdropWhile_eq_self_iff.mpr fun some => ?_
  simp [last _ (List.getLast?_eq_some_getLast some)]

/-- What begins and ends with other characters than those to trim is not trimmed. -/
theorem trimIf_eq_self {p : Char → Bool} (first : ∀ c ∈ cs.head?, p c = false)
    (last : ∀ c ∈ cs.getLast?, p c = false) : trimIf p cs = cs := by
  cases cs with
  | nil => rfl
  | cons c rest =>
    have left : trimLeftIf p (c :: rest) = c :: rest :=
      List.dropWhile_cons_of_neg (by simp [first c rfl])
    rw [trimIf, left, trimRightIf_eq_self last]

theorem trim_eq_self (first : ∀ c ∈ cs.head?, isBlank c = false)
    (last : ∀ c ∈ cs.getLast?, isBlank c = false) : trim cs = cs :=
  trimIf_eq_self first last

theorem not_isBlank_of_trim {c : Char} (fixed : trim cs = cs) (first : cs.head? = some c) :
    isBlank c = false := by
  have long : cs.length ≤ (cs.dropWhile isBlank).length := by
    have short := (List.rdropWhile_prefix isBlank (l := cs.dropWhile isBlank)).length_le
    rwa [show (cs.dropWhile isBlank).rdropWhile isBlank = cs from fixed] at short
  have whole := (List.dropWhile_suffix isBlank).eq_of_length_le long
  obtain ⟨rest, rfl⟩ := List.head?_eq_some_iff.mp first
  simpa using List.dropWhile_eq_self_iff.mp whole (Nat.zero_lt_succ _)

end Text

namespace Attr

variable {name : String} {c : Char}

/-- Whether a name may end in a character: trimming and unquoting leave it alone, and it is more
than the dot that some names begin with. -/
def isPlainEnd (c : Char) : Bool := !Text.isBlank c && c != '"' && c != '.'

/-- Whether the last character of a name is a plain one. -/
def isPlain (name : String) : Bool := name.toList.getLast?.any isPlainEnd

theorem isPlain_push (name : String) (plain : isPlainEnd c = true) :
    isPlain (name.push c) = true := by
  simp [isPlain, plain]

theorem isPlain_append (front : String) (plain : isPlain name = true) :
    isPlain (front ++ name) = true := by
  obtain ⟨c, last, fine⟩ := (Option.any_eq_true _ _).mp plain
  simp [isPlain, List.getLast?_append, last, fine]

theorem isPlain_element (array : String) (index : Int) : isPlain (element array index) = true :=
  isPlain_append _ (by decide)

/-- Without a dot in front a plain name still ends as it does. -/
theorem getLast?_withoutDot (plain : isPlain name = true) :
    ∃ c, (withoutDot name).toList.getLast? = some c ∧ isPlainEnd c = true := by
  obtain ⟨c, last, fine⟩ := (Option.any_eq_true _ _).mp plain
  refine ⟨c, ?_, fine⟩
  rw [withoutDot, String.toList_ofList, ← last]
  unfold dropDot
  split
  · next rest chars =>
    rw [chars] at last ⊢
    cases rest with
    | nil =>
      cases last
      cases fine
    | cons => rfl
  · rfl

end Attr

namespace Plug

variable {cs : List Char} {text node attr : String} {plug : Plug}

theorem normalize_of_blank (blank : Text.isBlankText text = true) : normalize text = "" := by
  have trimmed : Text.trim text.toList = [] := by
    rw [Text.isBlankText, List.all_eq_true] at blank
    rw [Text.trim, Text.trimIf, Text.trimLeftIf, List.dropWhile_eq_nil_iff.mpr blank]
    rfl
  rw [normalize, normalizeChars, trimmed]

theorem trim_of_normalizeChars (fixed : normalizeChars cs = cs) : Text.trim cs = cs := by
  have short := Text.length_trim_le cs
  unfold normalizeChars at fixed
  split at fixed
  · next rest trimmed =>
    split at fixed
    · rw [trimmed, ← fixed] at short
      simp only [List.length_cons, List.length_dropLast] at short
      omega
    · exact trimmed.trans fixed
  · exact fixed

theorem normalizeChars_of_normalize (fixed : normalize text = text) :
    normalizeChars text.toList = text.toList := by
  have chars := congrArg String.toList fixed
  rwa [normalize, String.toList_ofList] at chars

/-- What begins and ends with other characters than blanks, and does not end with a quote, is left
alone. -/
theorem normalizeChars_eq_self (first : ∀ c ∈ cs.head?, Text.isBlank c = false)
    (last : ∀ c ∈ cs.getLast?, Text.isBlank c = false ∧ c ≠ '"') : normalizeChars cs = cs := by
  rw [normalizeChars, Text.trim_eq_self first fun c ends => (last c ends).1]
  split
  · next rest =>
    split
    · next quoted =>
      have ends : ('"' :: rest).getLast? = some '"' := by
        rw [List.getLast?_cons, beq_iff_eq.mp quoted]
        rfl
      exact absurd rfl (last '"' ends).2
    · rfl
  · rfl

/-- The part of a plug's text in front of the first dot. -/
structure IsNode (node : String) : Prop where
  first : ∃ c, node.toList.head? = some c ∧ Text.isBlank c = false
  noDot : '.' ∉ node.toList

theorem isNode_of_ofText? (fixed : normalize text = text) (split : ofText? text = some plug) :
    IsNode plug.node := by
  have chars := normalizeChars_of_normalize fixed
  simp only [ofText?, chars, Option.ite_none_left_eq_some, Option.some.injEq, Bool.or_eq_true,
    List.isEmpty_iff, not_or] at split
  obtain ⟨⟨notEmpty, -⟩, rfl⟩ := split
  obtain ⟨c, rest, node⟩ := List.exists_cons_of_ne_nil notEmpty
  have front : text.toList.head? = some c := by
    have same := text.toList.takeWhile_append_dropWhile (p := (· != '.'))
    rw [node] at same
    rw [← same]
    rfl
  refine ⟨⟨c, ?_, Text.not_isBlank_of_trim (trim_of_normalizeChars chars) front⟩, ?_⟩
  · rw [String.toList_ofList, node]
    rfl
  · rw [String.toList_ofList]
    intro member
    simpa using List.mem_takeWhile_imp member

/-- What stands in front of the dot in a normalized text is the part of a plug. -/
theorem isNode_of_join (fixed : normalize (join node attr) = join node attr) (named : node ≠ "")
    (noDot : '.' ∉ node.toList) : IsNode node := by
  have notEmpty : node.toList ≠ [] := by simpa using named
  obtain ⟨c, rest, chars⟩ := List.exists_cons_of_ne_nil notEmpty
  have trimmed := trim_of_normalizeChars (normalizeChars_of_normalize fixed)
  have front : (join node attr).toList.head? = some c := by simp [join, chars]
  exact ⟨⟨c, by rw [chars]; rfl, Text.not_isBlank_of_trim trimmed front⟩, noDot⟩

/-- The text of a node's attribute is normalized and splits into the two again. -/
theorem ofText?_named (h : IsNode node) (plain : Attr.isPlain attr = true) :
    normalize (named node attr) = named node attr ∧
      ofText? (named node attr) = some ⟨node, Attr.withoutDot attr⟩ := by
  obtain ⟨first, front, notBlank⟩ := h.first
  obtain ⟨last, back, fine⟩ := Attr.getLast?_withoutDot plain
  simp only [Attr.isPlainEnd, Bool.and_eq_true, Bool.not_eq_true', bne_iff_ne] at fine
  have chars : (named node attr).toList = node.toList ++ '.' :: (Attr.withoutDot attr).toList := by
    simp [named, join]
  have fixed : normalizeChars (named node attr).toList = (named node attr).toList := by
    refine normalizeChars_eq_self ?_ ?_ <;> rw [chars] <;> intro c found
    · rw [List.head?_append, front] at found
      obtain rfl := Option.some.inj found
      exact notBlank
    · rw [List.getLast?_append, List.getLast?_cons, back] at found
      obtain rfl := Option.some.inj found
      exact fine.1
  have before : (named node attr).toList.takeWhile (· != '.') = node.toList := by
    rw [chars, List.takeWhile_append_of_pos fun c member => ?_]
    · simp
    · exact bne_iff_ne.mpr (ne_of_mem_of_not_mem member h.noDot)
  have after : ((named node attr).toList.dropWhile (· != '.')).drop 1 =
      (Attr.withoutDot attr).toList := by
    rw [chars, List.dropWhile_append_of_pos fun c member => ?_]
    · simp
    · exact bne_iff_ne.mpr (ne_of_mem_of_not_mem member h.noDot)
  refine ⟨by rw [normalize, fixed, String.ofList_toList], ?_⟩
  have someNode : node.toList.isEmpty = false := by
    rw [← Bool.not_eq_true, List.isEmpty_iff, ← List.head?_eq_none_iff, front]
    exact nofun
  have someAttr : (Attr.withoutDot attr).toList.isEmpty = false := by
    rw [← Bool.not_eq_true, List.isEmpty_iff, ← List.getLast?_eq_none_iff, back]
    exact nofun
  simp only [ofText?, fixed, before, after, someNode, someAttr, Bool.or_self, Bool.false_eq_true,
    if_false, String.ofList_toList]

end Plug

end PlugGraph
