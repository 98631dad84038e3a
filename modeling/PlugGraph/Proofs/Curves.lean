import Mathlib.Data.List.Induction
import Mathlib.Data.List.Sort
import Mathlib.Order.Interval.Set.UnorderedInterval
import Mathlib.Tactic.LinearCombination
import Mathlib.Tactic.Linarith
import Mathlib.Tactic.NormNum
import PlugGraph.Curve
import PlugGraph.Proofs.Exact

/-!
# Curves over exact scalars

Keys are merged before they are sorted, so the times of a curve ascend and each of them has the
value that was declared for it last. Bisection keeps a bracket around the parameter: what lies
before it is not above the parameter, and what lies behind it is. The bracket closes between two
neighbours, so a curve has a value everywhere, and the value is on the line between these
(`ofKeys_interpolates`).
-/

namespace PlugGraph.Curve

/-! ### Bisection -/

section Bisection

variable {β : Type} {above : β → Bool} {items : List β} {lo hi : Nat}

/-- What lies before `lo` is not above, and what lies from `hi` on is. -/
structure Brackets (above : β → Bool) (items : List β) (lo hi : Nat) : Prop where
  le : lo ≤ hi
  length : hi ≤ items.length
  before : ∀ i item, items[i]? = some item → i < lo → above item = false
  behind : ∀ i item, items[i]? = some item → hi ≤ i → above item = true

/-- Once an item is above, so are all that follow it. -/
def Ascends (above : β → Bool) (items : List β) : Prop :=
  items.Pairwise fun item later => above item = true → above later = true

theorem Ascends.above_of_le (h : Ascends above items) {i j : Nat} {item later : β}
    (first : items[i]? = some item) (second : items[j]? = some later) (le : i ≤ j)
    (up : above item = true) : above later = true := by
  rcases Nat.eq_or_lt_of_le le with rfl | less
  · obtain rfl := Option.some.inj (first.symm.trans second)
    exact up
  · obtain ⟨short, rfl⟩ := List.getElem?_eq_some_iff.mp first
    obtain ⟨short', rfl⟩ := List.getElem?_eq_some_iff.mp second
    exact List.pairwise_iff_getElem.mp h i j short short' less up

theorem brackets_all (above : β → Bool) (items : List β) :
    Brackets above items 0 items.length where
  le := Nat.zero_le _
  length := Nat.le_refl _
  before := nofun
  behind i item found beyond := by
    obtain ⟨short, -⟩ := List.getElem?_eq_some_iff.mp found
    omega

namespace Brackets

variable {middle : Nat} {item : β}

/-- An item that is above closes a bracket from behind. -/
theorem upTo (h : Brackets above items lo hi) (ascends : Ascends above items)
    (found : items[middle]? = some item) (inside : lo ≤ middle ∧ middle < hi)
    (up : above item = true) : Brackets above items lo middle where
  le := inside.1
  length := inside.2.le.trans h.length
  before := h.before
  behind _ _ later le := ascends.above_of_le found later le up

/-- An item that is not above closes a bracket from the front. -/
theorem behindOf (h : Brackets above items lo hi) (ascends : Ascends above items)
    (found : items[middle]? = some item) (inside : lo ≤ middle ∧ middle < hi)
    (down : above item = false) : Brackets above items (middle + 1) hi where
  le := inside.2
  length := h.length
  before i earlier first less := by
    by_contra up
    have up' : above item = true :=
      ascends.above_of_le first found (Nat.le_of_lt_succ less) (by simpa using up)
    simp [down] at up'
  behind := h.behind

/-- Halving goes on until a bracket is closed. -/
theorem bisect (ascends : Ascends above items) (fuel : Nat) (h : Brackets above items lo hi)
    (enough : hi - lo ≤ fuel) :
    Brackets above items (Curve.bisect above items fuel lo hi)
      (Curve.bisect above items fuel lo hi) := by
  induction fuel generalizing lo hi with
  | zero =>
    obtain rfl : lo = hi := by
      have := h.le
      omega
    exact h
  | succ fuel ih =>
    by_cases less : lo < hi
    · have inside : lo ≤ (lo + hi) / 2 ∧ (lo + hi) / 2 < hi := by omega
      have short : (lo + hi) / 2 < items.length := inside.2.trans_le h.length
      have found := List.getElem?_eq_getElem short
      rw [Curve.bisect, if_pos less]
      simp only [found]
      split
      · next up => exact ih (h.upTo ascends found inside up) (by omega)
      · next down => exact ih (h.behindOf ascends found inside (by simpa using down)) (by omega)
    · obtain rfl : lo = hi := by
        have := h.le
        omega
      rw [Curve.bisect, if_neg less]
      exact h

end Brackets

end Bisection

/-! ### Merging and sorting -/

variable {α : Type} {keys : List (α × α)}

/-- A key is the last one declared at its time. -/
def IsLast (keys : List (α × α)) (key : α × α) : Prop :=
  ∃ front back, keys = front ++ key :: back ∧ ∀ later ∈ back, later.1 ≠ key.1

theorem isLast_append_singleton {key other : α × α} :
    IsLast (keys ++ [key]) other ↔ other = key ∨ IsLast keys other ∧ other.1 ≠ key.1 := by
  constructor
  · rintro ⟨front, back, split, apart⟩
    rcases List.eq_nil_or_concat back with rfl | ⟨others, final, rfl⟩
    · exact .inl (List.singleton_inj.mp (List.append_inj_right' split rfl)).symm
    · rw [List.concat_eq_append, ← List.cons_append, ← List.append_assoc] at split
      obtain ⟨rfl, same⟩ := List.append_inj' split rfl
      obtain rfl := List.singleton_inj.mp same
      refine .inr ⟨⟨front, others, rfl, fun later member => apart later (by simp [member])⟩, ?_⟩
      exact (apart key (by simp)).symm
  · rintro (rfl | ⟨⟨front, back, rfl, apart⟩, differs⟩)
    · exact ⟨keys, [], rfl, nofun⟩
    · refine ⟨front, back ++ [key], by simp, fun later member => ?_⟩
      rcases List.mem_append.mp member with inBack | isKey
      · exact apart later inBack
      · rw [List.mem_singleton.mp isKey]
        exact differs.symm

/-- Without repeated times every key is the last one at its time. -/
theorem isLast_iff_mem (distinct : (keys.map (·.1)).Nodup) {key : α × α} :
    IsLast keys key ↔ key ∈ keys := by
  constructor
  · rintro ⟨front, back, rfl, -⟩
    simp
  · intro member
    obtain ⟨front, back, rfl⟩ := List.append_of_mem member
    refine ⟨front, back, rfl, fun later inBack same => ?_⟩
    simp only [List.map_append, List.map_cons, List.nodup_append, List.nodup_cons] at distinct
    exact distinct.2.1.1 (List.mem_map.mpr ⟨later, inBack, same⟩)

variable [ExactScalar α] {first last left right key : α × α} {p y : α}

theorem setKey_cons (key head : α × α) (rest : List (α × α)) :
    setKey key (head :: rest) =
      if head.1 = key.1 then key :: rest else head :: setKey key rest := by
  rw [setKey]
  by_cases same : head.1 = key.1
  · rw [if_pos (beq_iff_eq.mpr same), if_pos same, same]
  · rw [if_neg (by simpa using same), if_neg same]

/-- Setting a key replaces the one at its time. -/
theorem mem_setKey (distinct : (keys.map (·.1)).Nodup) {other : α × α} :
    other ∈ setKey key keys ↔ other = key ∨ other ∈ keys ∧ other.1 ≠ key.1 := by
  induction keys with
  | nil => simp [setKey]
  | cons head rest ih =>
    obtain ⟨absent, distinct⟩ := List.nodup_cons.mp distinct
    rw [setKey_cons, List.mem_cons, or_and_right]
    split
    · next same =>
      have goes : ¬(other = head ∧ other.1 ≠ key.1) := by
        rintro ⟨rfl, differs⟩
        exact differs same
      have stays : other ∈ rest → other.1 ≠ key.1 := by
        intro member again
        exact absent (List.mem_map.mpr ⟨other, member, again.trans same.symm⟩)
      rw [List.mem_cons, or_iff_right goes, and_iff_left_of_imp stays]
    · next apart =>
      have stays : other = head → other.1 ≠ key.1 := by
        rintro rfl
        exact apart
      rw [List.mem_cons, ih distinct, and_iff_left_of_imp stays, or_left_comm]

theorem nodup_setKey (key : α × α) (distinct : (keys.map (·.1)).Nodup) :
    ((setKey key keys).map (·.1)).Nodup := by
  induction keys with
  | nil => exact List.nodup_singleton _
  | cons head rest ih =>
    obtain ⟨absent, others⟩ := List.nodup_cons.mp distinct
    rw [setKey_cons]
    split
    · next same =>
      rw [List.map_cons, ← same]
      exact distinct
    · next apart =>
      refine List.nodup_cons.mpr ⟨fun again => ?_, ih others⟩
      obtain ⟨other, member, time⟩ := List.mem_map.mp again
      rcases (mem_setKey others).mp member with rfl | ⟨inRest, -⟩
      · exact apart time.symm
      · exact absent (List.mem_map.mpr ⟨other, inRest, time⟩)

/-- The keys of a curve before they are sorted. -/
def mergeKeys (keys : List (α × α)) : List (α × α) :=
  keys.foldl (fun keys key => setKey key keys) []

theorem mergeKeys_append_singleton (keys : List (α × α)) (key : α × α) :
    mergeKeys (keys ++ [key]) = setKey key (mergeKeys keys) := by
  rw [mergeKeys, List.foldl_append]
  rfl

theorem nodup_mergeKeys (keys : List (α × α)) : ((mergeKeys keys).map (·.1)).Nodup := by
  induction keys using List.reverseRecOn with
  | nil => exact List.nodup_nil
  | append_singleton keys key ih =>
    rw [mergeKeys_append_singleton]
    exact nodup_setKey key ih

theorem mem_mergeKeys : key ∈ mergeKeys keys ↔ IsLast keys key := by
  induction keys using List.reverseRecOn with
  | nil => simp [mergeKeys, IsLast]
  | append_singleton keys other ih =>
    rw [mergeKeys_append_singleton, mem_setKey (nodup_mergeKeys keys), ih,
      isLast_append_singleton]

def Ascending (keys : List (α × α)) : Prop := keys.Pairwise fun key later => key.1 < later.1

theorem sortKeys_perm (keys : List (α × α)) : (sortKeys keys).Perm keys := by
  have reflexive : (keys.all fun key => key.1 == key.1) = true := by simp
  rw [sortKeys, if_pos reflexive]
  exact List.mergeSort_perm keys _

theorem ascending_sortKeys (distinct : (keys.map (·.1)).Nodup) : Ascending (sortKeys keys) := by
  have reflexive : (keys.all fun key => key.1 == key.1) = true := by simp
  have apart : (sortKeys keys).Pairwise fun key later => key.1 ≠ later.1 :=
    List.pairwise_map.mp (((sortKeys_perm keys).map _).nodup_iff.mpr distinct)
  have sorted : (sortKeys keys).Pairwise fun key later => key.1 ≤ later.1 := by
    rw [sortKeys, if_pos reflexive]
    refine (List.pairwise_mergeSort ?_ ?_ keys).imp of_decide_eq_true
    · intro a b c ab bc
      exact decide_eq_true ((of_decide_eq_true ab).trans (of_decide_eq_true bc))
    · intro a b
      simpa using le_total a.1 b.1
  exact sorted.imp₂ (fun _ _ le ne => lt_of_le_of_ne le ne) apart

/-- What a curve makes of the keys it is given: times ascend, they are those of the keys, and at
each of them stands the key that was declared last. -/
structure Merges (keys merged : List (α × α)) : Prop where
  ascending : Ascending merged
  times : ∀ t, t ∈ merged.map (·.1) ↔ t ∈ keys.map (·.1)
  last : ∀ key, key ∈ merged ↔ IsLast keys key

theorem exists_isLast (member : p ∈ keys.map (·.1)) : ∃ y, IsLast keys (p, y) := by
  induction keys using List.reverseRecOn with
  | nil => cases member
  | append_singleton keys key ih =>
    simp only [isLast_append_singleton]
    by_cases same : key.1 = p
    · exact ⟨key.2, .inl (by rw [← same])⟩
    · have earlier : p ∈ keys.map (·.1) := by
        rw [List.map_append, List.mem_append] at member
        exact member.resolve_right fun isKey => same (List.mem_singleton.mp isKey).symm
      obtain ⟨y, last⟩ := ih earlier
      exact ⟨y, .inr ⟨last, fun again => same again.symm⟩⟩

theorem mem_ofKeys : key ∈ (ofKeys keys).keys ↔ IsLast keys key :=
  (sortKeys_perm (mergeKeys keys)).mem_iff.trans mem_mergeKeys

theorem merges_ofKeys (keys : List (α × α)) : Merges keys (ofKeys keys).keys where
  ascending := ascending_sortKeys (nodup_mergeKeys keys)
  times t := by
    constructor
    · intro member
      obtain ⟨key, inCurve, rfl⟩ := List.mem_map.mp member
      obtain ⟨front, back, rfl, -⟩ := mem_ofKeys.mp inCurve
      simp
    · intro member
      obtain ⟨y, last⟩ := exists_isLast member
      exact List.mem_map.mpr ⟨(t, y), mem_ofKeys.mpr last, rfl⟩
  last _ := mem_ofKeys

/-- What keys are merged to is determined by the last ones at their times. -/
theorem Merges.eq_of_isLast_iff {keys' merged merged' : List (α × α)} (h : Merges keys merged)
    (h' : Merges keys' merged') (same : ∀ key, IsLast keys key ↔ IsLast keys' key) :
    merged = merged' := by
  have irrefl : Std.Irrefl fun key later : α × α => key.1 < later.1 := ⟨fun _ => lt_irrefl _⟩
  have antisymm : Std.Antisymm fun key later : α × α => key.1 < later.1 :=
    ⟨fun _ _ less more => absurd more less.asymm⟩
  refine h.ascending.eq_of_mem_iff h'.ascending fun key => ?_
  rw [h.last, h'.last, same]

/-! ### Neighbours -/

namespace Ascending

/-- A key is found by its time. -/
theorem eq_of_time_eq (h : Ascending keys) {other : α × α} (member : key ∈ keys)
    (member' : other ∈ keys) (same : key.1 = other.1) : key = other := by
  have distinct : (keys.map (·.1)).Nodup := List.pairwise_map.mpr (h.imp ne_of_lt)
  exact List.inj_on_of_nodup_map distinct member member' same

theorem first_le (h : Ascending keys) (front : keys.head? = some first) (member : key ∈ keys) :
    first.1 ≤ key.1 := by
  obtain ⟨rest, rfl⟩ := List.head?_eq_some_iff.mp front
  rcases List.mem_cons.mp member with rfl | inRest
  · exact le_rfl
  · exact (List.rel_of_pairwise_cons h inRest).le

theorem le_last (h : Ascending keys) (back : keys.getLast? = some last) (member : key ∈ keys) :
    key.1 ≤ last.1 := by
  obtain ⟨front, rfl⟩ := List.getLast?_eq_some_iff.mp back
  rcases List.mem_append.mp member with inFront | isLast
  · exact ((List.pairwise_append.mp h).2.2 key inFront last List.mem_cons_self).le
  · rw [List.mem_singleton.mp isLast]

/-- No key lies between neighbours. -/
theorem le_or_le (h : Ascending keys) (neighbours : [left, right] <:+: keys)
    (member : key ∈ keys) : key.1 ≤ left.1 ∨ right.1 ≤ key.1 := by
  obtain ⟨front, back, rfl⟩ := neighbours
  rw [Ascending, List.append_assoc, List.pairwise_append] at h
  obtain ⟨-, inner, across⟩ := h
  rw [List.append_assoc] at member
  rcases List.mem_append.mp member with inFront | inRest
  · exact .inl (across key inFront left (by simp)).le
  · simp only [List.cons_append, List.nil_append, List.mem_cons] at inRest
    rcases inRest with rfl | rfl | inBack
    · exact .inl le_rfl
    · exact .inr le_rfl
    · exact .inr (List.rel_of_pairwise_cons (List.Pairwise.of_cons inner) inBack).le

/-- The place of a parameter is behind the keys up to it. -/
theorem brackets_position (h : Ascending keys) (p : α) :
    Brackets (fun key => decide (p < key.1)) keys (position keys p) (position keys p) := by
  refine (brackets_all _ keys).bisect ?_ _ (Nat.sub_le _ _)
  exact h.imp fun less above => decide_eq_true ((of_decide_eq_true above).trans less)

/-- A parameter between the first and the last key has a neighbour on either side. -/
theorem exists_neighbours (h : Ascending keys) (front : keys.head? = some first)
    (back : keys.getLast? = some last) (behind : first.1 ≤ p) (before : p < last.1) :
    ∃ left right, keys[position keys p - 1]? = some left ∧ keys[position keys p]? = some right ∧
      [left, right] <:+: keys ∧ left.1 ≤ p ∧ p < right.1 := by
  have bracket := h.brackets_position p
  have positive : 0 < position keys p := by
    by_contra zero
    have above := bracket.behind 0 first (by rwa [← List.head?_eq_getElem?]) (by omega)
    exact absurd behind (of_decide_eq_true above).not_ge
  have short : position keys p < keys.length := by
    by_contra long
    have nonempty : keys ≠ [] := by
      rintro rfl
      cases front
    have final : keys[keys.length - 1]? = some last := by
      rwa [← List.getLast?_eq_getElem?]
    have length := List.length_pos_iff.mpr nonempty
    have below := bracket.before _ last final (by omega)
    exact absurd before (of_decide_eq_false below)
  obtain ⟨place, count⟩ : ∃ place, position keys p = place + 1 := ⟨position keys p - 1, by omega⟩
  rw [count] at bracket short ⊢
  rw [Nat.add_sub_cancel]
  have foundLeft := List.getElem?_eq_getElem (Nat.lt_of_succ_lt short)
  have foundRight := List.getElem?_eq_getElem short
  refine ⟨_, _, foundLeft, foundRight, ?_, ?_, ?_⟩
  · refine ⟨keys.take place, keys.drop (place + 2), ?_⟩
    rw [List.append_assoc, List.cons_append, List.singleton_append, ← List.drop_eq_getElem_cons,
      ← List.drop_eq_getElem_cons, List.take_append_drop]
  · exact le_of_not_gt (of_decide_eq_false (bracket.before _ _ foundLeft (Nat.lt_succ_self _)))
  · exact of_decide_eq_true (bracket.behind _ _ foundRight (Nat.le_refl _))

end Ascending

/-! ### Values -/

/-- The point at a parameter on the straight line between two keys. -/
structure OnLine (left right : α × α) (p y : α) : Prop where
  inside : left.1 ≤ p ∧ p < right.1
  straight : (y - left.2) * (right.1 - left.1) = (right.2 - left.2) * (p - left.1)
  bounded : y ∈ Set.uIcc left.2 right.2

/-- What rises as it should over a part of the way stays between the ends. -/
theorem mem_uIcc_of_straight (behind : left.1 ≤ p) (before : p < right.1)
    (straight : (y - left.2) * (right.1 - left.1) = (right.2 - left.2) * (p - left.1)) :
    y ∈ Set.uIcc left.2 right.2 := by
  have span : 0 < right.1 - left.1 := sub_pos.mpr (behind.trans_lt before)
  have done : 0 ≤ p - left.1 := sub_nonneg.mpr behind
  have ahead : 0 ≤ right.1 - p := sub_nonneg.mpr before.le
  -- Seen from the other end, the rest of the way leads back.
  have straight' : (right.2 - y) * (right.1 - left.1) = (right.2 - left.2) * (right.1 - p) := by
    linear_combination -straight
  rcases le_total left.2 right.2 with up | down
  · have rise : 0 ≤ right.2 - left.2 := sub_nonneg.mpr up
    have low : 0 ≤ (y - left.2) * (right.1 - left.1) := straight ▸ mul_nonneg rise done
    have high : 0 ≤ (right.2 - y) * (right.1 - left.1) := straight' ▸ mul_nonneg rise ahead
    rw [Set.uIcc_of_le up]
    exact ⟨sub_nonneg.mp (nonneg_of_mul_nonneg_left low span),
      sub_nonneg.mp (nonneg_of_mul_nonneg_left high span)⟩
  · have fall : right.2 - left.2 ≤ 0 := sub_nonpos.mpr down
    have high : (y - left.2) * (right.1 - left.1) ≤ 0 :=
      straight ▸ mul_nonpos_of_nonpos_of_nonneg fall done
    have low : (right.2 - y) * (right.1 - left.1) ≤ 0 :=
      straight' ▸ mul_nonpos_of_nonpos_of_nonneg fall ahead
    rw [Set.uIcc_of_ge down]
    exact ⟨sub_nonpos.mp (nonpos_of_mul_nonpos_left low span),
      sub_nonpos.mp (nonpos_of_mul_nonpos_left high span)⟩

/-- Between different times there is a line, and no divisor is zero. -/
theorem exists_between (behind : left.1 ≤ p) (before : p < right.1) :
    ∃ y, between left right p = .ok y ∧ OnLine left right p y := by
  have span : right.1 - left.1 ≠ 0 := (sub_pos.mpr (behind.trans_lt before)).ne'
  have straight : (left.2 + (right.2 - left.2) * (p - left.1) / (right.1 - left.1) - left.2) *
      (right.1 - left.1) = (right.2 - left.2) * (p - left.1) := by
    rw [add_sub_cancel_left, div_mul_cancel₀ _ span]
  refine ⟨_, ?_, ⟨behind, before⟩, straight, mem_uIcc_of_straight behind before straight⟩
  rw [between, Scalar.divide?_of_ne _ span]
  rfl

/-- The value that keys in ascending order give to a parameter. -/
structure Interpolates (keys : List (α × α)) (p y : α) : Prop where
  none : keys = [] → y = 0
  key : ∀ key ∈ keys, key.1 = p → y = key.2
  front : ∀ first ∈ keys.head?, p ≤ first.1 → y = first.2
  back : ∀ last ∈ keys.getLast?, last.1 ≤ p → y = last.2
  line : ∀ first ∈ keys.head?, ∀ last ∈ keys.getLast?, first.1 < p → p < last.1 →
    ∃ left right, [left, right] <:+: keys ∧ OnLine left right p y

theorem interpolates_nil (p : α) : Interpolates [] p 0 where
  none _ := rfl
  key := nofun
  front := nofun
  back := nofun
  line := nofun

theorem interpolates_front (h : Ascending keys) (front : keys.head? = some first)
    (before : p ≤ first.1) : Interpolates keys p first.2 := by
  have member := List.mem_of_mem_head? front
  have isFirst : ∀ key ∈ keys, key.1 ≤ p → first = key := fun key inKeys le =>
    h.eq_of_time_eq member inKeys ((h.first_le front inKeys).antisymm (le.trans before))
  refine ⟨?_, ?_, ?_, ?_, ?_⟩
  · rintro rfl
    cases front
  · rintro key inKeys same
    rw [isFirst key inKeys same.le]
  · rintro other again -
    rw [Option.some.inj (front.symm.trans again)]
  · rintro last back behind
    rw [isFirst last (List.mem_of_getLast? back) behind]
  · rintro other again last - behind
    obtain rfl := Option.some.inj (front.symm.trans again)
    exact absurd before behind.not_ge

theorem interpolates_back (h : Ascending keys) (back : keys.getLast? = some last)
    (behind : last.1 ≤ p) : Interpolates keys p last.2 := by
  have member := List.mem_of_getLast? back
  have isLast : ∀ key ∈ keys, p ≤ key.1 → last = key := fun key inKeys le =>
    h.eq_of_time_eq member inKeys ((behind.trans le).antisymm (h.le_last back inKeys))
  refine ⟨?_, ?_, ?_, ?_, ?_⟩
  · rintro rfl
    cases back
  · rintro key inKeys same
    rw [isLast key inKeys same.ge]
  · rintro first front before
    rw [isLast first (List.mem_of_mem_head? front) before]
  · rintro other again -
    rw [Option.some.inj (back.symm.trans again)]
  · rintro first - other again - before
    obtain rfl := Option.some.inj (back.symm.trans again)
    exact absurd behind before.not_ge

/-- Between the first and the last key, the only key that can be met is the left neighbour. -/
theorem interpolates_between (h : Ascending keys) (neighbours : [left, right] <:+: keys)
    (point : OnLine left right p y) (front : keys.head? = some first)
    (back : keys.getLast? = some last) (behind : first.1 < p) (before : p < last.1) :
    Interpolates keys p y := by
  have member : left ∈ keys := neighbours.subset List.mem_cons_self
  have span : right.1 - left.1 ≠ 0 :=
    (sub_pos.mpr (point.inside.1.trans_lt point.inside.2)).ne'
  refine ⟨?_, ?_, ?_, ?_, ?_⟩
  · rintro rfl
    cases front
  · rintro key inKeys rfl
    have le : key.1 ≤ left.1 :=
      (h.le_or_le neighbours inKeys).resolve_right point.inside.2.not_ge
    obtain rfl := h.eq_of_time_eq inKeys member (le.antisymm point.inside.1)
    have level : (y - key.2) * (right.1 - key.1) = 0 := by
      rw [point.straight, sub_self, mul_zero]
    exact sub_eq_zero.mp ((mul_eq_zero.mp level).resolve_right span)
  · rintro other again le
    obtain rfl := Option.some.inj (front.symm.trans again)
    exact absurd le behind.not_ge
  · rintro other again le
    obtain rfl := Option.some.inj (back.symm.trans again)
    exact absurd le before.not_ge
  · rintro - - - - - -
    exact ⟨left, right, neighbours, point⟩

/-- Every parameter has a value. -/
theorem exists_value (h : Ascending keys) (p : α) :
    ∃ y, value ⟨keys⟩ p = .ok y ∧ Interpolates keys p y := by
  by_cases none : keys = []
  · subst none
    exact ⟨0, rfl, interpolates_nil p⟩
  · have front := List.head?_eq_some_head none
    have back := List.getLast?_eq_some_getLast none
    unfold value
    simp only [front, back]
    split
    · next before => exact ⟨_, rfl, interpolates_front h front before⟩
    · next behind =>
      split
      · next beyond => exact ⟨_, rfl, interpolates_back h back beyond⟩
      · next before =>
        rw [not_le] at behind before
        obtain ⟨left, right, foundLeft, foundRight, neighbours, le, less⟩ :=
          h.exists_neighbours front back behind.le before
        obtain ⟨y, same, point⟩ := exists_between le less
        refine ⟨y, ?_, interpolates_between h neighbours point front back behind before⟩
        simp only [foundLeft, foundRight]
        exact same

/-- A curve holds the last key of every time in ascending order, so the order of its keys does not
matter unless times are repeated. It has a value at every parameter: zero without keys, the value of
a key at its time, that of the first or the last key outside of them, and in between the point on
the line through the neighbours. -/
theorem ofKeys_interpolates (keys : List (α × α)) :
    Merges keys (ofKeys keys).keys ∧
      (∀ reordered : List (α × α), reordered.Perm keys → (keys.map (·.1)).Nodup →
        ofKeys reordered = ofKeys keys) ∧
      ∀ p, ∃ y, (ofKeys keys).value p = .ok y ∧ Interpolates (ofKeys keys).keys p y := by
  have merges := merges_ofKeys keys
  refine ⟨merges, fun reordered perm distinct => ?_, exists_value merges.ascending⟩
  have distinct' : (reordered.map (·.1)).Nodup := (perm.map _).nodup_iff.mpr distinct
  have same : (ofKeys reordered).keys = (ofKeys keys).keys := by
    refine (merges_ofKeys reordered).eq_of_isLast_iff merges fun key => ?_
    rw [isLast_iff_mem distinct', isLast_iff_mem distinct, perm.mem_iff]
  exact congrArg Curve.mk same

/-- The second key at zero replaces the first, and four tenths of the way from one to five lead to
thirteen fifths. -/
theorem ofKeys_interpolates_repeated :
    let curve := ofKeys [((0 : ℚ), (0 : ℚ)), (10, 5), (0, 1)]
    curve.keys = [(0, 1), (10, 5)] ∧ curve.value 4 = .ok (13 / 5) := by
  intro curve
  have merged : mergeKeys [((0 : ℚ), (0 : ℚ)), (10, 5), (0, 1)] = [(0, 1), (10, 5)] := by
    simp [mergeKeys, setKey]
  have sorted : curve.keys = [(0, 1), (10, 5)] := by
    change sortKeys (mergeKeys [((0 : ℚ), (0 : ℚ)), (10, 5), (0, 1)]) = _
    rw [merged, sortKeys, if_pos (by simp)]
    exact List.mergeSort_of_pairwise (by simp)
  obtain ⟨y, same, point⟩ := (ofKeys_interpolates [((0 : ℚ), (0 : ℚ)), (10, 5), (0, 1)]).2.2 4
  obtain ⟨left, right, neighbours, line⟩ := point.line (0, 1) (by rw [sorted]; rfl) (10, 5)
    (by rw [sorted]; rfl) (by norm_num) (by norm_num)
  rw [sorted] at neighbours
  obtain ⟨rfl, rfl⟩ : left = (0, 1) ∧ right = (10, 5) := by
    simpa using neighbours.eq_of_length rfl
  have straight := line.straight
  obtain rfl : y = 13 / 5 := by linarith
  exact ⟨sorted, same⟩

end PlugGraph.Curve
