/-!
# Sorting by merging runs

A list is cut into runs that never descend, short ones are filled up by insertion, and neighbouring
runs are merged. Where one side of a merge wins many times in a row, the place up to which it wins
is searched for in growing strides instead.

On a total order any stable sort gives the same list. The steps are fixed here in full because they
show on orders that are not total: the relation `lt` may be any relation at all.
-/

namespace PlugGraph.Runs

variable {β : Type}

/-- A binary search between two positions for the first one at which `goesRight` no longer holds.
`fuel` bounds the number of halvings. -/
def bisect (goesRight : β → Bool) (items : Array β) : (fuel lo hi : Nat) → Nat
  | 0, lo, _ => lo
  | fuel + 1, lo, hi =>
    if lo < hi then
      let middle := lo + (hi - lo) / 2
      match items[middle]? with
      | some item =>
        if goesRight item then bisect goesRight items fuel (middle + 1) hi
        else bisect goesRight items fuel lo middle
      | none => lo
    else lo

def holdsAt (condition : β → Bool) (items : Array β) (position : Nat) : Bool :=
  (items[position]?.map condition).getD false

/-- Doubles a stride as long as `goesOn` holds at it, up to `limit`; returns the last two strides.
`fuel` bounds the number of doublings. -/
def stride (goesOn : Nat → Bool) (limit : Nat) : (fuel last next : Nat) → Nat × Nat
  | 0, last, next => (last, min next limit)
  | fuel + 1, last, next =>
    if next < limit && goesOn next then stride goesOn limit fuel next (2 * next + 1)
    else (last, min next limit)

/-- The position among `items` at which `goesRight` ceases to hold, searched for in growing strides
away from `hint` and then by bisection. -/
def gallop (goesRight : β → Bool) (items : Array β) (hint : Nat) : Nat :=
  let size := items.size
  if holdsAt goesRight items hint then
    let (last, next) := stride (fun k => holdsAt goesRight items (hint + k)) (size - hint) size 0 1
    bisect goesRight items size (hint + last + 1) (hint + next)
  else
    let (last, next) :=
      stride (fun k => !holdsAt goesRight items (hint - k)) (hint + 1) size 0 1
    bisect goesRight items size (hint + 1 - next) (hint - last)

/-- The number of items in front of those that are not less than `key`. -/
def gallopLeft (lt : β → β → Bool) (key : β) (items : Array β) (hint : Nat) : Nat :=
  gallop (fun item => lt item key) items hint

/-- The number of items in front of those that `key` is less than. -/
def gallopRight (lt : β → β → Bool) (key : β) (items : Array β) (hint : Nat) : Nat :=
  gallop (fun item => !lt key item) items hint

/-- The number of wins in a row that strides are worth. -/
def leastStreak : Nat := 7

/-- How a merge goes on: pair by pair, or in strides. -/
inductive Pace where
  /-- The last wins in a row of the left and of the right run. -/
  | pairs (left right : Nat)
  | strides
deriving DecidableEq, Repr

/-- What a merge from the front has left of two runs, and what it has put out. `streak` is the
number of wins in a row after which it changes to strides. -/
structure Merge (β : Type) where
  left : Array β
  right : Array β
  done : Array β
  streak : Nat

namespace Merge

/-- Moves the first items of the left run to the output. -/
def takeLeft (m : Merge β) (count : Nat) : Merge β :=
  { m with left := m.left.extract count m.left.size, done := m.done ++ m.left.extract 0 count }

/-- Moves the first items of the right run to the output. -/
def takeRight (m : Merge β) (count : Nat) : Merge β :=
  { m with right := m.right.extract count m.right.size, done := m.done ++ m.right.extract 0 count }

/-- Moves the last items of the left run to the front of the output. -/
def takeLeftEnd (m : Merge β) (count : Nat) : Merge β :=
  let rest := m.left.size - count
  { m with left := m.left.extract 0 rest, done := m.left.extract rest m.left.size ++ m.done }

/-- Moves the last items of the right run to the front of the output. -/
def takeRightEnd (m : Merge β) (count : Nat) : Merge β :=
  let rest := m.right.size - count
  { m with right := m.right.extract 0 rest, done := m.right.extract rest m.right.size ++ m.done }

def withStreak (m : Merge β) (streak : Nat) : Merge β := { m with streak }

/-- The end of a merge from the front: what is left follows, and a single item of the left run comes
last. -/
def finishFront (m : Merge β) : Array β × Nat :=
  let rest := if m.left.size == 1 then m.right ++ m.left else m.left ++ m.right
  (m.done ++ rest, m.streak)

/-- The end of a merge from the back: what is left goes in front, and a single item of the right run
comes first. -/
def finishBack (m : Merge β) : Array β × Nat :=
  let rest := if m.right.size == 1 then m.right ++ m.left else m.left ++ m.right
  (rest ++ m.done, m.streak)

end Merge

/-- Merges two runs from the front, where the left one is held aside: the last item of the left run
is known to come last. `streak` counts down while strides pay, and is stored with the merge then.
`fuel` bounds the number of steps. -/
def mergeFront (lt : β → β → Bool) : (fuel streak : Nat) → Pace → Merge β → Array β × Nat
  | 0, _, _, m => m.finishFront
  | fuel + 1, streak, .pairs wonLeft wonRight, m =>
    match m.left[0]?, m.right[0]? with
    | some a, some b =>
      if m.left.size == 1 then m.finishFront
      else if lt b a then
        let m := m.takeRight 1
        if m.right.isEmpty then m.finishFront
        else if streak ≤ wonRight + 1 then mergeFront lt fuel (streak + 1) .strides m
        else mergeFront lt fuel streak (.pairs 0 (wonRight + 1)) m
      else
        let m := m.takeLeft 1
        if m.left.size == 1 then m.finishFront
        else if streak ≤ wonLeft + 1 then mergeFront lt fuel (streak + 1) .strides m
        else mergeFront lt fuel streak (.pairs (wonLeft + 1) 0) m
    | _, _ => m.finishFront
  | fuel + 1, streak, .strides, m =>
    let streak := if 1 < streak then streak - 1 else streak
    let m := m.withStreak streak
    match m.right[0]? with
    | none => m.finishFront
    | some b =>
      let wonLeft := gallopRight lt b m.left 0
      let m := m.takeLeft wonLeft
      if m.left.size ≤ 1 && 0 < wonLeft then m.finishFront
      else
        let m := m.takeRight 1
        match m.left[0]?, m.right.isEmpty with
        | some a, false =>
          let wonRight := gallopLeft lt a m.right 0
          let m := m.takeRight wonRight
          if m.right.isEmpty then m.finishFront
          else
            let m := m.takeLeft 1
            if m.left.size == 1 then m.finishFront
            else if leastStreak ≤ wonLeft || leastStreak ≤ wonRight then
              mergeFront lt fuel streak .strides m
            else mergeFront lt fuel (streak + 1) (.pairs 0 0) (m.withStreak (streak + 1))
        | _, _ => m.finishFront

/-- Merges two runs from the back, where the right one is held aside: the first item of the right
run is known to come first. -/
def mergeBack (lt : β → β → Bool) : (fuel streak : Nat) → Pace → Merge β → Array β × Nat
  | 0, _, _, m => m.finishBack
  | fuel + 1, streak, .pairs wonLeft wonRight, m =>
    match m.left.back?, m.right.back? with
    | some a, some b =>
      if m.right.size == 1 then m.finishBack
      else if lt b a then
        let m := m.takeLeftEnd 1
        if m.left.isEmpty then m.finishBack
        else if streak ≤ wonLeft + 1 then mergeBack lt fuel (streak + 1) .strides m
        else mergeBack lt fuel streak (.pairs (wonLeft + 1) 0) m
      else
        let m := m.takeRightEnd 1
        if m.right.size == 1 then m.finishBack
        else if streak ≤ wonRight + 1 then mergeBack lt fuel (streak + 1) .strides m
        else mergeBack lt fuel streak (.pairs 0 (wonRight + 1)) m
    | _, _ => m.finishBack
  | fuel + 1, streak, .strides, m =>
    let streak := if 1 < streak then streak - 1 else streak
    let m := m.withStreak streak
    match m.right.back? with
    | none => m.finishBack
    | some b =>
      let wonLeft := m.left.size - gallopRight lt b m.left (m.left.size - 1)
      let m := m.takeLeftEnd wonLeft
      if m.left.isEmpty then m.finishBack
      else
        let m := m.takeRightEnd 1
        match m.left.back?, m.right.size == 1 with
        | some a, false =>
          let wonRight := m.right.size - gallopLeft lt a m.right (m.right.size - 1)
          let m := m.takeRightEnd wonRight
          if m.right.size ≤ 1 && 0 < wonRight then m.finishBack
          else
            let m := m.takeLeftEnd 1
            if m.left.isEmpty then m.finishBack
            else if leastStreak ≤ wonLeft || leastStreak ≤ wonRight then
              mergeBack lt fuel streak .strides m
            else mergeBack lt fuel (streak + 1) (.pairs 0 0) (m.withStreak (streak + 1))
        | _, _ => m.finishBack

/-- Merges two neighbouring runs; returns the streak for the next merge as well. Items that are in
their places already are left out: those of the left run in front of the first of the right one, and
those of the right run behind the last of the left one. The shorter run is held aside. -/
def mergeRuns (lt : β → β → Bool) (streak : Nat) (left right : Array β) : Array β × Nat :=
  match right[0]? with
  | none => (left, streak)
  | some first =>
    let start := gallopRight lt first left 0
    let middle := left.extract start left.size
    match middle.back? with
    | none => (left ++ right, streak)
    | some last =>
      let stop := gallopLeft lt last right (right.size - 1)
      if stop == 0 then (left ++ right, streak)
      else
        let m : Merge β := ⟨middle, right.extract 0 stop, #[], streak⟩
        let fuel := middle.size + stop + 1
        let (merged, streak) :=
          if middle.size ≤ stop then
            let m := m.takeRight 1
            if m.right.isEmpty then m.finishFront else mergeFront lt fuel streak (.pairs 0 0) m
          else
            let m := m.takeLeftEnd 1
            if m.left.isEmpty then m.finishBack else mergeBack lt fuel streak (.pairs 0 0) m
        (left.extract 0 start ++ merged ++ right.extract stop right.size, streak)

/-- The length of the longest beginning in which every item has the given relation to the one in
front of it. -/
def chainLength (related : β → β → Bool) : List β → Nat
  | first :: second :: rest =>
    if related second first then 1 + chainLength related (second :: rest) else 1
  | rest => rest.length

/-- Inserts an item behind those that it is not less than, found by bisection. -/
def insert (lt : β → β → Bool) (run : Array β) (item : β) : Array β :=
  let place := bisect (fun other => !lt item other) run run.size 0 run.size
  run.extract 0 place ++ #[item] ++ run.extract place run.size

/-- Splits off the first run, filled up to `least` items. A strictly descending beginning is turned
round. -/
def firstRun (lt : β → β → Bool) (least : Nat) (items : List β) : Array β × List β :=
  let falling := match items with
    | first :: second :: _ => lt second first
    | _ => false
  let count := chainLength (fun next item => lt next item == falling) items
  let run := items.take count
  let start := (if falling then run.reverse else run).toArray
  let rest := items.drop count
  ((rest.take (least - count)).foldl (insert lt) start, rest.drop (least - count))

/-- The least length of runs for a list: the leading six bits of its length, rounded up. -/
def leastRun (size : Nat) : Nat :=
  if h : size < 64 then size
  else
    have : size / 2 < size := by omega
    leastRunFrom (size / 2) (size % 2)
where
  /-- Goes on halving; `odd` tells whether a bit was lost. -/
  leastRunFrom (size odd : Nat) : Nat :=
    if h : size < 64 then size + odd
    else
      have : size / 2 < size := by omega
      leastRunFrom (size / 2) (max odd (size % 2))

/-- The depth, in the halvings of a range of `size` positions, at which two points are told apart,
which are given doubled. `fuel` bounds the depth. -/
def depth (size : Nat) : (fuel left right : Nat) → Nat
  | 0, _, _ => 0
  | fuel + 1, left, right =>
    if size ≤ left then 1 + depth size fuel (2 * (left - size)) (2 * (right - size))
    else if size ≤ right then 1
    else 1 + depth size fuel (2 * left) (2 * right)

/-- A run that waits to be merged: where it starts, and how deep the border to the next one lies. -/
structure Pending (β : Type) where
  start : Nat
  items : Array β
  border : Nat

/-- Merges the last two of the waiting runs, the latest first, as long as the border between them
lies deeper than the border to the next run. -/
def settle (lt : β → β → Bool) (border : Nat) : (fuel streak : Nat) → List (Pending β) →
    List (Pending β) × Nat
  | fuel + 1, streak, right :: left :: rest =>
    if border < left.border then
      let (items, streak) := mergeRuns lt streak left.items right.items
      settle lt border fuel streak ({ left with items } :: rest)
    else (right :: left :: rest, streak)
  | _, streak, pending => (pending, streak)

/-- Merges all waiting runs, the latest first; the shorter neighbour of a run goes first. -/
def collapse (lt : β → β → Bool) : (fuel streak : Nat) → List (Pending β) → Array β
  | fuel + 1, streak, right :: middle :: left :: rest =>
    if left.items.size < right.items.size then
      let (items, streak) := mergeRuns lt streak left.items middle.items
      collapse lt fuel streak (right :: { left with items } :: rest)
    else
      let (items, streak) := mergeRuns lt streak middle.items right.items
      collapse lt fuel streak ({ middle with items } :: left :: rest)
  | _, streak, [right, left] => (mergeRuns lt streak left.items right.items).1
  | _, _, pending => (pending.map (·.items)).reverse.foldl (· ++ ·) #[]

/-- Cuts a list into runs and merges them as they come. `fuel` bounds the number of runs. -/
def sortFrom (lt : β → β → Bool) (size least : Nat) : (fuel start streak : Nat) →
    List (Pending β) → List β → Array β
  | fuel + 1, start, streak, pending, item :: items =>
    let (run, rest) := firstRun lt least (item :: items)
    let (pending, streak) := match pending with
      | last :: others =>
        let middle := 2 * last.start + last.items.size
        let border := depth size (2 * size) middle (middle + last.items.size + run.size)
        match settle lt border pending.length streak pending with
        | (last :: others, streak) => ({ last with border } :: others, streak)
        | ([], streak) => ({ last with border } :: others, streak)
      | [] => ([], streak)
    sortFrom lt size least fuel (start + run.size) streak (⟨start, run, 0⟩ :: pending) rest
  | _, _, streak, pending, _ => collapse lt pending.length streak pending

def sort (lt : β → β → Bool) (items : List β) : List β :=
  (sortFrom lt items.length (leastRun items.length) items.length 0 leastStreak [] items).toList

end PlugGraph.Runs
