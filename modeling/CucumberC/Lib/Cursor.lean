import CucumberC.Lib.Prog

/-!
# Lists with a cursor, and the loops that walk them

A list that is walked by `first` and `next` keeps its position in the list itself.
The loop `x = first (l); while (x) { body; x = next (l); }` is `walk next`; the same
loop with another way to advance is `walk` with that function. The number of turns a
`walk` may take is a parameter, and a walk that would take more spins.

`Enumerates` says which elements an advancing function yields, and `walk_eq_foldlM`
turns a walk whose elements are known into a fold over them. Nothing else about
cursors is needed to reason about a loop.
-/

namespace Interaction
universe u v

/-- A list and the number of elements its cursor has passed; `0` is the position in
front of the list, where the cursor has no element under it. -/
structure CursorList (α : Type v) where
  items : List α
  cursor : ℕ
  deriving DecidableEq, Repr

namespace CursorList
variable {α : Type v}

/-- A new list has no elements. -/
def new : CursorList α := ⟨[], 0⟩

/-- Move to the next element. Past the end the cursor goes back in front of the list. -/
def next (l : CursorList α) : Option α × CursorList α :=
  match l.items[l.cursor]? with
  | some x => (some x, { l with cursor := l.cursor + 1 })
  | none => (none, { l with cursor := 0 })

/-- Move to the first element. -/
def first (l : CursorList α) : Option α × CursorList α := next { l with cursor := 0 }

/-- Add an element at the end and reset the cursor. -/
def append (l : CursorList α) (x : α) : CursorList α := ⟨l.items ++ [x], 0⟩

/-- Take the first element off the list and reset the cursor. -/
def pop (l : CursorList α) : Option α × CursorList α :=
  match l.items with
  | [] => (none, ⟨[], 0⟩)
  | x :: xs => (some x, ⟨xs, 0⟩)

/-- The number of elements. -/
def size (l : CursorList α) : ℕ := l.items.length

theorem next_append (seen rest : List α) (x : α) :
    next ⟨seen ++ x :: rest, seen.length⟩ = (some x, ⟨seen ++ x :: rest, seen.length + 1⟩) := by
  simp [next]

theorem next_end (seen : List α) : next ⟨seen, seen.length⟩ = (none, ⟨seen, 0⟩) := by
  simp [next]

@[simp] theorem items_next (l : CursorList α) : l.next.2.items = l.items := by
  unfold next
  split <;> rfl

@[simp] theorem items_first (l : CursorList α) : l.first.2.items = l.items := items_next _

@[simp] theorem items_new : (new : CursorList α).items = [] := rfl
@[simp] theorem items_append (l : CursorList α) (x : α) :
    (l.append x).items = l.items ++ [x] := rfl

end CursorList

/-! ## Enumeration -/

section Enumerates
variable {L : Type u} {α : Type v}

/-- `advance`, asked again and again in the state `l` where `x` was its last answer,
yields `xs` and then nothing, and leaves the state `l'`. -/
inductive Enumerates (advance : L → Option α × L) : Option α → L → List α → L → Prop
  | nil (l : L) : Enumerates advance none l [] l
  | cons {x : α} {xs : List α} {l l' : L}
      (rest : Enumerates advance (advance l).1 (advance l).2 xs l') :
      Enumerates advance (some x) l (x :: xs) l'

theorem CursorList.enumerates_next (l : CursorList α) :
    Enumerates next l.next.1 l.next.2 (l.items.drop l.cursor) { l with cursor := 0 } := by
  obtain ⟨items, cursor⟩ := l
  induction h : items.drop cursor generalizing cursor with
  | nil =>
    have hlen : items.length ≤ cursor := List.drop_eq_nil_iff.mp h
    have hnone : items[cursor]? = none := List.getElem?_eq_none hlen
    simp only [next, hnone]
    exact .nil _
  | cons x xs ih =>
    have hget : items[cursor]? = some x := by
      rw [← List.head?_drop, h, List.head?_cons]
    have hrest : items.drop (cursor + 1) = xs := by
      rw [← List.drop_drop, h, List.drop_one, List.tail_cons]
    simp only [next, hget]
    exact .cons (ih (cursor + 1) hrest)

/-- Walking from `first` yields every element, wherever the cursor was. -/
theorem CursorList.enumerates_first (l : CursorList α) :
    Enumerates next l.first.1 l.first.2 l.items { l with cursor := 0 } :=
  enumerates_next { l with cursor := 0 }

/-- Popping until nothing is left yields every element and empties the list. -/
theorem CursorList.enumerates_pop (l : CursorList α) :
    Enumerates pop l.pop.1 l.pop.2 l.items new := by
  obtain ⟨items, cursor⟩ := l
  induction items generalizing cursor with
  | nil => exact .nil _
  | cons x xs ih => exact .cons (ih 0)

/-- What `x` and then `k` calls of `advance` answer. -/
def answers (advance : L → Option α × L) : ℕ → Option α → L → List (Option α)
  | 0, x, _ => [x]
  | k + 1, x, l => x :: answers advance k (advance l).1 (advance l).2

/-- An enumeration answers its elements in order, and then nothing. -/
theorem Enumerates.answers_eq {advance : L → Option α × L} {x : Option α} {l l' : L}
    {xs : List α} (enum : Enumerates advance x l xs l') {k : ℕ} (h : k ≤ xs.length) :
    answers advance k x l = (xs.map some ++ [none]).take (k + 1) := by
  induction enum generalizing k with
  | nil l =>
    obtain rfl : k = 0 := Nat.le_zero.mp h
    rfl
  | cons rest ih =>
    cases k with
    | zero => rfl
    | succ k =>
      rw [answers, ih (Nat.le_of_succ_le_succ h)]
      rfl

end Enumerates

/-! ## Loops -/

section Walk
variable {ω ι μ : Type u} {L α σ : Type v}

/-- `while (x) { s = body (s, x); x = advance (l); }`, for at most `fuel` turns. -/
def walk (advance : L → Option α × L) (body : σ → α → Prog ω ι μ σ) :
    ℕ → Option α → L → σ → Prog ω ι μ (L × σ)
  | _, none, l, s => pure (l, s)
  | 0, some _, _, _ => .spin
  | fuel + 1, some x, l, s => do
      let s ← body s x
      walk advance body fuel (advance l).1 (advance l).2 s

@[simp] theorem walk_none (advance : L → Option α × L) (body : σ → α → Prog ω ι μ σ)
    (fuel : ℕ) (l : L) (s : σ) : walk advance body fuel none l s = pure (l, s) := by
  cases fuel <;> rfl

@[simp] theorem walk_zero (advance : L → Option α × L) (body : σ → α → Prog ω ι μ σ)
    (x : α) (l : L) (s : σ) : walk advance body 0 (some x) l s = .spin := rfl

@[simp] theorem walk_succ (advance : L → Option α × L) (body : σ → α → Prog ω ι μ σ)
    (fuel : ℕ) (x : α) (l : L) (s : σ) : walk advance body (fuel + 1) (some x) l s =
      (body s x).bind fun s => walk advance body fuel (advance l).1 (advance l).2 s := rfl

/-- A loop over elements that are known, with turns enough for all of them, is a fold. -/
theorem walk_eq_foldlM {advance : L → Option α × L} (body : σ → α → Prog ω ι μ σ)
    {x : Option α} {l l' : L} {xs : List α} (enum : Enumerates advance x l xs l')
    {fuel : ℕ} (enough : xs.length ≤ fuel) (s : σ) :
    walk advance body fuel x l s = (xs.foldlM body s).bind fun s => pure (l', s) := by
  induction enum generalizing fuel s with
  | nil l => simp
  | cons rest ih =>
    cases fuel with
    | zero => simp at enough
    | succ fuel =>
      have enough' := Nat.le_of_succ_le_succ enough
      simp only [walk_succ, List.foldlM_cons, Prog.bind_eq, Prog.bind_assoc, ih enough']

/-- `x = first (l); while (x) { s = body (s, x); x = next (l); }` -/
def forEach (l : CursorList α) (body : σ → α → Prog ω ι μ σ) (s : σ) : Prog ω ι μ σ := do
  let (_, s) ← walk CursorList.next body l.size l.first.1 l.first.2 s
  pure s

theorem forEach_eq_foldlM (l : CursorList α) (body : σ → α → Prog ω ι μ σ) (s : σ) :
    forEach l body s = l.items.foldlM body s := by
  have h := walk_eq_foldlM body l.enumerates_first (Nat.le_refl _) s
  simp only [forEach, CursorList.size, h, Prog.bind_eq, Prog.bind_assoc, Prog.pure_eq,
    Prog.bind_ret]
  exact Prog.bind_ret_right _

end Walk
end Interaction
