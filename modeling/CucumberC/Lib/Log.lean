import CucumberC.Lib.Cursor
import Mathlib.Data.List.Forall2

/-!
# Loops with a log

A loop over a list that talks to the outside world makes, for every element, one entry
of a log. `logEach` is the world's half of such a loop, and `Runs.loop` says when a loop
of a program corresponds to it: if one turn returns what the entry determines, then the
whole loop returns what the log determines, and its trace is that of the entries in
order.

A loop that stops making progress at one of its elements is `Runs.loop` up to that
element; `exec_foldlM_spinning` adds the element itself.

## Main definitions

* `logEach`: do something for every element of a list and keep a log.
* `logEach_related`, `logEach_perm`: two loops side by side, and elements in another order.
* `Runs.loop`: the rule for loops.
-/

namespace Interaction
universe u v w

section Log
variable {ε : Type w} {α κ : Type v}

/-- Do `f` for every element, in order, and collect the entries. -/
def logEach (f : ε → α → ε × κ) : ε → List α → ε × List κ
  | e, [] => (e, [])
  | e, x :: xs => ((logEach f (f e x).1 xs).1, (f e x).2 :: (logEach f (f e x).1 xs).2)

variable (f : ε → α → ε × κ)

@[simp] theorem logEach_nil (e : ε) : logEach f e [] = (e, []) := rfl
@[simp] theorem logEach_cons (e : ε) (x : α) (xs : List α) :
    logEach f e (x :: xs) =
      ((logEach f (f e x).1 xs).1, (f e x).2 :: (logEach f (f e x).1 xs).2) := rfl

/-- The log of a list is that of its first part and then, in the world this leaves, that of
the rest. -/
theorem logEach_append (e : ε) (xs ys : List α) :
    logEach f e (xs ++ ys) = ((logEach f (logEach f e xs).1 ys).1,
      (logEach f e xs).2 ++ (logEach f (logEach f e xs).1 ys).2) := by
  induction xs generalizing e with
  | nil => rfl
  | cons x xs ih => simp [ih]

/-- Related worlds make related logs, if every element of the list makes related entries in
related worlds and keeps them related. -/
theorem logEach_related {ε' : Type w} {κ' : Type v} {R : ε → ε' → Prop} {Q : κ → κ' → Prop}
    {f' : ε' → α → ε' × κ'} {xs : List α}
    (turn : ∀ e e' x, x ∈ xs → R e e' → R (f e x).1 (f' e' x).1 ∧ Q (f e x).2 (f' e' x).2)
    {e : ε} {e' : ε'} (start : R e e') :
    R (logEach f e xs).1 (logEach f' e' xs).1 ∧
      List.Forall₂ Q (logEach f e xs).2 (logEach f' e' xs).2 := by
  induction xs generalizing e e' with
  | nil => exact ⟨start, .nil⟩
  | cons x xs ih =>
    obtain ⟨related, entry⟩ := turn e e' x (by simp) start
    obtain ⟨last, rest⟩ := ih (fun e e' y hy => turn e e' y (List.mem_cons_of_mem _ hy)) related
    exact ⟨last, .cons entry rest⟩

/-- They make the same log, if the entries are the same. -/
theorem logEach_congr {ε' : Type w} {R : ε → ε' → Prop} {f' : ε' → α → ε' × κ} {xs : List α}
    (turn : ∀ e e' x, x ∈ xs → R e e' → R (f e x).1 (f' e' x).1 ∧ (f e x).2 = (f' e' x).2)
    {e : ε} {e' : ε'} (start : R e e') :
    R (logEach f e xs).1 (logEach f' e' xs).1 ∧ (logEach f e xs).2 = (logEach f' e' xs).2 := by
  obtain ⟨last, entries⟩ := logEach_related f turn start
  exact ⟨last, List.forall₂_eq_eq_eq ▸ entries⟩

/-- **The order of independent elements** does not matter. `view` is what can be seen of the
world: what an element does depends on it alone, and two different elements do the same in
either order. Then a permuted list leaves the same view, and its log is permuted. -/
theorem logEach_perm {δ : Type u} (view : ε → δ)
    (same : ∀ e e' x, view e = view e' →
      view (f e x).1 = view (f e' x).1 ∧ (f e x).2 = (f e' x).2)
    (apart : ∀ e x y, x ≠ y →
      view (f (f e x).1 y).1 = view (f (f e y).1 x).1 ∧ (f (f e x).1 y).2 = (f e y).2)
    {xs ys : List α} (reordered : xs.Perm ys) {e e' : ε} (start : view e = view e') :
    view (logEach f e xs).1 = view (logEach f e' ys).1 ∧
      (logEach f e xs).2.Perm (logEach f e' ys).2 := by
  have hcongr : ∀ (zs : List α) {e e' : ε}, view e = view e' →
      view (logEach f e zs).1 = view (logEach f e' zs).1 ∧
        (logEach f e zs).2 = (logEach f e' zs).2 := fun zs _ _ h =>
    logEach_congr (R := fun e e' => view e = view e') f (fun e e' x _ => same e e' x) h
  induction reordered generalizing e e' with
  | nil => exact ⟨start, .nil⟩
  | cons x _ ih =>
    obtain ⟨hview, hentry⟩ := same e e' x start
    obtain ⟨last, rest⟩ := ih hview
    rw [logEach_cons, logEach_cons, hentry]
    exact ⟨last, rest.cons _⟩
  | swap x y zs =>
    by_cases hxy : x = y
    · subst hxy
      obtain ⟨last, rest⟩ := hcongr (x :: x :: zs) start
      exact ⟨last, rest ▸ .refl _⟩
    · obtain ⟨hyx, hx⟩ := apart e y x (Ne.symm hxy)
      obtain ⟨-, hy⟩ := apart e' x y hxy
      obtain ⟨hview, hentryx⟩ := same e e' x start
      obtain ⟨hviewy, hentryy⟩ := same e e' y start
      have hboth : view (f (f e y).1 x).1 = view (f (f e' x).1 y).1 :=
        hyx.trans (same _ _ y hview).1
      obtain ⟨last, rest⟩ := hcongr zs hboth
      simp only [logEach_cons]
      rw [hx, hy, hentryx, hentryy, rest]
      exact ⟨last, .swap _ _ _⟩
  | trans _ _ ih ih' =>
    obtain ⟨hview, hlog⟩ := ih start
    obtain ⟨hview', hlog'⟩ := ih' (rfl : view e' = view e')
    exact ⟨hview.trans hview', hlog.trans hlog'⟩

/-- Every entry was made for an element. -/
theorem mem_logEach {e : ε} {xs : List α} {entry : κ} (h : entry ∈ (logEach f e xs).2) :
    ∃ e' x, x ∈ xs ∧ entry = (f e' x).2 := by
  induction xs generalizing e with
  | nil => simp at h
  | cons x xs ih =>
    rw [logEach_cons, List.mem_cons] at h
    rcases h with rfl | h
    · exact ⟨e, x, by simp, rfl⟩
    · obtain ⟨e', y, hy, rfl⟩ := ih h
      exact ⟨e', y, by simp [hy], rfl⟩

/-- What every element keeps true of the world is true in the end. -/
theorem foldl_invariant {I : ε → Prop} {h : ε → α → ε} (turn : ∀ e x, I e → I (h e x)) {e : ε}
    (start : I e) (xs : List α) : I (xs.foldl h e) := by
  induction xs generalizing e with
  | nil => exact start
  | cons x xs ih => exact ih (turn e x start)

/-- What every entry tells about its element, the log tells about the list. -/
theorem map_logEach {β : Type v} (g : κ → β) (g' : α → β) (h : ∀ e x, g (f e x).2 = g' x) (e : ε)
    (xs : List α) : (logEach f e xs).2.map g = xs.map g' := by
  induction xs generalizing e with
  | nil => rfl
  | cons x xs ih => simp [h, ih]

/-- A log whose entries are the elements themselves. -/
theorem logEach_self (h : ε → α → ε) (e : ε) (xs : List α) :
    logEach (fun e x => (h e x, x)) e xs = (xs.foldl h e, xs) := by
  induction xs generalizing e with
  | nil => rfl
  | cons x xs ih => simp [ih]

/-- Related lists have the same image, if related elements have. -/
theorem map_eq_of_forall₂ {β δ : Type v} {R : α → β → Prop} {g : α → δ} {g' : β → δ}
    (h : ∀ x y, R x y → g x = g' y) {xs : List α} {ys : List β}
    (related : List.Forall₂ R xs ys) : xs.map g = ys.map g' := by
  rw [← List.forall₂_eq_eq_eq, List.forall₂_map_left_iff, List.forall₂_map_right_iff]
  exact related.imp h

/-- Related lists contribute the same, if related elements do. -/
theorem flatMap_eq_of_forall₂ {β δ : Type v} {R : α → β → Prop} {g : α → List δ}
    {g' : β → List δ} (h : ∀ x y, R x y → g x = g' y) {xs : List α} {ys : List β}
    (related : List.Forall₂ R xs ys) : xs.flatMap g = ys.flatMap g' := by
  rw [List.flatMap_def, List.flatMap_def, map_eq_of_forall₂ h related]

/-- A list from which something is taken, where `p` tells what is. -/
theorem filterMap_ne_nil_iff {β : Type v} {f : α → Option β} {p : α → Bool}
    (h : ∀ x, (f x).isSome = p x) (xs : List α) :
    xs.filterMap f ≠ [] ↔ xs.any p = true := by
  rw [ne_eq, List.filterMap_eq_nil_iff, List.any_eq_true]
  push Not
  constructor
  · rintro ⟨x, hx, hf⟩
    exact ⟨x, hx, by rw [← h, Option.isSome_iff_ne_none]; exact hf⟩
  · rintro ⟨x, hx, hp⟩
    exact ⟨x, hx, by rw [← h, Option.isSome_iff_ne_none] at hp; exact hp⟩

/-- What is on the right of related lists has a partner on the left. -/
theorem exists_left_of_mem {β : Type v} {R : α → β → Prop} {xs : List α} {ys : List β}
    (h : List.Forall₂ R xs ys) {y : β} (hy : y ∈ ys) : ∃ x ∈ xs, R x y := by
  induction h with
  | nil => simp at hy
  | @cons x z xs ys hxz _ ih =>
    rcases List.mem_cons.mp hy with rfl | hy
    · exact ⟨x, by simp, hxz⟩
    · obtain ⟨x', hx', h⟩ := ih hy
      exact ⟨x', by simp [hx'], h⟩

end Log

section Loop
variable {ω ι μ : Type u} {ε : Type w} {α β κ : Type v}
variable {respond : ε → μ → ε × List ι}

/-- **The rule for loops.** `I` is the invariant of the world, of the elements done so
far; `f` makes the entry of an element, `g` updates the loop's state with it, and
`trace` tells the effects. -/
theorem Runs.loop (I : List α → ε → Prop) (f : ε → α → ε × κ) (g : β → κ → β)
    (trace : κ → List (Event ω ι μ)) (body : β → α → Prog ω ι μ β) (xs : List α)
    (turn : ∀ done x rest e b, xs = done ++ x :: rest → I done e →
      I (done ++ [x]) (f e x).1 ∧
        Runs respond (body b x) e [] (g b (f e x).2) (f e x).1 [] (trace (f e x).2))
    {e : ε} (start : I [] e) (b : β) :
    I xs (logEach f e xs).1 ∧
      Runs respond (xs.foldlM body b) e [] ((logEach f e xs).2.foldl g b) (logEach f e xs).1 []
        ((logEach f e xs).2.flatMap trace) := by
  suffices h : ∀ rest done e b, xs = done ++ rest → I done e →
      I xs (logEach f e rest).1 ∧
        Runs respond (rest.foldlM body b) e [] ((logEach f e rest).2.foldl g b)
          (logEach f e rest).1 [] ((logEach f e rest).2.flatMap trace) from
    h xs [] e b rfl start
  intro rest
  induction rest with
  | nil =>
    intro done e b split inv
    rw [List.append_nil] at split
    exact ⟨split ▸ inv, .foldlM_nil body b⟩
  | cons x rest ih =>
    intro done e b split inv
    obtain ⟨inv', head⟩ := turn done x rest e b split inv
    obtain ⟨last, tail⟩ := ih (done ++ [x]) (f e x).1 (g b (f e x).2) (by simp [split]) inv'
    exact ⟨last, .foldlM_cons head tail⟩

/-- The rule for loops over elements that stand for others: `body` sees `x` where the log
is made for a `y` related to it. -/
theorem Runs.loop_related {α' : Type v} {R : α → α' → Prop} (I : ε → Prop)
    (f : ε → α' → ε × κ) (g : β → κ → β) (trace : κ → List (Event ω ι μ))
    (body : β → α → Prog ω ι μ β)
    {xs : List α} {ys : List α'}
    (turn : ∀ x y e b, y ∈ ys → R x y → I e → I (f e y).1 ∧
      Runs respond (body b x) e [] (g b (f e y).2) (f e y).1 [] (trace (f e y).2))
    (related : List.Forall₂ R xs ys) {e : ε} (start : I e) (b : β) :
    I (logEach f e ys).1 ∧
      Runs respond (xs.foldlM body b) e [] ((logEach f e ys).2.foldl g b) (logEach f e ys).1 []
        ((logEach f e ys).2.flatMap trace) := by
  induction related generalizing e b with
  | nil => exact ⟨start, .foldlM_nil body b⟩
  | @cons x y xs ys hxy _ ih =>
    obtain ⟨inv, head⟩ := turn x y e b (by simp) hxy start
    obtain ⟨last, tail⟩ := ih
      (fun x y e b hy => turn x y e b (List.mem_cons_of_mem _ hy)) inv (g b (f e y).2)
    exact ⟨last, .foldlM_cons head tail⟩

/-- The rule for loops that advance a cursor over elements that are known. -/
theorem Runs.walk {L σ : Type v} {advance : L → Option α × L} {body : σ → α → Prog ω ι μ σ}
    {x : Option α} {l l' : L} {xs : List α} (enum : Enumerates advance x l xs l') {fuel : ℕ}
    (enough : xs.length ≤ fuel) {s s' : σ} {e e' : ε} {inbox inbox' : List ι}
    {t : List (Event ω ι μ)} (runs : Runs respond (xs.foldlM body s) e inbox s' e' inbox' t) :
    Runs respond (walk advance body fuel x l s) e inbox (l', s') e' inbox' t := by
  have h := runs.bind (f := fun s => Pure.pure (l', s)) (.pure (l', s'))
  rw [List.append_nil] at h
  rw [walk_eq_foldlM body enum enough]
  exact h

/-- A loop that spins at one of its elements: what it shows before that is what the
elements in front of it show. -/
theorem exec_foldlM_spinning {body : β → α → Prog ω ι μ β} {front : List α} {x : α}
    {b b' : β} {e e' : ε} {t : List (Event ω ι μ)} {os : List ω}
    (runs : Runs respond (front.foldlM body b) e [] b' e' [] t)
    (stuck : (body b' x).exec respond e' [] = ⟨.spinning, e', [], os.map .put⟩) (back : List α) :
    ((front ++ x :: back).foldlM body b).exec respond e [] =
      ⟨.spinning, e', [], t ++ os.map .put⟩ := by
  rw [Runs] at runs
  rw [List.foldlM_append, Prog.bind_eq, Prog.exec_bind, runs, Outcome.andThen_returned,
    List.foldlM_cons, Prog.bind_eq, Prog.exec_bind, stuck]
  rfl

end Loop
end Interaction
