import Mathlib.Data.List.Forall2
import Mathlib.Tactic.Common

/-!
# Chains of steps that may fail

A chain succeeds when each of its steps does.  The lemmas take a chain apart at its result, so that
later proofs name the intermediate results and unfold no `do` block: `Except.bind_eq_ok_iff` for
two steps, `List.mapM_eq_ok_iff` for the same step on every element of a list, and
`List.foldlM_induction` for a loop that carries a state.  `List.exists_foldlM` is the way back for a
loop: it gives the result when every step has one.
-/

namespace Except

variable {ε α β : Type} {x : Except ε α} {b : β}

lemma bind_eq_ok_iff {f : α → Except ε β} : x >>= f = .ok b ↔ ∃ a, x = .ok a ∧ f a = .ok b := by
  cases x with
  | error e =>
    constructor
    · intro h
      cases h
    · rintro ⟨a, ⟨⟩, -⟩
  | ok a =>
    constructor
    · intro h
      exact ⟨a, rfl, h⟩
    · rintro ⟨a, ⟨⟩, h⟩
      exact h

lemma bind_eq_error_iff {f : α → Except ε β} {e : ε} :
    x >>= f = .error e ↔ x = .error e ∨ ∃ a, x = .ok a ∧ f a = .error e := by
  cases x with
  | error e' =>
    constructor
    · rintro ⟨⟩
      exact Or.inl rfl
    · rintro (⟨⟨⟩⟩ | ⟨a, ⟨⟩, -⟩)
      rfl
  | ok a =>
    constructor
    · intro h
      exact Or.inr ⟨a, rfl, h⟩
    · rintro (⟨⟨⟩⟩ | ⟨a, ⟨⟩, h⟩)
      exact h

lemma map_eq_ok_iff {f : α → β} : x.map f = .ok b ↔ ∃ a, x = .ok a ∧ f a = b := by
  cases x with
  | error e => simp [Except.map]
  | ok a => simp [Except.map]

lemma map_eq_error_iff {f : α → β} {e : ε} : x.map f = .error e ↔ x = .error e := by
  cases x with
  | error e => simp [Except.map]
  | ok a => simp [Except.map]

lemma mapError_eq_ok_iff {ε' : Type} {f : ε → ε'} {a : α} :
    x.mapError f = .ok a ↔ x = .ok a := by
  cases x with
  | error e => simp [Except.mapError]
  | ok a => simp [Except.mapError]

lemma mapError_eq_error_iff {ε' : Type} {f : ε → ε'} {e' : ε'} :
    x.mapError f = .error e' ↔ ∃ e, x = .error e ∧ f e = e' := by
  cases x with
  | error e => simp [Except.mapError]
  | ok a => simp [Except.mapError]

end Except

namespace List

variable {ε α β : Type} {f : α → Except ε β}

/-! ## Lists element by element -/

lemma Forall₂.exists_of_getElem? {R : α → β → Prop} {xs : List α} {ys : List β}
    (h : Forall₂ R xs ys) {i : Nat} {x : α} (hx : xs[i]? = some x) :
    ∃ y, ys[i]? = some y ∧ R x y := by
  induction h generalizing i with
  | nil => simp at hx
  | @cons x' y' xs ys hxy _ ih =>
    cases i with
    | zero =>
      obtain rfl : x' = x := by simpa using hx
      exact ⟨y', by simp, hxy⟩
    | succ i =>
      rw [getElem?_cons_succ] at hx
      rw [getElem?_cons_succ]
      exact ih hx

lemma Forall₂.exists_of_mem {R : α → β → Prop} {xs : List α} {ys : List β}
    (h : Forall₂ R xs ys) {x : α} (hx : x ∈ xs) : ∃ y ∈ ys, R x y := by
  obtain ⟨i, hi⟩ := getElem?_of_mem hx
  obtain ⟨y, hy, hxy⟩ := h.exists_of_getElem? hi
  exact ⟨y, mem_of_getElem? hy, hxy⟩

lemma Forall₂.map_eq_map {γ : Type} {R : α → β → Prop} {g : α → γ} {g' : β → γ} {xs : List α}
    {ys : List β} (h : Forall₂ R xs ys) (hsame : ∀ x y, R x y → g x = g' y) :
    xs.map g = ys.map g' := by
  induction h with
  | nil => rfl
  | cons hxy _ ih => rw [map_cons, map_cons, hsame _ _ hxy, ih]

/-- The first elements that pass corresponding tests correspond. -/
lemma Forall₂.find?_eq_some {R : α → β → Prop} {p : α → Bool} {q : β → Bool} {xs : List α}
    {ys : List β} (h : Forall₂ R xs ys) (htest : ∀ x y, R x y → p x = q y) {x : α}
    (hx : xs.find? p = some x) : ∃ y, ys.find? q = some y ∧ R x y := by
  induction h with
  | nil => simp at hx
  | @cons x' y' xs ys hxy _ ih =>
    rw [find?_cons] at hx ⊢
    rw [← htest x' y' hxy]
    cases hp : p x' with
    | true =>
      simp only [hp] at hx
      cases hx
      exact ⟨y', rfl, hxy⟩
    | false =>
      simp only [hp] at hx
      exact ih hx

/-- Two relations from one list, chained element by element. -/
lemma Forall₂.exists_forall₂ {γ : Type} {R : α → β → Prop} {R' : α → γ → Prop} {S : β → γ → Prop}
    {xs : List α} {ys : List β} (h : Forall₂ R xs ys)
    (hstep : ∀ x ∈ xs, ∀ y, R x y → ∃ z, R' x z ∧ S y z) :
    ∃ zs, Forall₂ R' xs zs ∧ Forall₂ S ys zs := by
  induction h with
  | nil => exact ⟨[], Forall₂.nil, Forall₂.nil⟩
  | @cons x y xs ys hxy _ ih =>
    obtain ⟨z, hxz, hyz⟩ := hstep x mem_cons_self y hxy
    obtain ⟨zs, hzs, hyzs⟩ := ih fun x' hx' => hstep x' (mem_cons_of_mem x hx')
    exact ⟨z :: zs, Forall₂.cons hxz hzs, Forall₂.cons hyz hyzs⟩

/-! ## Steps on every element -/

/-- A list of results comes from steps that all succeed. -/
lemma mapM_eq_ok_iff {xs : List α} {ys : List β} :
    xs.mapM f = .ok ys ↔ Forall₂ (fun x y => f x = .ok y) xs ys := by
  induction xs generalizing ys with
  | nil =>
    rw [mapM_nil, forall₂_nil_left_iff]
    constructor
    · rintro ⟨⟩
      rfl
    · rintro rfl
      rfl
  | cons x xs ih =>
    rw [mapM_cons, Except.bind_eq_ok_iff, forall₂_cons_left_iff]
    constructor
    · rintro ⟨y, hy, hbind⟩
      obtain ⟨rest, hrest, hys⟩ := Except.bind_eq_ok_iff.mp hbind
      cases hys
      exact ⟨y, rest, hy, ih.mp hrest, rfl⟩
    · rintro ⟨y, rest, hy, hrest, rfl⟩
      refine ⟨y, hy, ?_⟩
      rw [Except.bind_eq_ok_iff]
      exact ⟨rest, ih.mpr hrest, rfl⟩

/-- An error comes from the first step that fails. -/
lemma mapM_eq_error_iff {xs : List α} {e : ε} :
    xs.mapM f = .error e ↔ ∃ before x after ys, xs = before ++ x :: after ∧
      Forall₂ (fun x y => f x = .ok y) before ys ∧ f x = .error e := by
  induction xs with
  | nil =>
    rw [mapM_nil]
    constructor
    · intro h
      cases h
    · rintro ⟨before, x, after, ys, hxs, -⟩
      simp at hxs
  | cons x xs ih =>
    rw [mapM_cons, Except.bind_eq_error_iff]
    constructor
    · rintro (hx | ⟨y, hy, hrest⟩)
      · exact ⟨[], x, xs, [], rfl, Forall₂.nil, hx⟩
      · rcases Except.bind_eq_error_iff.mp hrest with hrest | ⟨ys, -, ⟨⟩⟩
        obtain ⟨before, x', after, ys, rfl, hbefore, hx'⟩ := ih.mp hrest
        exact ⟨x :: before, x', after, y :: ys, rfl, Forall₂.cons hy hbefore, hx'⟩
    · rintro ⟨before, x', after, ys, hxs, hbefore, hx'⟩
      cases hbefore with
      | nil =>
        obtain ⟨rfl, rfl⟩ := cons.inj hxs
        exact Or.inl hx'
      | @cons _ y before ys hy hbefore =>
        rw [cons_append] at hxs
        obtain ⟨rfl, rfl⟩ := cons.inj hxs
        refine Or.inr ⟨y, hy, Except.bind_eq_error_iff.mpr (Or.inl ?_)⟩
        exact ih.mpr ⟨before, x', after, ys, rfl, hbefore, hx'⟩

/-- The same for steps that give nothing instead of an error. -/
lemma mapM_eq_some_iff {g : α → Option β} {xs : List α} {ys : List β} :
    xs.mapM g = some ys ↔ Forall₂ (fun x y => g x = some y) xs ys := by
  induction xs generalizing ys with
  | nil =>
    rw [mapM_nil, forall₂_nil_left_iff]
    exact Option.some_inj.trans eq_comm
  | cons x xs ih =>
    rw [mapM_cons, forall₂_cons_left_iff]
    simp only [Option.bind_eq_bind, Option.bind_eq_some_iff, ih]
    constructor
    · rintro ⟨y, hy, rest, hrest, ⟨⟩⟩
      exact ⟨y, rest, hy, hrest, rfl⟩
    · rintro ⟨y, rest, hy, hrest, rfl⟩
      exact ⟨y, hy, rest, hrest, rfl⟩

/-- What a loop keeps true, given the elements that it is done with, is true at its end. -/
lemma foldlM_induction {step : β → α → Except ε β} {xs : List α} {b b' : β}
    (invariant : List α → β → Prop) (hinit : invariant [] b)
    (hstep : ∀ done x rest b b', xs = done ++ x :: rest → invariant done b → step b x = .ok b' →
      invariant (done ++ [x]) b')
    (h : xs.foldlM step b = .ok b') : invariant xs b' := by
  suffices hloop : ∀ rest done b, xs = done ++ rest → invariant done b →
      rest.foldlM step b = .ok b' → invariant xs b' from hloop xs [] b rfl hinit h
  intro rest
  induction rest with
  | nil =>
    intro done b hxs hb hfold
    cases hfold
    rwa [hxs, append_nil]
  | cons x rest ih =>
    intro done b hxs hb hfold
    rw [foldlM_cons] at hfold
    obtain ⟨next, hnext, hfold⟩ := Except.bind_eq_ok_iff.mp hfold
    apply ih (done ++ [x]) next
    · rw [hxs, append_assoc, singleton_append]
    · exact hstep done x rest b next hxs hb hnext
    · exact hfold

/-- A loop whose steps all succeed while it keeps something true succeeds, and that is true at its
end. -/
lemma exists_foldlM {step : β → α → Except ε β} {xs : List α} {b : β}
    (invariant : List α → β → Prop) (hinit : invariant [] b)
    (hstep : ∀ done x rest b, xs = done ++ x :: rest → invariant done b →
      ∃ b', step b x = .ok b' ∧ invariant (done ++ [x]) b') :
    ∃ b', xs.foldlM step b = .ok b' ∧ invariant xs b' := by
  suffices hloop : ∀ rest done b, xs = done ++ rest → invariant done b →
      ∃ b', rest.foldlM step b = .ok b' ∧ invariant xs b' from hloop xs [] b rfl hinit
  intro rest
  induction rest with
  | nil =>
    intro done b hxs hb
    rw [append_nil] at hxs
    exact ⟨b, rfl, hxs ▸ hb⟩
  | cons x rest ih =>
    intro done b hxs hb
    obtain ⟨next, hnext, hinvariant⟩ := hstep done x rest b hxs hb
    obtain ⟨b', hrest, hb'⟩ := ih (done ++ [x]) next (by simp [hxs]) hinvariant
    refine ⟨b', ?_, hb'⟩
    rw [foldlM_cons, Except.bind_eq_ok_iff]
    exact ⟨next, hnext, hrest⟩

end List
