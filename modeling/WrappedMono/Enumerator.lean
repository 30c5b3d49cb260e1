import WrappedMono.Handle

/-! # The enumerator bridge

The runtime walks the fields, methods, nested types and interfaces of a class through a
cursor.  An `Enumerator` is one such walk for a fixed class: the call
`mono_class_get_fields(klass, &mut gptr)` is `next gptr`, the next item (null once the
collection is exhausted) together with the cursor the call leaves in `gptr`.

* `Exhausts next c xs` is the abstract run (spec §4.2): from the cursor `c`, each call
  receiving the cursor the previous one left, the enumerator yields the non-null items
  `xs` and then a null.
* `drainFrom` is the loop the four accessors of `Class` share,
  `while let Some(x) = from_ptr(next(&mut gptr)) { res.push(x); }`,
  with `fuel` bounding the number of calls (`none` when it runs out).
* `drainFrom_eq_some_iff`: with a checked `from_ptr`, the loop ends with `r` exactly when
  the run from the cursor reaches a null within the fuel, and `r` is then the accumulator
  followed by the handles of the items before that null, in the order they came.
* `Enumerates acc mk next` is what spec §4.2 asks of an accessor; the loop seeded with the
  null cursor meets it (`enumerates_drainFrom`). -/

namespace WrappedMono

/-- One enumeration of the runtime: the next item and the updated cursor. -/
abbrev Enumerator := Ptr → Ptr × Ptr

/-- From cursor `c`, the enumeration yields the non-null items `xs`, then a null. -/
inductive Exhausts (next : Enumerator) : Ptr → List Ptr → Prop
  | done {c : Ptr} : (next c).1 = Ptr.null → Exhausts next c []
  | step {c : Ptr} {xs : List Ptr} :
      (next c).1 ≠ Ptr.null → Exhausts next (next c).2 xs → Exhausts next c ((next c).1 :: xs)

namespace Exhausts

variable {next : Enumerator} {c : Ptr} {xs : List Ptr}

/-- No item of a run is null. -/
theorem nonNull (hx : Exhausts next c xs) : ∀ p ∈ xs, p ≠ Ptr.null := by
  induction hx with
  | done _ => simp
  | step h _ ih => simpa [h] using ih

end Exhausts

/-! ### The accessors' loop -/

/-- `while let Some(x) = from_ptr(next(&mut gptr)) { res.push(x); }` from the cursor
`gptr`, for at most `fuel` calls of `next`. -/
def drainFrom {α : Type} (fromPtr : Ptr → Option α) (next : Enumerator) :
    Nat → Ptr → List α → Option (List α)
  | 0, _, _ => none
  | fuel + 1, gptr, res =>
    let call := next gptr
    match fromPtr call.1 with
    | some x => drainFrom fromPtr next fuel call.2 (res ++ [x])
    | none => some res

section drain

variable {α : Type} {mk : Ptr → α} {next : Enumerator}

/-- The loop with a checked `from_ptr` computes exactly the abstract run. -/
theorem drainFrom_eq_some_iff {fuel : Nat} {c : Ptr} {res r : List α} :
    drainFrom (fromNonNull mk) next fuel c res = some r ↔
      ∃ xs, Exhausts next c xs ∧ xs.length < fuel ∧ r = res ++ xs.map mk := by
  induction fuel generalizing c res with
  | zero => simp [drainFrom]
  | succ fuel ih =>
    by_cases h : (next c).1 = Ptr.null
    · simp only [drainFrom, h, fromNonNull_null, Option.some.injEq]
      constructor
      · rintro rfl
        exact ⟨[], .done h, by simp, by simp⟩
      · rintro ⟨xs, hx, -, rfl⟩
        cases hx with
        | done _ => simp
        | step h' _ => exact absurd h h'
    · simp only [drainFrom, fromNonNull_of_ne mk h, ih]
      constructor
      · rintro ⟨ys, hr, hl, rfl⟩
        exact ⟨_, .step h hr, by simpa using hl, by simp⟩
      · rintro ⟨xs, hx, hl, rfl⟩
        cases hx with
        | done h' => exact absurd h' h
        | step _ hr => exact ⟨_, hr, by simpa using hl, by simp⟩

/-! ### Accessors -/

/-- `acc` materialises the enumeration `next` into the handles `mk` builds (spec §4.2):
given `fuel` runtime calls, it finishes exactly when the run from the null cursor reaches
its null within them, and then returns the handles of the run's items, in order. -/
def Enumerates (acc : Nat → Option (List α)) (mk : Ptr → α) (next : Enumerator) : Prop :=
  ∀ fuel r, acc fuel = some r ↔
    ∃ xs, Exhausts next Ptr.null xs ∧ xs.length < fuel ∧ r = xs.map mk

/-- The loop seeded with the null cursor and an empty vector is the accessor. -/
theorem enumerates_drainFrom :
    Enumerates (fun fuel => drainFrom (fromNonNull mk) next fuel Ptr.null []) mk next :=
  fun _ _ => by simp [drainFrom_eq_some_iff]

namespace Enumerates

variable {acc : Nat → Option (List α)} (h : Enumerates acc mk next)
include h

/-- No handle an accessor returns holds null. -/
theorem nonNull [Handle α] (hmk : ∀ p, Handle.ptr (mk p) = p) {fuel : Nat} {r : List α}
    (hr : acc fuel = some r) : ∀ a ∈ r, NonNull a := by
  obtain ⟨xs, hx, -, rfl⟩ := (h fuel r).mp hr
  simpa [NonNull, hmk] using hx.nonNull

end Enumerates

end drain

end WrappedMono
