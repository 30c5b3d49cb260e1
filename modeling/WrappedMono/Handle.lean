import WrappedMono.Memory

/-! # Handles

Every entity of the wrapper is a structure around one runtime pointer, which `Handle.ptr`
projects out (`getPtr`); equality of two handles is equality of their pointers, as the
`impl PartialEq` of `Class` and `Domain` says.

* `Class::from_ptr` and `ClassField::from_ptr` are the checked constructor `fromNonNull`:
  `None` for the null pointer, the wrapped pointer otherwise.
* `Domain::from_ptr` wraps any pointer: `Domain` has no absent form.
* `Method`, `Object`, `Image` and `Assembly` are used by the modelled code but not in src/.
  Their constructors follow the spec's handle contract, in the checked form where the call
  site receives an `Option` and in the unchecked form where it receives the handle itself.

`NonNull h` is the invariant of spec §3, "callers can never observe a null-but-present
handle". -/

namespace WrappedMono

/-- The wrappers around one runtime pointer. -/
class Handle (α : Type) where
  /-- The wrapped pointer. -/
  ptr : α → Ptr

/-- A handle that does not hold the null pointer. -/
def NonNull {α : Type} [Handle α] (h : α) : Prop := Handle.ptr h ≠ Ptr.null

instance {α : Type} [Handle α] (h : α) : Decidable (NonNull h) :=
  inferInstanceAs (Decidable (¬ _))

/-- `Class`: a `*mut MonoClass`. -/
structure Class where
  classPtr : Ptr
deriving DecidableEq, Repr

/-- `ClassField`: a `*mut MonoClassField`. -/
structure ClassField where
  cfPtr : Ptr
deriving DecidableEq, Repr

/-- Modelled from the spec: `Method` is not in src/; a method descriptor handle. -/
structure Method where
  methodPtr : Ptr
deriving DecidableEq, Repr

/-- Modelled from the spec: `Object` is not in src/; a managed heap value handle. -/
structure Object where
  objPtr : Ptr
deriving DecidableEq, Repr

/-- Modelled from the spec: `Image` is not in src/; a metadata table handle. -/
structure Image where
  imagePtr : Ptr
deriving DecidableEq, Repr

/-- Modelled from the spec: `Assembly` is not in src/; a loaded assembly handle. -/
structure Assembly where
  assemblyPtr : Ptr
deriving DecidableEq, Repr

/-- `Domain`: a `*mut MonoDomain`. -/
structure Domain where
  ptr : Ptr
deriving DecidableEq, Repr

instance : Handle Class := ⟨Class.classPtr⟩
instance : Handle ClassField := ⟨ClassField.cfPtr⟩
instance : Handle Method := ⟨Method.methodPtr⟩
instance : Handle Object := ⟨Object.objPtr⟩
instance : Handle Image := ⟨Image.imagePtr⟩
instance : Handle Assembly := ⟨Assembly.assemblyPtr⟩
instance : Handle Domain := ⟨Domain.ptr⟩

/-! ### The checked constructor -/

section fromNonNull

variable {α : Type} (mk : Ptr → α) {p : Ptr} {h : α}

/-- The body of a checked `from_ptr`:
`if ptr == core::ptr::null_mut() { return None; } return Some(Self { ptr });` -/
def fromNonNull (p : Ptr) : Option α := if p = Ptr.null then none else some (mk p)

@[simp] theorem fromNonNull_null : fromNonNull mk Ptr.null = none := if_pos rfl

theorem fromNonNull_of_ne (hp : p ≠ Ptr.null) : fromNonNull mk p = some (mk p) := if_neg hp

theorem fromNonNull_eq_some : fromNonNull mk p = some h ↔ p ≠ Ptr.null ∧ mk p = h := by
  unfold fromNonNull; split <;> simp_all

@[simp] theorem fromNonNull_eq_none : fromNonNull mk p = none ↔ p = Ptr.null := by
  unfold fromNonNull; split <;> simp_all

/-- A checked constructor never builds a handle around null. -/
theorem nonNull_of_fromNonNull [Handle α] (hmk : ∀ q, Handle.ptr (mk q) = q)
    (hs : fromNonNull mk p = some h) : NonNull h := by
  obtain ⟨hp, rfl⟩ := (fromNonNull_eq_some mk).mp hs
  simpa [NonNull, hmk] using hp

end fromNonNull

/-- `Class::from_ptr`. -/
def Class.fromPtr (classPtr : Ptr) : Option Class := fromNonNull Class.mk classPtr

/-- `ClassField::from_ptr`. -/
def ClassField.fromPtr (cfPtr : Ptr) : Option ClassField := fromNonNull ClassField.mk cfPtr

/-- Modelled from the spec: `Method::from_ptr` is not in src/; absent when the pointer is
null, the call site `while let Some(cf) = Method::from_ptr(..)` receiving an `Option`. -/
def Method.fromPtr (methodPtr : Ptr) : Option Method := fromNonNull Method.mk methodPtr

/-- Modelled from the spec: `Object::from_ptr` is not in src/; absent when the pointer is
null, as `getValueObject` returns its `Option<Object>`. -/
def Object.fromPtr (objPtr : Ptr) : Option Object := fromNonNull Object.mk objPtr

/-- Modelled from the spec: `Image::from_ptr` is not in src/; `getImage` returns its result
as an `Image`, so it wraps the pointer without a test. -/
def Image.fromPtr (imagePtr : Ptr) : Image := ⟨imagePtr⟩

/-- Modelled from the spec: `Assembly::from_ptr` is not in src/; `assemblyOpen` returns its
result inside `Some`, so it wraps the pointer without a test. -/
def Assembly.fromPtr (assemblyPtr : Ptr) : Assembly := ⟨assemblyPtr⟩

/-- `Domain::from_ptr`: no test, the pointer "must be a valid pointer to MonoDomain". -/
def Domain.fromPtr (ptr : Ptr) : Domain := ⟨ptr⟩

/-- Modelled from the spec: `Domain::create_from_ptr`, which `jit::init` calls, is not in
src/; it wraps the root domain the startup call returns, as `Domain::from_ptr` does. -/
def Domain.createFromPtr (ptr : Ptr) : Domain := ⟨ptr⟩

theorem Class.fromPtr_nonNull (p : Ptr) : ∀ c ∈ Class.fromPtr p, NonNull c :=
  fun _ => nonNull_of_fromNonNull _ fun _ => rfl

theorem ClassField.fromPtr_nonNull (p : Ptr) : ∀ f ∈ ClassField.fromPtr p, NonNull f :=
  fun _ => nonNull_of_fromNonNull _ fun _ => rfl

theorem Object.fromPtr_nonNull (p : Ptr) : ∀ o ∈ Object.fromPtr p, NonNull o :=
  fun _ => nonNull_of_fromNonNull _ fun _ => rfl

end WrappedMono
