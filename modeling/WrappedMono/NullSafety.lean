import WrappedMono.Domain

/-! # No handle around null

Spec §3: "a handle constructed from a null foreign pointer is represented as absent …
callers can never observe a null-but-present handle".  Every operation that builds a
`Class`, `ClassField`, `Method`, `Object` or `Assembly` goes through a null test: a checked
`from_ptr` (`fromNonNull`), the test `ptr == null_mut()` of `assemblyOpen`, or the end of
an enumeration at the first null.  A null answer of the runtime becomes `None`, an empty
tail of a vector, or a panic of `expect` (`handles_nonNull`).

`Domain` has no such test: `Domain::create` wraps whatever `mono_domain_create` returns,
null included (`domain_create_null`). -/

namespace WrappedMono

variable (rt : Mono)

/-! ### One lemma per shape of result -/

/-- An `expect` on a checked constructor returns only non-null classes. -/
theorem ensures_expect_fromPtr (p : Ptr) (msg : String) :
    Ensures (expectSome (Class.fromPtr p) msg) NonNull :=
  fun w c w' h => Class.fromPtr_nonNull p c (ensures_expectSome _ msg w c w' h)

theorem Class.fromNameWith_nonNull (lookup : Ptr → List UInt8 → List UInt8 → Ptr)
    (image : Image) (nspace name : RStr) :
    Ensures (Class.fromNameWith lookup image nspace name) (∀ c ∈ ·, NonNull c) := by
  intro w o w' h
  rw [Class.fromNameWith_run] at h
  split_ifs at h
  cases h
  exact Class.fromPtr_nonNull _

theorem Class.getFieldFromName_nonNull (self : Class) (name : RStr) :
    Ensures (self.getFieldFromName rt name) (∀ f ∈ ·, NonNull f) := by
  intro w o w' h
  rw [Class.getFieldFromName_run] at h
  split_ifs at h
  cases h
  exact ClassField.fromPtr_nonNull _

theorem ClassField.getValueObject_nonNull (self : ClassField) (obj : Object) :
    Ensures (self.getValueObject rt obj) (∀ o ∈ ·, NonNull o) := by
  intro w o w' h
  cases h
  exact Object.fromPtr_nonNull _

theorem Domain.assemblyOpen_nonNull (self : Domain) (path : RStr) :
    Ensures (self.assemblyOpen rt path) (∀ a ∈ ·, NonNull a) := by
  intro w o w' h
  rw [Domain.assemblyOpen_run] at h
  split_ifs at h
  cases h
  split_ifs with hp
  · simp
  · simpa [NonNull, Handle.ptr, Assembly.fromPtr] using hp

/-! ### Every handle-producing operation -/

/-- No `Class`, `ClassField`, `Method`, `Object` or `Assembly` a safe operation returns
holds null; `Domain::create` returns the runtime's domain pointer as it is. -/
theorem handles_nonNull :
    (∀ image nspace name, Ensures (Class.fromName rt image nspace name) (∀ c ∈ ·, NonNull c)) ∧
    (∀ image nspace name,
      Ensures (Class.fromNameCase rt image nspace name) (∀ c ∈ ·, NonNull c)) ∧
    (∀ self : Class, ∀ c ∈ self.getParent rt, NonNull c) ∧
    (∀ self : Class, ∀ c ∈ self.getNestingType rt, NonNull c) ∧
    (∀ self : Class, Ensures (self.getElementClass rt) NonNull) ∧
    (∀ b msg, Ensures (Class.getBuiltin rt b msg) NonNull) ∧
    (∀ (self : Class) fuel, ∀ r ∈ self.getFields rt fuel, ∀ f ∈ r, NonNull f) ∧
    (∀ (self : Class) fuel, ∀ r ∈ self.getMethods rt fuel, ∀ m ∈ r, NonNull m) ∧
    (∀ (self : Class) fuel, ∀ r ∈ self.getNestedTypes rt fuel, ∀ c ∈ r, NonNull c) ∧
    (∀ (self : Class) fuel, ∀ r ∈ self.getInterfaces rt fuel, ∀ c ∈ r, NonNull c) ∧
    (∀ p, ∀ f ∈ ClassField.fromPtr p, NonNull f) ∧
    (∀ (self : Class) name, Ensures (self.getFieldFromName rt name) (∀ f ∈ ·, NonNull f)) ∧
    (∀ self : ClassField, Ensures (self.getParent rt) NonNull) ∧
    (∀ (self : ClassField) obj, Ensures (self.getValueObject rt obj) (∀ o ∈ ·, NonNull o)) ∧
    (∀ (self : Domain) path, Ensures (self.assemblyOpen rt path) (∀ a ∈ ·, NonNull a)) ∧
    (∀ w, Returns (Domain.create rt) w (Domain.fromPtr (rt.monoDomainCreate w))) := by
  refine ⟨fun _ _ _ => Class.fromNameWith_nonNull _ _ _ _, fun _ _ _ =>
    Class.fromNameWith_nonNull _ _ _ _, fun _ => Class.fromPtr_nonNull _,
    fun _ => Class.fromPtr_nonNull _, fun _ => ensures_expect_fromPtr _ _,
    fun _ _ => ensures_expect_fromPtr _ _,
    fun self _ _ => (Class.getFields_enumerates rt self).nonNull (fun _ => rfl),
    fun self _ _ => (Class.getMethods_enumerates rt self).nonNull (fun _ => rfl),
    fun self _ _ => (Class.getNestedTypes_enumerates rt self).nonNull (fun _ => rfl),
    fun self _ _ => (Class.getInterfaces_enumerates rt self).nonNull (fun _ => rfl),
    ClassField.fromPtr_nonNull,
    Class.getFieldFromName_nonNull rt, fun _ => ensures_expect_fromPtr _ _,
    ClassField.getValueObject_nonNull rt, Domain.assemblyOpen_nonNull rt,
    fun w => ⟨_, Domain.create_run rt w⟩⟩

/-- A runtime whose `mono_domain_create` fails: `Domain::create` returns a `Domain`
around null. -/
theorem domain_create_null :
    Returns (Domain.create (default : Mono)) World.init ⟨Ptr.null⟩ ∧
      ¬ NonNull (⟨Ptr.null⟩ : Domain) :=
  ⟨⟨_, rfl⟩, fun h => h rfl⟩

end WrappedMono
