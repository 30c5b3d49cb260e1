import WrappedMono.Enumerator

/-! # `Class` and `ClassField` (`class.rs`)

Every method of `class.rs`, in the order of the source, for a runtime `rt`, and what the
reflection queries and the name getters return.

* Lookups by name (`fromName`, `fromNameCase`, `getFieldFromName`) copy their
  arguments into `CString`s with `CString::new(..).expect(..)`, pass them to the runtime
  and drop them when their scope ends; the explicit `drop(cstr)` of `getFieldFromName`
  stands at that end.
* Name getters rebuild a `CString` from the runtime's pointer with `CString::from_raw`,
  copy its text out with `to_str().expect(..)`, and then either give the pointer up with
  `intoRaw` (`Class`) or `drop` the `CString` (`ClassField`).
* The four enumeration accessors take a `fuel` bound on the runtime calls of their loop
  (`drainFrom`); `none` means the loop had not finished.  They are the one loop applied to
  their enumerator, so each materialises its enumeration (`enumeration_accessors_collect`).
* The built-in type accessors are one definition, `getBuiltin`, applied to each type and
  each message of the source.
* `isAssignableFrom` asks the runtime about `(self, self)`: its answer does not depend on
  its argument (`Class.isAssignableFrom_eq_self`), unlike `implementsInterface`, which
  passes `iface.class_ptr`.
* The names `mono_class_get_name`, `mono_class_get_namespace` and `mono_field_get_name`
  return point into the runtime's metadata; spec §4.3 calls them borrowed: the wrapper must
  copy the text before the NUL and must not release the pointer.  `Class::get_name` and
  `Class::get_namespace` borrow (`BorrowsCStr`), or panic when the text is not UTF-8, as
  the source does (`to_str().expect(..)`; spec §7 asks for a `MarshalError` instead).
  `ClassField::get_name` copies the same text (`CopiesCStr`) but drops the `CString` it
  rebuilt with `fromRaw`, handing the runtime's pointer to the Rust allocator on every
  call (`ClassField.getName_releases`). -/

namespace WrappedMono

/-! ### `Class` -/

namespace Class

variable (rt : Mono) (self : Class)

/-- `Class::get_ptr`. -/
def getPtr : Ptr := self.classPtr

/-- `Class::from_name` and `Class::from_name_case`, for the runtime lookup `lookup`. -/
def fromNameWith (lookup : Ptr → List UInt8 → List UInt8 → Ptr) (image : Image)
    (nspace name : RStr) : RustM (Option Class) := do
  let cstrNspace ← expectOk (← CString.new nspace) "Could not create CString"
  cstrNspace.scope do
    let cstrName ← expectOk (← CString.new name) "Could not create CString"
    cstrName.scope do
      let res ← observe fun w =>
        lookup image.imagePtr (w.cstr cstrNspace.asPtr) (w.cstr cstrName.asPtr)
      pure (Class.fromPtr res)

/-- `Class::from_name`. -/
def fromName (image : Image) (nspace name : RStr) : RustM (Option Class) :=
  fromNameWith rt.monoClassFromName image nspace name

/-- `Class::from_name_case`. -/
def fromNameCase (image : Image) (nspace name : RStr) : RustM (Option Class) :=
  fromNameWith rt.monoClassFromNameCase image nspace name

/-- `Class::get_field_from_name`. -/
def getFieldFromName (name : RStr) : RustM (Option ClassField) := do
  let cstr ← expectOk (← CString.new name) "Could not create CString"
  cstr.scope do
    observe fun w =>
      ClassField.fromPtr (rt.monoClassGetFieldFromName self.getPtr (w.cstr cstr.asPtr))

/-- The body of `Class::get_name` and `Class::get_namespace` for the runtime's pointer `p`:
`fromRaw`, `to_str().expect(msg).to_owned()`, then `intoRaw`, as the pointer "does not
have to be released". -/
def borrowName (p : Ptr) (msg : String) : RustM RStr := do
  let cstr := CString.fromRaw p
  let res ← cstr.unwinding do expectSome (← cstr.toStr) msg
  let _ := cstr.intoRaw
  pure res

/-- `Class::get_name`. -/
def getName : RustM RStr :=
  borrowName (rt.monoClassGetName self.classPtr) "Could not covert CString to String!"

/-- `Class::get_image`. -/
def getImage : Image := Image.fromPtr (rt.monoClassGetImage self.classPtr)

/-- `Class::array_element_size`. -/
def arrayElementSize : BitVec 32 := rt.monoClassArrayElementSize self.classPtr

/-- `Class::get_interfaces`. -/
def getInterfaces (fuel : Nat) : Option (List Class) :=
  drainFrom Class.fromPtr (rt.monoClassGetInterfaces self.classPtr) fuel Ptr.null []

/-- `Class::get_namespace`. -/
def getNamespace : RustM RStr :=
  borrowName (rt.monoClassGetNamespace self.classPtr) "Could not create CString!"

/-- `Class::get_nesting_type`. -/
def getNestingType : Option Class := Class.fromPtr (rt.monoClassGetNestingType self.classPtr)

/-- `Class::get_parent`. -/
def getParent : Option Class := Class.fromPtr (rt.monoClassGetParent self.classPtr)

/-- `Class::get_rank`. -/
def getRank : BitVec 32 := rt.monoClassGetRank self.classPtr

/-- `Class::data_size`. -/
def dataSize : BitVec 32 := rt.monoClassDataSize self.classPtr

/-- `Class::get_element_class`. -/
def getElementClass : RustM Class :=
  expectSome (Class.fromPtr (rt.monoClassGetElementClass self.classPtr))
    "Colud not get array element class!"

/-- `Class::implements_interface`. -/
def implementsInterface (iface : Class) : Bool :=
  rt.monoClassImplementsInterface self.classPtr iface.classPtr != 0

/-- `Class::is_assignable_from`: the source passes `self.class_ptr` twice. -/
def isAssignableFrom (_other : Class) : Bool :=
  rt.monoClassIsAssignableFrom self.classPtr self.classPtr != 0

/-- `Class::is_delegate`. -/
def isDelegate : Bool := rt.monoClassIsDelegate self.classPtr != 0

/-- `Class::is_enum`. -/
def isEnum : Bool := rt.monoClassIsEnum self.classPtr != 0

/-- `Class::num_fields`. -/
def numFields : BitVec 32 := rt.monoClassNumFields self.classPtr

/-- `Class::num_methods`. -/
def numMethods : BitVec 32 := rt.monoClassNumMethods self.classPtr

/-- `Class::num_properties`. -/
def numProperties : BitVec 32 := rt.monoClassNumProperties self.classPtr

/-- `Class::is_valuetype`. -/
def isValuetype : Bool := rt.monoClassIsValuetype self.classPtr != 0

/-- The body of every built-in type accessor:
`Self::from_ptr(mono_get_*_class()).expect(msg)`. -/
def getBuiltin (b : Builtin) (msg : String) : RustM Class :=
  expectSome (Class.fromPtr (rt.monoGetClass b)) msg

def getObject := getBuiltin rt .object "Could not get calls representing System.Object!"
def getInt16 := getBuiltin rt .int16 "Could not get calls representing System.Int16!"
def getInt32 := getBuiltin rt .int32 "Could not get calls representing System.Int32!"
def getInt64 := getBuiltin rt .int64 "Could not get calls representing System.Int64!"
def getDouble := getBuiltin rt .double "Could not get calls representing System.Double!"
def getEnum := getBuiltin rt .enum "Could not get calls representing System.Enum!"
def getIntPtr := getBuiltin rt .intptr "Could not get calls representing System.IntPtr!"
def getSbyte := getBuiltin rt .sbyte "Could not get calls representing System.IntPtr!"
def getSingle := getBuiltin rt .single "Could not get calls representing System.Single!"
def getString := getBuiltin rt .string "Could not get calls representing System.String!"
def getThread := getBuiltin rt .thread
  "Could not get calls representing System.Threading.Thread!"
def getUint16 := getBuiltin rt .uint16 "Could not get calls representing System.UInt16!"
def getUint32 := getBuiltin rt .uint32 "Could not get calls representing System.UInt32!"
def getUint64 := getBuiltin rt .uint64 "Could not get calls representing System.UInt64!"
def getUintPtr := getBuiltin rt .uintptr "Could not get calls representing System.IntPtr!"
def getVoid := getBuiltin rt .void "Could not get calls representing System.Void!"
def getArray := getBuiltin rt .array "Could not get calls representing System.Array!"
def getBoolean := getBuiltin rt .boolean "Could not get calls representing System.Boolean!"
def getByte := getBuiltin rt .byte "Could not get calls representing System.Byte!"
def getChar := getBuiltin rt .char "Could not get calls representing System.Char!"

/-- `Class::get_fields`. -/
def getFields (fuel : Nat) : Option (List ClassField) :=
  drainFrom ClassField.fromPtr (rt.monoClassGetFields self.classPtr) fuel Ptr.null []

/-- `Class::get_methods`. -/
def getMethods (fuel : Nat) : Option (List Method) :=
  drainFrom Method.fromPtr (rt.monoClassGetMethods self.classPtr) fuel Ptr.null []

/-- `Class::get_nested_types`. -/
def getNestedTypes (fuel : Nat) : Option (List Class) :=
  drainFrom Class.fromPtr (rt.monoClassGetNestedTypes self.classPtr) fuel Ptr.null []

end Class

/-! ### `ClassField` -/

namespace ClassField

variable (rt : Mono) (self : ClassField)

/-- `ClassField::get_ptr`. -/
def getPtr : Ptr := self.cfPtr

/-- `ClassField::get_name`: `fromRaw`, `to_str().expect(..).to_owned()`, then
`drop(cstr)`. -/
def getName : RustM RStr := do
  let cstr := CString.fromRaw (rt.monoFieldGetName self.getPtr)
  let s ← cstr.unwinding do expectSome (← cstr.toStr) "Could not create String from ptr"
  cstr.drop
  pure s

/-- `ClassField::get_data`. -/
def getData : Ptr := rt.monoFieldGetData self.getPtr

/-- `ClassField::get_parent`. -/
def getParent : RustM Class :=
  expectSome (Class.fromPtr (rt.monoFieldGetParent self.getPtr))
    "Could not get ClassFiled of Class"

/-- Modelled from the spec: `ObjectTrait::get_domain` is not in src/; the domain the
runtime reports for the object. -/
def objectDomain (obj : Object) : RustM Domain :=
  observe fun w => Domain.fromPtr (rt.monoObjectGetDomain w obj.objPtr)

/-- `ClassField::get_value_object`. -/
def getValueObject (obj : Object) : RustM (Option Object) := do
  let dom ← objectDomain rt obj
  observe fun w =>
    Object.fromPtr (rt.monoFieldGetValueObject w dom.ptr self.getPtr obj.objPtr)

/-- `ClassField::set_value_unsafe`. -/
def setValueUnsafe (obj : Object) (valuePtr : Ptr) : RustM Unit :=
  invoke (.monoFieldSetValue obj.objPtr self.getPtr valuePtr) fun _ => ()

end ClassField

/-! ### What the lookups and the name getters do -/

section run

variable (rt : Mono) (w : World)

/-- `fromName`: a panic when either text holds a NUL (after dropping the namespace's
`CString` if it was built), and otherwise the runtime's answer for the two texts, with
both `CString`s dropped, the name's first. -/
theorem Class.fromNameWith_run (lookup : Ptr → List UInt8 → List UInt8 → Ptr) (image : Image)
    (nspace name : RStr) : Class.fromNameWith lookup image nspace name w =
    if 0 ∈ nspace.bytes then .error "Could not create CString" w else
    let w₁ := w.allocate (nspace.bytes ++ [0])
    if 0 ∈ name.bytes then .error "Could not create CString" (w₁.release w.fresh) else
    let w₂ := w₁.allocate (name.bytes ++ [0])
    .ok (Class.fromPtr (lookup image.imagePtr nspace.bytes name.bytes))
      ((w₂.release w₁.fresh).release w.fresh) := by
  unfold Class.fromNameWith
  by_cases h₁ : 0 ∈ nspace.bytes <;> by_cases h₂ : 0 ∈ name.bytes <;>
    simp [h₁, h₂, World.cstr, cstrBytes_append_nul]

theorem Class.getFieldFromName_run (self : Class) (name : RStr) :
    self.getFieldFromName rt name w =
    if 0 ∈ name.bytes then .error "Could not create CString" w else
    .ok (ClassField.fromPtr (rt.monoClassGetFieldFromName self.classPtr name.bytes))
      ((w.allocate (name.bytes ++ [0])).release w.fresh) := by
  unfold Class.getFieldFromName
  by_cases h : 0 ∈ name.bytes <;> simp [h, Class.getPtr]

/-- `Class`'s name getters copy the text out and hand the pointer back to nobody, unless
the text is not UTF-8: the panic then unwinds through the `CString`, which releases it. -/
theorem Class.borrowName_run (p : Ptr) (msg : String) : Class.borrowName p msg w =
    match w.readStr p with
    | some s => .ok s w
    | none => .error msg (w.release p) := by
  unfold Class.borrowName
  cases h : w.readStr p <;> simp [h, CString.fromRaw]

/-- `ClassField::get_name` releases the runtime's pointer whether it returns or panics. -/
theorem ClassField.getName_run (self : ClassField) : self.getName rt w =
    let p := rt.monoFieldGetName self.cfPtr
    match w.readStr p with
    | some s => .ok s (w.release p)
    | none => .error "Could not create String from ptr" (w.release p) := by
  unfold ClassField.getName
  cases h : w.readStr (rt.monoFieldGetName self.cfPtr) <;>
    simp [h, CString.fromRaw, ClassField.getPtr]

end run

/-! ### What the reflection queries return -/

section Enumeration

variable (rt : Mono) (self : Class)

theorem Class.getFields_enumerates :
    Enumerates (self.getFields rt) ClassField.mk (rt.monoClassGetFields self.classPtr) :=
  enumerates_drainFrom

theorem Class.getMethods_enumerates :
    Enumerates (self.getMethods rt) Method.mk (rt.monoClassGetMethods self.classPtr) :=
  enumerates_drainFrom

theorem Class.getNestedTypes_enumerates :
    Enumerates (self.getNestedTypes rt) Class.mk
      (rt.monoClassGetNestedTypes self.classPtr) :=
  enumerates_drainFrom

theorem Class.getInterfaces_enumerates :
    Enumerates (self.getInterfaces rt) Class.mk (rt.monoClassGetInterfaces self.classPtr) :=
  enumerates_drainFrom

/-- Every enumeration accessor returns, given enough calls, the handles of the items its
runtime enumerator yields from the null cursor before its first null, in order. -/
theorem enumeration_accessors_collect :
    Enumerates (self.getFields rt) ClassField.mk (rt.monoClassGetFields self.classPtr) ∧
    Enumerates (self.getMethods rt) Method.mk (rt.monoClassGetMethods self.classPtr) ∧
    Enumerates (self.getNestedTypes rt) Class.mk
      (rt.monoClassGetNestedTypes self.classPtr) ∧
    Enumerates (self.getInterfaces rt) Class.mk (rt.monoClassGetInterfaces self.classPtr) :=
  ⟨Class.getFields_enumerates rt self, Class.getMethods_enumerates rt self,
    Class.getNestedTypes_enumerates rt self, Class.getInterfaces_enumerates rt self⟩

end Enumeration

/-- `isAssignableFrom` never reads its argument. -/
theorem Class.isAssignableFrom_eq_self (rt : Mono) (self other : Class) :
    self.isAssignableFrom rt other = self.isAssignableFrom rt self := rfl

/-- `System.String` (`⟨1⟩`) asked whether it is assignable from `System.Object` (`⟨2⟩`), in
a runtime where only `System.Object` accepts other classes: the runtime says no, the
wrapper says yes. -/
theorem isAssignableFrom_string_object :
    let rt : Mono := { (default : Mono) with
      monoClassIsAssignableFrom := fun a b => if a = b ∨ a = ⟨2⟩ then 1 else 0 }
    (Class.mk ⟨1⟩).isAssignableFrom rt (Class.mk ⟨2⟩) = true ∧
      rt.monoClassIsAssignableFrom ⟨1⟩ ⟨2⟩ = 0 := by
  decide

/-! ### The names the runtime owns -/

section names

variable (rt : Mono) (w : World)

/-- Whether it returns or panics, `ClassField::get_name` drops a `CString` that owns the
runtime's pointer: it writes a NUL into the name's first byte and appends the pointer to the
release log, and changes nothing else. -/
theorem ClassField.getName_releases (self : ClassField) :
    after (self.getName rt w) = w.release (rt.monoFieldGetName self.cfPtr) := by
  rw [ClassField.getName_run]
  cases h : w.readStr (rt.monoFieldGetName self.cfPtr) <;> simp [h, after]

/-- Called twice on one field, `ClassField::get_name` releases the runtime's name pointer
twice. -/
theorem ClassField.getName_releases_twice (self : ClassField) :
    (after (self.getName rt (after (self.getName rt w)))).released =
      w.released ++ [rt.monoFieldGetName self.cfPtr, rt.monoFieldGetName self.cfPtr] := by
  simp [ClassField.getName_releases]

end names

end WrappedMono
