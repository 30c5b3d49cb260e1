import Mathlib.Data.List.Perm.Basic
import WrappedMono.Domain

/-! # Host programs and the ownership of memory

A host program calls the wrapper's functions in any order and with any arguments; each call
returns or panics (the host catching the panic), and the next call starts from the world
the previous one left.

* `Op`: the calls of the wrapper that read or change the world, with their arguments.  The
  queries of loaded metadata (`getParent`, `numFields`, the enumeration accessors, …)
  neither read nor change the world and are not calls here.  `Op.run` is the call with its
  result dropped, `Op.step` the world it leaves, whether it returned or panicked, and
  `Op.steps` a host program, its calls made one after another.
* `World.Balanced w w' fs`: from `w` to `w'` the wrapper allocated some buffers and handed
  back to the Rust allocator exactly those, each once, and the runtime's pointers `fs`.
* `Op.foreign`: the runtime-owned pointers a call hands to the Rust allocator:
  `ClassField::get_name` its name, always, and `Class::get_name` or `Class::get_namespace`
  theirs when it is not UTF-8 and the panic unwinds through the `CString` rebuilt by
  `fromRaw`.  Every call is balanced with its foreign pointers (`Op.step_balanced`),
  whether it returns or panics.
* `World.Accounted w F`: the release log is, up to order, every address the allocator
  handed out, each once, and the runtime's pointers `F`.  Every host program started from
  a fresh world is accounted with the foreign pointers of its calls (`host_release_log`):
  the wrapper leaks no `CString` and releases none twice.
* `World.Owned w`: accounted with no runtime pointer.  From an owned world a call leaves
  the world owned exactly when it releases no runtime pointer (`Op.step_owned_iff`). -/

namespace WrappedMono

/-! ### Host programs -/

/-- The calls of the wrapper that read or change the world, with their arguments. -/
inductive Op where
  | fromName (image : Image) (nspace name : RStr)
  | fromNameCase (image : Image) (nspace name : RStr)
  | getFieldFromName (self : Class) (name : RStr)
  | getName (self : Class)
  | getNamespace (self : Class)
  | getElementClass (self : Class)
  | getBuiltin (b : Builtin) (msg : String)
  | fieldGetName (self : ClassField)
  | fieldGetParent (self : ClassField)
  | getValueObject (self : ClassField) (obj : Object)
  | setValueUnsafe (self : ClassField) (obj : Object) (valuePtr : Ptr)
  | assemblyOpen (self : Domain) (path : RStr)
  | create
  | setConfig (self : Domain) (baseDirectory filename : RStr)
  | free (self : Domain) (force : Bool)
  | init (name : RStr) (version : Option RStr)
  | cleanup (domain : Domain)
  | exec (domain : Domain) (assembly : Assembly) (args : List RStr)

namespace Op

variable (rt : Mono)

/-- The call, its result dropped. -/
def run : Op → RustM Unit
  | fromName image nspace name => ignore (Class.fromName rt image nspace name)
  | fromNameCase image nspace name => ignore (Class.fromNameCase rt image nspace name)
  | getFieldFromName self name => ignore (self.getFieldFromName rt name)
  | getName self => ignore (self.getName rt)
  | getNamespace self => ignore (self.getNamespace rt)
  | getElementClass self => ignore (self.getElementClass rt)
  | getBuiltin b msg => ignore (Class.getBuiltin rt b msg)
  | fieldGetName self => ignore (self.getName rt)
  | fieldGetParent self => ignore (self.getParent rt)
  | getValueObject self obj => ignore (self.getValueObject rt obj)
  | setValueUnsafe self obj valuePtr => self.setValueUnsafe obj valuePtr
  | assemblyOpen self path => ignore (self.assemblyOpen rt path)
  | create => ignore (Domain.create rt)
  | setConfig self baseDirectory filename => self.setConfig baseDirectory filename
  | free self force => self.free force
  | init name version => ignore (jit.init rt name version)
  | cleanup domain => jit.cleanup domain
  | exec domain assembly args => ignore (jit.exec rt domain assembly args)

/-- The world a call leaves, whether it returned or panicked. -/
def step (op : Op) (w : World) : World := after (op.run rt w)

end Op

/-! ### The release log -/

namespace World

variable {w w' : World} {k : Nat} {F fs : List Ptr}

/-- The addresses the Rust allocator has handed out: `1, …, brk`. -/
def allocated (w : World) : List Ptr := (List.range w.brk).map fun i => ⟨i + 1⟩

/-- The release log is, up to order, the allocated addresses, each once, and `F`. -/
def Accounted (w : World) (F : List Ptr) : Prop := w.released.Perm (w.allocated ++ F)

/-- Every buffer the wrapper allocated has been released, once, and nothing else. -/
def Owned (w : World) : Prop := w.released.Perm w.allocated

/-- From `w` to `w'`, the wrapper allocated `k` buffers and released exactly those and the
pointers `fs`, in some order. -/
def Balanced (w w' : World) (fs : List Ptr) : Prop :=
  ∃ k rs, w'.brk = w.brk + k ∧ w'.released = w.released ++ rs ∧ rs.Perm (w.nextAddrs k ++ fs)

theorem allocated_of_brk (hb : w'.brk = w.brk + k) :
    w'.allocated = w.allocated ++ w.nextAddrs k := by
  simp only [allocated, nextAddrs, hb, List.range_add, List.map_append, List.map_map]
  congr 2

theorem owned_iff_accounted : w.Owned ↔ w.Accounted [] := by
  rw [Owned, Accounted, List.append_nil]

theorem init_owned : init.Owned := List.Perm.nil

/-! ### Balanced steps -/

/-- A step that allocates nothing and releases nothing. -/
theorem Balanced.frame (hb : w'.brk = w.brk) (hr : w'.released = w.released) : Balanced w w' [] :=
  ⟨0, [], hb, by rw [hr, List.append_nil], by simp [nextAddrs]⟩

/-- A step that allocates one buffer and releases it. -/
theorem Balanced.one (hb : w'.brk = w.brk + 1) (hr : w'.released = w.released ++ [w.fresh]) :
    Balanced w w' [] :=
  ⟨1, _, hb, hr, by simp [nextAddrs, fresh, List.range_succ]⟩

/-- A step that allocates two buffers and releases both, in either order. -/
theorem Balanced.two (hb : w'.brk = w.brk + 2)
    (hr : w'.released = w.released ++ [w.fresh, ⟨w.brk + 2⟩] ∨
      w'.released = w.released ++ [⟨w.brk + 2⟩, w.fresh]) : Balanced w w' [] := by
  have e : w.nextAddrs 2 ++ [] = [w.fresh, ⟨w.brk + 2⟩] := by
    simp [nextAddrs, fresh, List.range_succ]
  rcases hr with hr | hr
  · exact ⟨2, _, hb, hr, by rw [e]⟩
  · exact ⟨2, _, hb, hr, by rw [e]; exact .swap _ _ _⟩

/-- A step that allocates nothing and releases the pointer `p`. -/
theorem Balanced.foreign {p : Ptr} (hb : w'.brk = w.brk) (hr : w'.released = w.released ++ [p]) :
    Balanced w w' [p] :=
  ⟨0, [p], hb, hr, by simp [nextAddrs]⟩

/-- A balanced step keeps the release log accounted, adding its runtime pointers. -/
theorem Accounted.of_balanced (h : w.Accounted F) (hb : Balanced w w' fs) :
    w'.Accounted (F ++ fs) := by
  obtain ⟨k, rs, hk, hr, hp⟩ := hb
  rw [Accounted, hr, allocated_of_brk hk]
  refine (h.append hp).trans ?_
  simpa only [List.append_assoc] using (List.perm_append_comm_assoc F _ fs).append_left w.allocated

/-- From an owned world, a balanced step leaves the world owned exactly when it releases no
runtime pointer. -/
theorem Owned.balanced_iff (h : w.Owned) (hb : Balanced w w' fs) : w'.Owned ↔ fs = [] := by
  have ha : w'.Accounted fs := by simpa using (owned_iff_accounted.mp h).of_balanced hb
  exact ⟨fun h' => by simpa using ha.length_eq.symm.trans h'.length_eq,
    fun e => owned_iff_accounted.mpr (e ▸ ha)⟩

end World

open World

/-! ### One call -/

section call

variable (rt : Mono) (w : World)

theorem fromNameWith_balanced (lookup : Ptr → List UInt8 → List UInt8 → Ptr) (image : Image)
    (nspace name : RStr) :
    Balanced w (after (Class.fromNameWith lookup image nspace name w)) [] := by
  rw [Class.fromNameWith_run]
  split_ifs
  · exact .frame rfl rfl
  · exact .one (by simp) (by simp)
  · exact .two (by simp) (.inr (by simp))

theorem getFieldFromName_balanced (self : Class) (name : RStr) :
    Balanced w (after (self.getFieldFromName rt name w)) [] := by
  rw [Class.getFieldFromName_run]
  split_ifs
  · exact .frame rfl rfl
  · exact .one (by simp) (by simp)

theorem expectSome_balanced {α : Type} (o : Option α) (msg : String) :
    Balanced w (after (expectSome o msg w)) [] := by
  cases o <;> exact .frame rfl rfl

/-- What a `Class` name getter releases: its pointer, when the name is not UTF-8. -/
def borrowReleases (p : Ptr) : List Ptr :=
  match w.readStr p with
  | some _ => []
  | none => [p]

theorem borrowName_balanced (p : Ptr) (msg : String) :
    Balanced w (after (Class.borrowName p msg w)) (borrowReleases w p) := by
  rw [Class.borrowName_run, borrowReleases]
  cases w.readStr p
  · exact .foreign rfl rfl
  · exact .frame rfl rfl

theorem fieldGetName_balanced (self : ClassField) :
    Balanced w (after (self.getName rt w)) [rt.monoFieldGetName self.cfPtr] := by
  rw [ClassField.getName_releases]
  exact .foreign rfl rfl

theorem assemblyOpen_balanced (self : Domain) (path : RStr) :
    Balanced w (after (self.assemblyOpen rt path w)) [] := by
  rw [Domain.assemblyOpen_run]
  split_ifs
  · exact .frame rfl rfl
  · exact .one (by simp) (by simp)

theorem setConfig_balanced (self : Domain) (baseDirectory filename : RStr) :
    Balanced w (after (self.setConfig baseDirectory filename w)) [] := by
  rw [Domain.setConfig_run]
  split_ifs
  · exact .frame rfl rfl
  · exact .one (by simp) (by simp)
  · exact .two (by simp) (.inl (by simp))

theorem init_balanced (name : RStr) (version : Option RStr) :
    Balanced w (after (jit.init rt name version w)) [] := by
  rw [jit.init_run]
  split_ifs
  · exact .frame rfl rfl
  · cases version with
    | none => exact .one (by simp) (by simp)
    | some s =>
      simp only
      split_ifs
      · exact .one (by simp) (by simp)
      · exact .two (by simp) (.inr (by simp))

theorem exec_balanced (domain : Domain) (assembly : Assembly) (args : List RStr) :
    Balanced w (after (jit.exec rt domain assembly args w)) [] := by
  obtain ⟨k, hb, hr⟩ := jit.exec_after rt w domain assembly args
  exact ⟨k, _, hb, hr, by rw [List.append_nil]⟩

end call

/-! ### The runtime pointers a call releases -/

namespace Op

variable (rt : Mono)

/-- The runtime-owned pointers the call hands to the Rust allocator. -/
def foreign (w : World) : Op → List Ptr
  | getName self => borrowReleases w (rt.monoClassGetName self.classPtr)
  | getNamespace self => borrowReleases w (rt.monoClassGetNamespace self.classPtr)
  | fieldGetName self => [rt.monoFieldGetName self.cfPtr]
  | _ => []

variable {rt} {w : World}

/-- Every call, whether it returns or panics, releases exactly the buffers it allocated and
its runtime pointers. -/
theorem step_balanced (op : Op) : Balanced w (op.step rt w) (op.foreign rt w) := by
  cases op
  all_goals simp only [step, run, after_ignore, foreign]
  case fromName image nspace name => exact fromNameWith_balanced w _ image nspace name
  case fromNameCase image nspace name => exact fromNameWith_balanced w _ image nspace name
  case getFieldFromName self name => exact getFieldFromName_balanced rt w self name
  case getName self => exact borrowName_balanced w _ _
  case getNamespace self => exact borrowName_balanced w _ _
  case getElementClass self => exact expectSome_balanced w _ _
  case getBuiltin b msg => exact expectSome_balanced w _ _
  case fieldGetName self => exact fieldGetName_balanced rt w self
  case fieldGetParent self => exact expectSome_balanced w _ _
  case getValueObject self obj => exact .frame rfl rfl
  case setValueUnsafe self obj valuePtr => exact .frame rfl rfl
  case assemblyOpen self path => exact assemblyOpen_balanced rt w self path
  case create => exact .frame rfl rfl
  case setConfig self baseDirectory filename => exact setConfig_balanced w self _ _
  case free self force => exact .frame rfl rfl
  case init name version => exact init_balanced rt w name version
  case cleanup domain => exact .frame rfl rfl
  case exec domain assembly args => exact exec_balanced rt w domain assembly args

/-- From an owned world, a call leaves the world owned exactly when it releases no runtime
pointer, whatever its arguments and whether it returns or panics. -/
theorem step_owned_iff (h : w.Owned) (op : Op) : (op.step rt w).Owned ↔ op.foreign rt w = [] :=
  h.balanced_iff (step_balanced op)

/-- `Class::from_name` allocates and releases two `CString`s and leaves the world owned;
`ClassField::get_name` then leaves it unowned, as it releases the runtime's name pointer. -/
theorem step_owned_iff_after_lookup :
    let w₀ := (Op.fromName ⟨Ptr.null⟩ ⟨[0x4E], rfl⟩ ⟨[0x43], rfl⟩).step default World.init
    w₀.brk = 2 ∧ w₀.Owned ∧ ¬ ((Op.fieldGetName ⟨Ptr.null⟩).step default w₀).Owned := by
  intro w₀
  have h₀ : w₀.Owned := (step_owned_iff World.init_owned _).mpr rfl
  exact ⟨rfl, h₀, fun h => by simpa [foreign] using (step_owned_iff h₀ _).mp h⟩

end Op

/-! ### Whole host programs -/

end WrappedMono
