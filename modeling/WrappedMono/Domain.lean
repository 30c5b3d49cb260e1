import WrappedMono.Class

/-! # `Domain` and the runtime's lifecycle (`domain.rs`, `jit.rs`)

* `Domain::assembly_open` and `Domain::set_config` pass their paths to the runtime as
  `CString`s; `jit::init` passes the domain name and the optional runtime version.
* `jit::exec` computes `argc` as `args.len() as i32`, the low 32 bits of the length read
  as a two's complement number (`BitVec.ofNat 32`), then copies each argument into a
  `CString` (`exec.pushArgs`), pushing the `CString` onto `cstr_args` and its pointer onto
  `argv`, calls `mono_jit_exec`, and drops `cstr_args`, first to last.
* Nothing here checks the lifecycle of spec §4.5: `init` and `cleanup` are plain calls.
* The lookups by name, `Class::from_name`, `Class::from_name_case`,
  `Class::get_field_from_name` and `Domain::assembly_open`, panic exactly when a text
  argument holds a NUL byte, which `CString::new` refuses and `expect` turns into a panic;
  every other argument reaches the runtime, whose answer becomes `Some` or `None`
  (`lookups_panic_only_on_nul`). -/

namespace WrappedMono

namespace Domain

variable (rt : Mono) (self : Domain)

/-- `Domain::assembly_open`: the explicit `drop(cstr)` and the early `return None` both
end the scope of `cstr`. -/
def assemblyOpen (path : RStr) : RustM (Option Assembly) := do
  let cstr ← expectOk (← CString.new path) "Couldn't create cstring!"
  cstr.scope do
    let ptr ← invoke (.monoDomainAssemblyOpen self.ptr cstr.asPtr) fun w =>
      rt.monoDomainAssemblyOpen w self.ptr cstr.asPtr
    if ptr = Ptr.null then pure none
    else pure (some (Assembly.fromPtr ptr))

/-- `Domain::create`. -/
def create : RustM Domain := do
  let ptr ← invoke .monoDomainCreate rt.monoDomainCreate
  pure (Domain.fromPtr ptr)

/-- `Domain::set_config`: the two `CString`s are dropped explicitly, in declaration order. -/
def setConfig (baseDirectory filename : RStr) : RustM Unit := do
  let bdCstr ← expectOk (← CString.new baseDirectory) "Could not create CString"
  let fnmeCstr ← bdCstr.unwinding do
    expectOk (← CString.new filename) "Could not create CString"
  invoke (.monoDomainSetConfig self.ptr bdCstr.asPtr fnmeCstr.asPtr) fun _ => ()
  bdCstr.drop
  fnmeCstr.drop

/-- `Domain::get_ptr`. -/
def getPtr : Ptr := self.ptr

/-- `Domain::free`: `force as i32`. -/
def free (force : Bool) : RustM Unit :=
  invoke (.monoDomainFree self.ptr (if force then 1 else 0)) fun _ => ()

end Domain

namespace jit

variable (rt : Mono)

/-- `jit::init`. -/
def init (name : RStr) (version : Option RStr) : RustM Domain := do
  let nCstr ← expectOk (← CString.new name) "could not create cstring!"
  let res ← nCstr.unwinding do
    let ptr ← match version with
      | some s => do
        let vCstr ← expectOk (← CString.new s) "could not create cstring!"
        let ptr ← invoke (.monoJitInitVersion nCstr.asPtr vCstr.asPtr) fun w =>
          rt.monoJitInitVersion w nCstr.asPtr vCstr.asPtr
        vCstr.drop
        pure ptr
      | none => invoke (.monoJitInit nCstr.asPtr) fun w => rt.monoJitInit w nCstr.asPtr
    let res := Domain.createFromPtr ptr
    invoke (.monoConfigParse Ptr.null) fun _ => ()
    pure res
  nCstr.drop
  pure res

/-- `jit::cleanup`. -/
def cleanup (domain : Domain) : RustM Unit :=
  invoke (.monoJitCleanup domain.getPtr) fun _ => ()

/-- The loop `for arg in args` of `jit::exec`.  A panic of `unwrap` unwinds through
`cstr_args`, which drops the `CString`s pushed so far, first to last. -/
def exec.pushArgs : List RStr → List CString → List Ptr → RustM (List CString × List Ptr)
  | [], cstrArgs, argv => pure (cstrArgs, argv)
  | arg :: args, cstrArgs, argv => do
    let cstrArg ← CString.unwindingAll cstrArgs do
      expectOk (← CString.new arg) "called `Result::unwrap()` on an `Err` value"
    exec.pushArgs args (cstrArgs ++ [cstrArg]) (argv ++ [cstrArg.asPtr])

/-- `jit::exec`. -/
def exec (domain : Domain) (assembly : Assembly) (args : List RStr) : RustM (BitVec 32) := do
  let argc : BitVec 32 := BitVec.ofNat 32 args.length
  let (cstrArgs, argv) ← exec.pushArgs args [] []
  let res ← invoke (.monoJitExec domain.getPtr assembly.assemblyPtr argc argv) fun w =>
    rt.monoJitExec w domain.getPtr assembly.assemblyPtr argc argv
  CString.dropAll cstrArgs
  pure res

end jit

/-! ### What the domain operations do -/

section run

variable (rt : Mono) (w : World)

/-- `assemblyOpen`: a panic when the path holds a NUL, and otherwise one call of
`mono_domain_assembly_open` on the path's fresh `CString`, which is then dropped. -/
theorem Domain.assemblyOpen_run (self : Domain) (path : RStr) : self.assemblyOpen rt path w =
    if 0 ∈ path.bytes then .error "Couldn't create cstring!" w else
    let w₁ := w.allocate (path.bytes ++ [0])
    let ptr := rt.monoDomainAssemblyOpen w₁ self.ptr w.fresh
    .ok (if ptr = Ptr.null then none else some (Assembly.fromPtr ptr))
      ((w₁.record (.monoDomainAssemblyOpen self.ptr w.fresh)).release w.fresh) := by
  unfold Domain.assemblyOpen
  by_cases h : 0 ∈ path.bytes
  · simp [h]
  · by_cases hp : rt.monoDomainAssemblyOpen (w.allocate (path.bytes ++ [0])) self.ptr w.fresh =
      Ptr.null <;> simp [h, hp]

theorem Domain.create_run : Domain.create rt w =
    .ok (Domain.fromPtr (rt.monoDomainCreate w)) (w.record .monoDomainCreate) := rfl

/-- `setConfig`: a panic when a text holds a NUL (after dropping the first `CString` if it
was built), and otherwise one call with the two `CString`s, dropped in declaration order. -/
theorem Domain.setConfig_run (self : Domain) (baseDirectory filename : RStr) :
    self.setConfig baseDirectory filename w =
    if 0 ∈ baseDirectory.bytes then .error "Could not create CString" w else
    let w₁ := w.allocate (baseDirectory.bytes ++ [0])
    if 0 ∈ filename.bytes then .error "Could not create CString" (w₁.release w.fresh) else
    let w₂ := w₁.allocate (filename.bytes ++ [0])
    .ok () (((w₂.record (.monoDomainSetConfig self.ptr w.fresh w₁.fresh)).release w.fresh).release
      w₁.fresh) := by
  unfold Domain.setConfig
  by_cases h₁ : 0 ∈ baseDirectory.bytes <;> by_cases h₂ : 0 ∈ filename.bytes <;> simp [h₁, h₂]

/-- `init`: the name's `CString` lives until the end, the version's only around its call. -/
theorem jit.init_run (name : RStr) (version : Option RStr) : jit.init rt name version w =
    if 0 ∈ name.bytes then .error "could not create cstring!" w else
    let w₁ := w.allocate (name.bytes ++ [0])
    match version with
    | none =>
      .ok (Domain.createFromPtr (rt.monoJitInit w₁ w.fresh))
        (((w₁.record (.monoJitInit w.fresh)).record (.monoConfigParse Ptr.null)).release w.fresh)
    | some s =>
      if 0 ∈ s.bytes then .error "could not create cstring!" (w₁.release w.fresh) else
      let w₂ := w₁.allocate (s.bytes ++ [0])
      .ok (Domain.createFromPtr (rt.monoJitInitVersion w₂ w.fresh w₁.fresh))
        ((((w₂.record (.monoJitInitVersion w.fresh w₁.fresh)).release w₁.fresh).record
          (.monoConfigParse Ptr.null)).release w.fresh) := by
  unfold jit.init
  rcases version with _ | s
  · by_cases h₁ : 0 ∈ name.bytes <;> simp [h₁]
  · by_cases h₁ : 0 ∈ name.bytes <;> by_cases h₂ : 0 ∈ s.bytes <;> simp [h₁, h₂]

/-- The loop of `exec` on NUL-free arguments allocates their `CString`s in order. -/
theorem jit.exec.pushArgs_run (args : List RStr) (cs : List CString) (ps : List Ptr)
    (h : ∀ s ∈ args, 0 ∉ s.bytes) : jit.exec.pushArgs args cs ps w =
      let r := w.allocAll (args.map (·.bytes ++ [0]))
      .ok (cs ++ r.1.map CString.mk, ps ++ r.1) r.2 := by
  induction args generalizing w cs ps with
  | nil => simp [jit.exec.pushArgs, World.allocAll]
  | cons a as ih =>
    simp only [List.mem_cons, forall_eq_or_imp] at h
    simp [jit.exec.pushArgs, h.1, ih _ _ _ h.2, World.allocAll]

/-- `exec` on NUL-free arguments: one call of `mono_jit_exec` with `argc` the length cast
to `i32` and `argv` the fresh `CString`s of the arguments, which are then dropped. -/
theorem jit.exec_run (domain : Domain) (assembly : Assembly) (args : List RStr)
    (h : ∀ s ∈ args, 0 ∉ s.bytes) : jit.exec rt domain assembly args w =
      let r := w.allocAll (args.map (·.bytes ++ [0]))
      let argc := BitVec.ofNat 32 args.length
      .ok (rt.monoJitExec r.2 domain.ptr assembly.assemblyPtr argc r.1)
        ((r.2.record (.monoJitExec domain.ptr assembly.assemblyPtr argc r.1)).releaseAll r.1) := by
  simp [jit.exec, jit.exec.pushArgs_run w args [] [] h, Domain.getPtr, Function.comp_def]

/-- At the first argument holding a NUL, the loop of `exec` panics, having allocated the
`CString`s of the arguments before it and dropped the given ones and then those. -/
theorem jit.exec.pushArgs_run_of_nul (pre post : List RStr) (s : RStr) (cs : List CString)
    (ps : List Ptr) (hpre : ∀ x ∈ pre, 0 ∉ x.bytes) (hs : 0 ∈ s.bytes) :
    jit.exec.pushArgs (pre ++ s :: post) cs ps w =
      let r := w.allocAll (pre.map (·.bytes ++ [0]))
      .error "called `Result::unwrap()` on an `Err` value"
        (r.2.releaseAll ((cs ++ r.1.map CString.mk).map (·.raw))) := by
  induction pre generalizing w cs ps with
  | nil => simp [jit.exec.pushArgs, hs, World.allocAll]
  | cons a as ih =>
    simp only [List.mem_cons, forall_eq_or_imp] at hpre
    simp [jit.exec.pushArgs, hpre.1, ih _ _ _ hpre.2, World.allocAll]

/-- `exec` with an argument holding a NUL: the `unwrap` of its `CString::new` panics before
`mono_jit_exec` is called, and unwinding drops the `CString`s of the arguments before it. -/
theorem jit.exec_run_of_nul (domain : Domain) (assembly : Assembly) (pre post : List RStr)
    (s : RStr) (hpre : ∀ x ∈ pre, 0 ∉ x.bytes) (hs : 0 ∈ s.bytes) :
    jit.exec rt domain assembly (pre ++ s :: post) w =
      let r := w.allocAll (pre.map (·.bytes ++ [0]))
      .error "called `Result::unwrap()` on an `Err` value" (r.2.releaseAll r.1) := by
  simp [jit.exec, jit.exec.pushArgs_run_of_nul w pre post s [] [] hpre hs, Function.comp_def]

/-- On any arguments, the loop of `exec` allocates the `CString`s of a first stretch of
them; it returns them after the ones it was given, or, at an argument holding a NUL, panics
having dropped the given ones and then the new ones. -/
theorem jit.exec.pushArgs_after (args : List RStr) (cs : List CString) (ps : List Ptr) :
    ∃ k, match jit.exec.pushArgs args cs ps w with
      | .ok (cs', _) w' =>
        w'.brk = w.brk + k ∧ w'.released = w.released ∧ cs' = cs ++ (w.nextAddrs k).map CString.mk
      | .error _ w' =>
        w'.brk = w.brk + k ∧ w'.released = w.released ++ cs.map (·.raw) ++ w.nextAddrs k := by
  induction args generalizing w cs ps with
  | nil => exact ⟨0, by simp [jit.exec.pushArgs, World.nextAddrs]⟩
  | cons a as ih =>
    by_cases h : 0 ∈ a.bytes
    · exact ⟨0, by simp [jit.exec.pushArgs, h, World.nextAddrs]⟩
    · obtain ⟨k, hk⟩ := ih (w.allocate (a.bytes ++ [0])) (cs ++ [⟨w.fresh⟩]) (ps ++ [w.fresh])
      refine ⟨k + 1, ?_⟩
      simp only [jit.exec.pushArgs, bind_run, CString.new_run_of_not_mem _ h, expectOk_ok,
        CString.unwindingAll_run, World.nextAddrs_succ w (a.bytes ++ [0]), CString.asPtr_eq]
      split at hk <;> simp_all <;> omega

/-- Whether it returns or panics, `exec` has dropped exactly the `CString`s it allocated,
in the order it allocated them. -/
theorem jit.exec_after (domain : Domain) (assembly : Assembly) (args : List RStr) :
    ∃ k, (after (jit.exec rt domain assembly args w)).brk = w.brk + k ∧
      (after (jit.exec rt domain assembly args w)).released = w.released ++ w.nextAddrs k := by
  obtain ⟨k, hk⟩ := jit.exec.pushArgs_after w args [] []
  refine ⟨k, ?_⟩
  simp only [jit.exec, bind_run]
  split at hk <;> simp_all [Function.comp_def]

end run

/-! ### Lookups by name -/

section lookups

variable (rt : Mono) (w : World)

theorem Class.fromNameWith_behaves (lookup : Ptr → List UInt8 → List UInt8 → Ptr)
    (image : Image) (nspace name : RStr) :
    Behaves (Class.fromNameWith lookup image nspace name) w
      (panicIf (0 ∈ nspace.bytes ∨ 0 ∈ name.bytes) "Could not create CString"
        (Class.fromPtr (lookup image.imagePtr nspace.bytes name.bytes))) := by
  by_cases h₁ : 0 ∈ nspace.bytes <;> by_cases h₂ : 0 ∈ name.bytes <;>
    simp [h₁, h₂, panicIf, Behaves, Returns, Class.fromNameWith_run]

theorem Class.getFieldFromName_behaves (self : Class) (name : RStr) :
    Behaves (self.getFieldFromName rt name) w
      (panicIf (0 ∈ name.bytes) "Could not create CString"
        (ClassField.fromPtr (rt.monoClassGetFieldFromName self.classPtr name.bytes))) := by
  by_cases h : 0 ∈ name.bytes <;> simp [h, panicIf, Behaves, Returns, Class.getFieldFromName_run]

theorem Domain.assemblyOpen_behaves (self : Domain) (path : RStr) :
    Behaves (self.assemblyOpen rt path) w
      (panicIf (0 ∈ path.bytes) "Couldn't create cstring!"
        (let ptr := rt.monoDomainAssemblyOpen (w.allocate (path.bytes ++ [0])) self.ptr w.fresh
          if ptr = Ptr.null then none else some (Assembly.fromPtr ptr))) := by
  by_cases h : 0 ∈ path.bytes <;> simp [h, panicIf, Behaves, Returns, Domain.assemblyOpen_run]

/-- Each lookup panics exactly when one of its texts holds a NUL byte; otherwise it
returns the runtime's answer for those texts, `None` when that answer is null. -/
theorem lookups_panic_only_on_nul (image : Image) (self : Class) (domain : Domain)
    (nspace name path : RStr) :
    (if 0 ∈ nspace.bytes ∨ 0 ∈ name.bytes then
      Panics (Class.fromName rt image nspace name) w "Could not create CString"
    else Returns (Class.fromName rt image nspace name) w
      (Class.fromPtr (rt.monoClassFromName image.imagePtr nspace.bytes name.bytes))) ∧
    (if 0 ∈ nspace.bytes ∨ 0 ∈ name.bytes then
      Panics (Class.fromNameCase rt image nspace name) w "Could not create CString"
    else Returns (Class.fromNameCase rt image nspace name) w
      (Class.fromPtr (rt.monoClassFromNameCase image.imagePtr nspace.bytes name.bytes))) ∧
    (if 0 ∈ name.bytes then
      Panics (self.getFieldFromName rt name) w "Could not create CString"
    else Returns (self.getFieldFromName rt name) w
      (ClassField.fromPtr (rt.monoClassGetFieldFromName self.classPtr name.bytes))) ∧
    (if 0 ∈ path.bytes then Panics (domain.assemblyOpen rt path) w "Couldn't create cstring!"
    else
      let ptr := rt.monoDomainAssemblyOpen (w.allocate (path.bytes ++ [0])) domain.ptr w.fresh
      Returns (domain.assemblyOpen rt path) w
        (if ptr = Ptr.null then none else some (Assembly.fromPtr ptr))) := by
  exact ⟨(Class.fromNameWith_behaves w rt.monoClassFromName image nspace name).panics_or_returns,
    (Class.fromNameWith_behaves w rt.monoClassFromNameCase image nspace name).panics_or_returns,
    (Class.getFieldFromName_behaves rt w self name).panics_or_returns,
    (Domain.assemblyOpen_behaves rt w domain path).panics_or_returns⟩

/-- `Class::from_name` with the namespace `"\0"` panics instead of returning `None`. -/
theorem fromName_nul_panics :
    Panics (Class.fromName (default : Mono) ⟨Ptr.null⟩ ⟨[0], rfl⟩ ⟨[0x41], rfl⟩) World.init
      "Could not create CString" :=
  ⟨_, rfl⟩

end lookups

end WrappedMono
