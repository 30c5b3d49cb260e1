import Mathlib.Data.List.Basic

/-! # The world the wrapper runs in

The values that cross the boundary between `wrapped_mono` and the Mono runtime, and
everything the wrapper's functions read or change besides their arguments.

* **Pointers and strings.** A raw pointer (`*mut MonoClass`, `*const c_char`,
  `*mut c_void`, …) is an address `Ptr`, and `Ptr.null` is `core::ptr::null_mut()`; the
  structures of `Handle.lean` say which kind of runtime object a pointer names.  The text of
  a `char*` is the bytes before its first NUL (`cstrBytes`).  A `&str` or a `String` holds
  bytes that are valid UTF-8, and `RStr` carries that invariant as a field; `validUtf8` is
  the acceptance test of `core::str::from_utf8`: the well-formed sequences of Unicode
  Table 3-7, read one lead byte and its continuation bytes at a time.
* **Memory.** `World.mem p` is the buffer at address `p`.  It holds the runtime's own
  strings (the names `mono_class_get_name` and `mono_field_get_name` point to) and the
  buffers of the wrapper's `CString`s.  The Rust allocator hands out the address after
  `brk` (`World.fresh`), so no allocation is null.
* **Release log.** `World.released` lists, oldest first, every pointer the wrapper hands
  back to the Rust allocator: each `drop` of a `CString`, including one rebuilt from a
  runtime pointer by `CString::from_raw`.  `Drop for CString` first writes a NUL into the
  buffer's first byte (`World.release`).
* **Runtime calls.** `World.calls` lists the calls that change the runtime's state; the
  answers of such calls are functions of the world, so the runtime may depend on them.
* **Rust code** runs in `RustM := EStateM String World`: it returns, or it panics with a
  message and leaves the world as unwinding leaves it, after the destructors of the live
  locals ran (`CString.unwinding`, `CString.scope`).  Rust values that never cross the
  boundary (`String`, `Vec`) are Lean values and take no memory.
* **The runtime.** `Mono` is the part of the Mono C API that `wrapped_mono` calls through
  `crate::binds`, as an arbitrary runtime: every theorem of the development holds for every
  `Mono`.  Queries of loaded metadata (`mono_class_get_parent`, …) are functions of their
  arguments, as the metadata of a loaded image does not change; a query that reads a C
  string the wrapper passes (`mono_class_from_name`) receives its text.  The enumerators
  (`mono_class_get_fields`, …) take the class and the cursor `*iter` and return the next
  item, null once the collection is exhausted, with the updated cursor.  Calls that read or
  change the state of the runtime (`mono_domain_create`, `mono_jit_exec`, …) see the whole
  `World`; calls that return nothing are only recorded (`Call`).  A C `int` (`i32`, and
  `mono_bool`) is a `BitVec 32`. -/

namespace WrappedMono

/-! ### Pointers and strings -/

/-- A raw pointer: an address. -/
structure Ptr where
  addr : Nat
deriving DecidableEq, Repr, Inhabited

/-- `core::ptr::null_mut()`. -/
def Ptr.null : Ptr := ⟨0⟩

/-! ### C strings -/

/-- The text of a C string stored in `buf`: the bytes before the first NUL. -/
def cstrBytes (buf : List UInt8) : List UInt8 := buf.takeWhile (· != 0)

/-- A NUL-free text followed by its terminator reads back as itself. -/
theorem cstrBytes_append_nul {bs : List UInt8} (h : 0 ∉ bs) : cstrBytes (bs ++ [0]) = bs := by
  induction bs with
  | nil => rfl
  | cons b bs ih =>
    rw [List.mem_cons, not_or] at h
    have hb : (b != 0) = true := bne_iff_ne.mpr (Ne.symm h.1)
    simp only [cstrBytes, List.cons_append, List.takeWhile_cons, hb, if_true] at ih ⊢
    rw [ih h.2]

/-! ### UTF-8 -/

/-- The character a lead byte starts: how many continuation bytes follow it, and the range
the first of them must lie in (Unicode Table 3-7); `none` for a byte that starts none. -/
def leadByte (b : UInt8) : Option (Nat × UInt8 × UInt8) :=
  if b ≤ 0x7F then some (0, 0x80, 0xBF)
  else if 0xC2 ≤ b ∧ b ≤ 0xDF then some (1, 0x80, 0xBF)
  else if b = 0xE0 then some (2, 0xA0, 0xBF)
  else if 0xE1 ≤ b ∧ b ≤ 0xEC then some (2, 0x80, 0xBF)
  else if b = 0xED then some (2, 0x80, 0x9F)
  else if 0xEE ≤ b ∧ b ≤ 0xEF then some (2, 0x80, 0xBF)
  else if b = 0xF0 then some (3, 0x90, 0xBF)
  else if 0xF1 ≤ b ∧ b ≤ 0xF3 then some (3, 0x80, 0xBF)
  else if b = 0xF4 then some (3, 0x80, 0x8F)
  else none

/-- `utf8From owed lo hi bs`: `bs` first supplies the `owed` continuation bytes of a
character, the next of them in `[lo, hi]`, and then consists of whole characters. -/
def utf8From : Nat → UInt8 → UInt8 → List UInt8 → Bool
  | 0, _, _, [] => true
  | 0, _, _, b :: bs =>
    match leadByte b with
    | some (n, lo, hi) => utf8From n lo hi bs
    | none => false
  | _ + 1, _, _, [] => false
  | n + 1, lo, hi, b :: bs => lo ≤ b && b ≤ hi && utf8From n 0x80 0xBF bs

/-- The acceptance test of `core::str::from_utf8`. -/
def validUtf8 (bs : List UInt8) : Bool := utf8From 0 0x80 0xBF bs

example : validUtf8 [0xC3, 0xB3] = true ∧ validUtf8 [0xED, 0xA0, 0x80] = false := by decide

/-- A Rust `&str` or `String`: its bytes, which are valid UTF-8. -/
structure RStr where
  bytes : List UInt8
  utf8 : validUtf8 bytes = true
deriving DecidableEq

/-! ### The world -/

/-- The calls into the runtime that change its state, with the arguments it receives. -/
inductive Call where
  | monoDomainCreate
  | monoDomainAssemblyOpen (domain path : Ptr)
  | monoDomainSetConfig (domain baseDirectory filename : Ptr)
  | monoDomainFree (domain : Ptr) (force : BitVec 32)
  | monoJitInit (name : Ptr)
  | monoJitInitVersion (name version : Ptr)
  | monoConfigParse (filename : Ptr)
  | monoJitCleanup (domain : Ptr)
  | monoJitExec (domain assembly : Ptr) (argc : BitVec 32) (argv : List Ptr)
  | monoFieldSetValue (obj field value : Ptr)
deriving DecidableEq, Repr

/-- A `CString`: the owner of the NUL-terminated buffer at `raw`. -/
structure CString where
  raw : Ptr
deriving DecidableEq, Repr

/-- The state of memory, of the Rust allocator and of the runtime. -/
structure World where
  /-- The buffer at each address. -/
  mem : Ptr → List UInt8
  /-- The last address the Rust allocator handed out. -/
  brk : Nat
  /-- The pointers handed back to the Rust allocator, oldest first. -/
  released : List Ptr
  /-- The stateful calls the runtime received, oldest first. -/
  calls : List Call

namespace World

/-- A world with empty memory, before any allocation, release or call. -/
def init : World := ⟨fun _ => [], 0, [], []⟩

variable (w : World)

/-- The text of the C string at `p`. -/
def cstr (p : Ptr) : List UInt8 := cstrBytes (w.mem p)

/-- The string at `p`, when its text is valid UTF-8. -/
def readStr (p : Ptr) : Option RStr := if h : validUtf8 (w.cstr p) then some ⟨_, h⟩ else none

/-- The address the Rust allocator hands out next. -/
def fresh : Ptr := ⟨w.brk + 1⟩

/-- Allocate `buf` at `w.fresh`. -/
def allocate (buf : List UInt8) : World :=
  { w with mem := fun q => if q = w.fresh then buf else w.mem q, brk := w.brk + 1 }

/-- Drop the `CString` that owns `p`: `Drop for CString` writes a NUL into the buffer's first
byte, and the buffer goes back to the Rust allocator. -/
def release (p : Ptr) : World :=
  { w with mem := fun q => if q = p then (w.mem p).set 0 0 else w.mem q,
           released := w.released ++ [p] }

/-- Drop the `CString`s that own `ps`, first to last. -/
def releaseAll (ps : List Ptr) : World := ps.foldl release w

/-- The runtime receives the call `c`. -/
def record (c : Call) : World := { w with calls := w.calls ++ [c] }

@[simp] theorem fresh_addr : w.fresh.addr = w.brk + 1 := rfl

@[simp] theorem allocate_mem (buf : List UInt8) (p : Ptr) :
    (w.allocate buf).mem p = if p = w.fresh then buf else w.mem p := rfl

@[simp] theorem allocate_fresh (buf : List UInt8) : (w.allocate buf).fresh = ⟨w.brk + 2⟩ := rfl

@[simp] theorem fresh_ne_next : w.fresh ≠ ⟨w.brk + 2⟩ := by simp [fresh]

@[simp] theorem allocate_brk (buf : List UInt8) : (w.allocate buf).brk = w.brk + 1 := rfl
@[simp] theorem allocate_released (buf : List UInt8) : (w.allocate buf).released = w.released := rfl
@[simp] theorem allocate_calls (buf : List UInt8) : (w.allocate buf).calls = w.calls := rfl
@[simp] theorem release_mem (p q : Ptr) :
    (w.release p).mem q = if q = p then (w.mem p).set 0 0 else w.mem q := rfl
@[simp] theorem release_brk (p : Ptr) : (w.release p).brk = w.brk := rfl
@[simp] theorem release_released (p : Ptr) : (w.release p).released = w.released ++ [p] := rfl
@[simp] theorem release_calls (p : Ptr) : (w.release p).calls = w.calls := rfl
@[simp] theorem record_mem (c : Call) : (w.record c).mem = w.mem := rfl
@[simp] theorem record_brk (c : Call) : (w.record c).brk = w.brk := rfl
@[simp] theorem record_released (c : Call) : (w.record c).released = w.released := rfl
@[simp] theorem record_calls (c : Call) : (w.record c).calls = w.calls ++ [c] := rfl

section releaseAll

variable (ps : List Ptr)

@[simp] theorem releaseAll_nil : w.releaseAll [] = w := rfl

@[simp] theorem releaseAll_cons (p : Ptr) : w.releaseAll (p :: ps) = (w.release p).releaseAll ps :=
  rfl

@[simp] theorem releaseAll_brk : (w.releaseAll ps).brk = w.brk := by
  induction ps generalizing w <;> simp [*]

@[simp] theorem releaseAll_released : (w.releaseAll ps).released = w.released ++ ps := by
  induction ps generalizing w <;> simp [*]

@[simp] theorem releaseAll_calls : (w.releaseAll ps).calls = w.calls := by
  induction ps generalizing w <;> simp [*]

end releaseAll

/-- The `k` addresses the Rust allocator hands out next, in order. -/
def nextAddrs (k : Nat) : List Ptr := (List.range k).map fun i => ⟨w.brk + i + 1⟩

theorem nextAddrs_succ (b : List UInt8) (k : Nat) :
    w.nextAddrs (k + 1) = w.fresh :: (w.allocate b).nextAddrs k := by
  simp only [nextAddrs, List.range_succ_eq_map, List.map_cons, List.map_map, allocate_brk]
  congr 2
  funext i
  simp only [Function.comp, Nat.succ_eq_add_one]
  congr 1
  omega

/-- Allocate each buffer of `bufs` in turn: their addresses, and the world after. -/
def allocAll : World → List (List UInt8) → List Ptr × World
  | w, [] => ([], w)
  | w, b :: bs => let r := (w.allocate b).allocAll bs; (w.fresh :: r.1, r.2)

section allocAll

variable (bufs : List (List UInt8))

theorem allocAll_fst : (w.allocAll bufs).1 = w.nextAddrs bufs.length := by
  induction bufs generalizing w with
  | nil => rfl
  | cons b bs ih => rw [List.length_cons, nextAddrs_succ _ b, ← ih]; rfl

@[simp] theorem allocAll_brk : (w.allocAll bufs).2.brk = w.brk + bufs.length := by
  induction bufs generalizing w with
  | nil => rfl
  | cons b bs ih => simp only [allocAll, ih, allocate_brk, List.length_cons]; omega

@[simp] theorem allocAll_released : (w.allocAll bufs).2.released = w.released := by
  induction bufs generalizing w with
  | nil => rfl
  | cons b bs ih => simp [allocAll, ih]

@[simp] theorem allocAll_calls : (w.allocAll bufs).2.calls = w.calls := by
  induction bufs generalizing w with
  | nil => rfl
  | cons b bs ih => simp [allocAll, ih]

/-- Allocation leaves the addresses up to `brk` as they were. -/
theorem allocAll_mem_of_le {p : Ptr} (h : p.addr ≤ w.brk) :
    (w.allocAll bufs).2.mem p = w.mem p := by
  induction bufs generalizing w with
  | nil => rfl
  | cons b bs ih =>
    have hp : p ≠ w.fresh := by rintro rfl; exact Nat.not_succ_le_self _ h
    simp only [allocAll]
    rw [ih _ (by simp; omega)]
    simp [hp]

theorem allocAll_mem {i : Nat} (hi : i < bufs.length) :
    (w.allocAll bufs).2.mem ⟨w.brk + i + 1⟩ = bufs[i] := by
  induction bufs generalizing w i with
  | nil => simp at hi
  | cons b bs ih =>
    cases i with
    | zero => simp [allocAll, allocAll_mem_of_le, fresh]
    | succ i =>
      have e : (⟨w.brk + (i + 1) + 1⟩ : Ptr) = ⟨(w.allocate b).brk + i + 1⟩ := by
        simp only [allocate_brk, Ptr.mk.injEq]; omega
      simpa [allocAll, e] using ih (w.allocate b) (by simpa using hi)

end allocAll

/-- Dropping `cs` one by one hands back their pointers in order. -/
theorem foldl_release (cs : List CString) :
    cs.foldl (·.release ·.raw) w = w.releaseAll (cs.map (·.raw)) := by
  rw [releaseAll, List.foldl_map]

/-- A NUL-free text stored with its terminator at the fresh address reads back. -/
@[simp] theorem cstr_allocate_fresh {bs : List UInt8} (h : 0 ∉ bs) :
    (w.allocate (bs ++ [0])).cstr w.fresh = bs := by
  simp [cstr, cstrBytes_append_nul h]

end World

/-! ### Rust code -/

/-- Rust code: returns a value, or panics with a message. -/
abbrev RustM := EStateM String World

/-- A panic with message `msg`: `panic!`, or a failed `expect` or `unwrap`. -/
def fail {α : Type} (msg : String) : RustM α := fun w => .error msg w

/-- `Option::expect`. -/
def expectSome {α : Type} : Option α → String → RustM α
  | some a, _ => pure a
  | none, msg => fail msg

/-- `Result::expect` and `Result::unwrap`.  The panic carries `msg`; the `Debug` rendering
of the error that Rust appends to it is not modelled. -/
def expectOk {ε α : Type} : Except ε α → String → RustM α
  | .ok a, _ => pure a
  | .error _, msg => fail msg

/-- A call that only reads the world: a runtime query, or a read of memory. -/
def observe {α : Type} (f : World → α) : RustM α := fun w => .ok (f w) w

/-- A stateful runtime call `c`: the runtime answers from the world it sees. -/
def invoke {α : Type} (c : Call) (f : World → α) : RustM α := fun w => .ok (f w) (w.record c)

/-- `let _ = x;`: `x`, its result dropped. -/
def ignore {α : Type} (x : RustM α) : RustM Unit := fun w =>
  match x w with
  | .ok _ w' => .ok () w'
  | .error e w' => .error e w'

/-- The world a run leaves, whether it returned or panicked. -/
def after {α : Type} : EStateM.Result String World α → World
  | .ok _ w => w
  | .error _ w => w

@[simp] theorem after_ok {α : Type} (a : α) (w : World) : after (.ok a w) = w := rfl
@[simp] theorem after_error {α : Type} (e : String) (w : World) :
    after (.error e w : EStateM.Result String World α) = w := rfl

/-- Every value `x` returns, from any world, satisfies `P`. -/
def Ensures {α : Type} (x : RustM α) (P : α → Prop) : Prop := ∀ w a w', x w = .ok a w' → P a

/-- From `w`, `x` returns `a`. -/
def Returns {α : Type} (x : RustM α) (w : World) (a : α) : Prop := ∃ w', x w = .ok a w'

/-- From `w`, `x` panics with message `msg`. -/
def Panics {α : Type} (x : RustM α) (w : World) (msg : String) : Prop := ∃ w', x w = .error msg w'

/-- The result of a check: a panic with `msg` when `b` holds, and `a` otherwise. -/
def panicIf {α : Type} (b : Prop) [Decidable b] (msg : String) (a : α) : Except String α :=
  if b then .error msg else .ok a

/-- From `w`, `x` returns `a` when `r` is `.ok a`; when `r` is `.error msg`, it panics with
`msg` having made no state-changing call into the runtime (`World.calls` is unchanged;
queries of the runtime are not recorded and may have been made). -/
def Behaves {α : Type} (x : RustM α) (w : World) : Except String α → Prop
  | .ok a => Returns x w a
  | .error msg => ∃ w', x w = .error msg w' ∧ w'.calls = w.calls

section run

variable {α β : Type} (w : World)

@[simp] theorem pure_run (a : α) : (pure a : RustM α) w = .ok a w := rfl

@[simp] theorem bind_run (x : RustM α) (f : α → RustM β) :
    (x >>= f) w = match x w with
      | .ok a w' => f a w'
      | .error e w' => .error e w' := by
  show EStateM.bind x f w = _
  unfold EStateM.bind
  cases x w <;> rfl

@[simp] theorem map_run (f : α → β) (x : RustM α) :
    (f <$> x) w = match x w with
      | .ok a w' => .ok (f a) w'
      | .error e w' => .error e w' := by
  show EStateM.map f x w = _
  unfold EStateM.map
  cases x w <;> rfl

@[simp] theorem after_ignore (x : RustM α) : after (ignore x w) = after (x w) := by
  unfold ignore
  cases x w <;> rfl

section behaves

variable {x : RustM α} {b : Prop} [Decidable b] {msg : String} {a : α}

/-- The reading of `Behaves` as "panics, or returns". -/
theorem Behaves.panics_or_returns (h : Behaves x w (panicIf b msg a)) :
    if b then Panics x w msg else Returns x w a := by
  unfold panicIf at h
  split_ifs at h ⊢
  · obtain ⟨w', hx, -⟩ := h
    exact ⟨w', hx⟩
  · exact h

end behaves

@[simp] theorem fail_run (msg : String) : (fail msg : RustM α) w = .error msg w := rfl
@[simp] theorem observe_run (f : World → α) : observe f w = .ok (f w) w := rfl
@[simp] theorem invoke_run (c : Call) (f : World → α) : invoke c f w = .ok (f w) (w.record c) := rfl
@[simp] theorem expectSome_some (a : α) (msg : String) : expectSome (some a) msg w = .ok a w := rfl
@[simp] theorem expectSome_none (msg : String) : (expectSome none msg : RustM α) w = .error msg w := rfl
theorem ensures_expectSome (o : Option α) (msg : String) : Ensures (expectSome o msg) (· ∈ o) := by
  intro w a w' h
  cases o <;> simp_all

@[simp] theorem expectOk_ok {ε : Type} (a : α) (msg : String) :
    (expectOk (.ok a : Except ε α) msg) w = .ok a w := rfl
@[simp] theorem expectOk_error {ε : Type} (e : ε) (msg : String) :
    (expectOk (.error e : Except ε α) msg) w = .error msg w := rfl

end run

/-! ### `CString` -/

/-- `NulError`: the position of the first NUL byte. -/
structure NulError where
  position : Nat
deriving DecidableEq, Repr

namespace CString

/-- `CString::new(s)`: `Err` when the bytes of `s` hold a NUL, otherwise a fresh
allocation of the bytes and a terminating NUL.  (The vector that `new` copies `s` into
before the test is not modelled.) -/
def new (s : RStr) : RustM (Except NulError CString) := fun w =>
  if 0 ∈ s.bytes then .ok (.error ⟨s.bytes.indexOf 0⟩) w
  else .ok (.ok ⟨w.fresh⟩) (w.allocate (s.bytes ++ [0]))

/-- `CString::as_ptr`. -/
def asPtr (c : CString) : Ptr := c.raw

@[simp] theorem asPtr_eq (c : CString) : c.asPtr = c.raw := rfl

/-- `CString::from_raw(p)`: take ownership of the buffer at `p`. -/
def fromRaw (p : Ptr) : CString := ⟨p⟩

/-- `CString::into_raw`: give up ownership of the buffer, without releasing it. -/
def intoRaw (c : CString) : Ptr := c.raw

/-- `CStr::to_str` on the text `c` owns: it, when it is valid UTF-8. -/
def toStr (c : CString) : RustM (Option RStr) := observe (·.readStr c.raw)

/-- `drop(c)`: the buffer of `c` goes back to the Rust allocator. -/
def drop (c : CString) : RustM Unit := fun w => .ok () (w.release c.raw)

/-- `drop` of a `Vec<CString>`: its elements are dropped first to last. -/
def dropAll (cs : List CString) : RustM Unit := fun w => .ok () (cs.foldl (·.release ·.raw) w)

/-- `body` runs while a `Vec<CString>` owns `cs`: if it panics, unwinding drops `cs`. -/
def unwindingAll {α : Type} (cs : List CString) (body : RustM α) : RustM α := fun w =>
  match body w with
  | .ok a w' => .ok a w'
  | .error e w' => .error e (cs.foldl (·.release ·.raw) w')

/-- `body` runs while a local owns `c`: if it panics, unwinding drops `c`. -/
def unwinding {α : Type} (c : CString) (body : RustM α) : RustM α := fun w =>
  match body w with
  | .ok a w' => .ok a w'
  | .error e w' => .error e (w'.release c.raw)

/-- `body` is the rest of the scope that owns `c`: `c` is dropped when the scope ends,
by a return or by unwinding. -/
def scope {α : Type} (c : CString) (body : RustM α) : RustM α := fun w =>
  match body w with
  | .ok a w' => .ok a (w'.release c.raw)
  | .error e w' => .error e (w'.release c.raw)

section run

variable {α : Type} (w : World) (c : CString)

@[simp] theorem new_run_of_not_mem {s : RStr} (h : 0 ∉ s.bytes) :
    new s w = .ok (.ok ⟨w.fresh⟩) (w.allocate (s.bytes ++ [0])) := if_neg h

@[simp] theorem new_run_of_mem {s : RStr} (h : 0 ∈ s.bytes) :
    new s w = .ok (.error ⟨s.bytes.indexOf 0⟩) w := if_pos h

@[simp] theorem drop_run : c.drop w = .ok () (w.release c.raw) := rfl

@[simp] theorem toStr_run : c.toStr w = .ok (w.readStr c.raw) w := rfl

@[simp] theorem dropAll_run (cs : List CString) :
    dropAll cs w = .ok () (w.releaseAll (cs.map (·.raw))) := by
  simp [dropAll, World.foldl_release]

@[simp] theorem unwindingAll_run (cs : List CString) (body : RustM α) : unwindingAll cs body w =
    match body w with
    | .ok a w' => .ok a w'
    | .error e w' => .error e (w'.releaseAll (cs.map (·.raw))) := by
  simp [unwindingAll, World.foldl_release]

@[simp] theorem unwinding_run (body : RustM α) : c.unwinding body w =
    match body w with
    | .ok a w' => .ok a w'
    | .error e w' => .error e (w'.release c.raw) := rfl

@[simp] theorem scope_run (body : RustM α) : c.scope body w =
    match body w with
    | .ok a w' => .ok a (w'.release c.raw)
    | .error e w' => .error e (w'.release c.raw) := rfl

end run

end CString

/-! ### The runtime's C API -/

/-- The built-in classes with an accessor of their own, one `mono_get_*_class` each. -/
inductive Builtin where
  | object | int16 | int32 | int64 | double | enum | intptr | sbyte | single | string
  | thread | uint16 | uint32 | uint64 | uintptr | void | array | boolean | byte | char
deriving DecidableEq, Repr

/-- A runtime: the answers of the C functions the wrapper calls. -/
structure Mono where
  monoClassFromName : Ptr → List UInt8 → List UInt8 → Ptr
  monoClassFromNameCase : Ptr → List UInt8 → List UInt8 → Ptr
  monoClassGetFieldFromName : Ptr → List UInt8 → Ptr
  monoClassGetName : Ptr → Ptr
  monoClassGetNamespace : Ptr → Ptr
  monoClassGetImage : Ptr → Ptr
  monoClassArrayElementSize : Ptr → BitVec 32
  monoClassGetInterfaces : Ptr → Ptr → Ptr × Ptr
  monoClassGetNestingType : Ptr → Ptr
  monoClassGetParent : Ptr → Ptr
  monoClassGetRank : Ptr → BitVec 32
  monoClassDataSize : Ptr → BitVec 32
  monoClassGetElementClass : Ptr → Ptr
  monoClassImplementsInterface : Ptr → Ptr → BitVec 32
  monoClassIsAssignableFrom : Ptr → Ptr → BitVec 32
  monoClassIsDelegate : Ptr → BitVec 32
  monoClassIsEnum : Ptr → BitVec 32
  monoClassNumFields : Ptr → BitVec 32
  monoClassNumMethods : Ptr → BitVec 32
  monoClassNumProperties : Ptr → BitVec 32
  monoClassIsValuetype : Ptr → BitVec 32
  /-- `mono_get_object_class()`, `mono_get_int16_class()`, …: one per `Builtin`. -/
  monoGetClass : Builtin → Ptr
  monoClassGetFields : Ptr → Ptr → Ptr × Ptr
  monoClassGetMethods : Ptr → Ptr → Ptr × Ptr
  monoClassGetNestedTypes : Ptr → Ptr → Ptr × Ptr
  monoFieldGetName : Ptr → Ptr
  monoFieldGetData : Ptr → Ptr
  monoFieldGetParent : Ptr → Ptr
  monoFieldGetValueObject : World → Ptr → Ptr → Ptr → Ptr
  /-- Modelled from the spec: `ObjectTrait::get_domain` is not in src/; an object belongs to
  the domain that produced it, and the runtime reports which. -/
  monoObjectGetDomain : World → Ptr → Ptr
  monoDomainCreate : World → Ptr
  monoDomainAssemblyOpen : World → Ptr → Ptr → Ptr
  monoJitInit : World → Ptr → Ptr
  monoJitInitVersion : World → Ptr → Ptr → Ptr
  monoJitExec : World → Ptr → Ptr → BitVec 32 → List Ptr → BitVec 32
deriving Inhabited

end WrappedMono
