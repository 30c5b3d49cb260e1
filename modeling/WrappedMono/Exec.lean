import Mathlib.Data.List.Forall2
import Mathlib.Data.List.Nodup
import Mathlib.Algebra.Group.Int
import WrappedMono.Domain

/-! # `jit::exec`: the argument vector the runtime receives

On NUL-free arguments `exec` makes one call of `mono_jit_exec`, whose `argv` holds a fresh,
distinct, non-null pointer per argument, the `i`-th to a NUL-terminated copy of the `i`-th
argument, and whose `argc` is `args.len() as i32`; the copies are released after the call
(`exec_passes_args`).  The cast agrees with the length exactly when the length is below
`2^31` (`argc_toInt_eq_iff`): from `2^31` arguments on, `argc` no longer counts `argv`
(`exec_argc_wraps`).  An argument holding a NUL makes `exec` panic before the call, having
released the copies of the arguments before it (`exec_panics_at_first_nul`). -/

namespace WrappedMono

/-- `n as i32` reads back as `n` exactly below `2^31`. -/
theorem argc_toInt_eq_iff (n : Nat) : (BitVec.ofNat 32 n).toInt = n ↔ n < 2 ^ 31 := by
  rw [BitVec.toInt_ofNat, Int.bmod_def]
  split <;> omega

/-- The `CString`s of `exec` hold the arguments, in order, at distinct non-null addresses
that the allocator handed out after `w`. -/
theorem allocAll_args (w : World) (args : List RStr) :
    let r := w.allocAll (args.map (·.bytes ++ [0]))
    List.Forall₂ (fun p s => r.2.mem p = s.bytes ++ [0]) r.1 args ∧ r.1.Nodup ∧
      Ptr.null ∉ r.1 ∧ ∀ p ∈ r.1, w.brk < p.addr ∧ p.addr ≤ r.2.brk := by
  refine ⟨List.forall₂_iff_get.mpr ⟨by simp [World.allocAll_fst, World.nextAddrs], ?_⟩, ?_, ?_,
    ?_⟩
  · intro i h₁ h₂
    simp only [World.allocAll_fst, World.nextAddrs, List.get_eq_getElem, List.getElem_map,
      List.getElem_range]
    rw [World.allocAll_mem _ _ (by simpa using h₂)]
    simp
  · rw [World.allocAll_fst]
    exact List.Nodup.map (fun i j e => by simpa using e) (List.nodup_range _)
  · simp [World.allocAll_fst, World.nextAddrs, Ptr.null]
  · simp only [World.allocAll_fst, World.nextAddrs, List.mem_map, List.mem_range,
      World.allocAll_brk, List.length_map]
    rintro _ ⟨i, hi, rfl⟩
    dsimp only
    omega

/-- On NUL-free arguments, `exec` calls `mono_jit_exec` once, as its only state-changing
call, and returns its answer.  The call receives `argc = args.len() as i32`, equal to the
number of arguments exactly below `2^31`, and an `argv` of distinct non-null pointers to
NUL-terminated copies of the arguments, in order.  The copies are buffers `exec`
allocated, none of them released when the runtime reads them (`w₁` is the world it
answers from), and all released after the call, in order. -/
theorem exec_passes_args (rt : Mono) (domain : Domain) (assembly : Assembly)
    (args : List RStr) (w : World) (h : ∀ s ∈ args, 0 ∉ s.bytes) :
    let argc := BitVec.ofNat 32 args.length
    ∃ argv w₁ w₂,
      jit.exec rt domain assembly args w =
        .ok (rt.monoJitExec w₁ domain.ptr assembly.assemblyPtr argc argv) w₂ ∧
      w₂.calls = w.calls ++ [.monoJitExec domain.ptr assembly.assemblyPtr argc argv] ∧
      w₁.calls = w.calls ∧
      List.Forall₂ (fun p s => w₁.mem p = s.bytes ++ [0]) argv args ∧
      argv.Nodup ∧ Ptr.null ∉ argv ∧
      (∀ p ∈ argv, w.brk < p.addr ∧ p.addr ≤ w₁.brk) ∧
      w₁.released = w.released ∧ w₂.released = w₁.released ++ argv ∧
      (argc.toInt = args.length ↔ args.length < 2 ^ 31) := by
  obtain ⟨hall, hnd, hnn, hfresh⟩ := allocAll_args w args
  exact ⟨_, _, _, jit.exec_run rt w domain assembly args h, by simp, by simp, hall, hnd, hnn,
    hfresh, by simp, by simp, argc_toInt_eq_iff _⟩

/-- The arguments of the source's test, `one`, `two`, `three`, `four`, are NUL-free, and
`exec` hands them over with `argc = 4`. -/
theorem exec_passes_test_args :
    let args : List RStr := [⟨[0x6F, 0x6E, 0x65], rfl⟩, ⟨[0x74, 0x77, 0x6F], rfl⟩,
      ⟨[0x74, 0x68, 0x72, 0x65, 0x65], rfl⟩, ⟨[0x66, 0x6F, 0x75, 0x72], rfl⟩]
    (∀ s ∈ args, 0 ∉ s.bytes) ∧
      ∃ argv w₁ w₂, jit.exec (default : Mono) ⟨Ptr.null⟩ ⟨Ptr.null⟩ args World.init =
        .ok ((default : Mono).monoJitExec w₁ Ptr.null Ptr.null 4 argv) w₂ ∧
        List.Forall₂ (fun p s => w₁.mem p = s.bytes ++ [0]) argv args := by
  intro args
  have h : ∀ s ∈ args, 0 ∉ s.bytes := by decide
  obtain ⟨argv, w₁, w₂, he, -, -, hall, -⟩ :=
    exec_passes_args default ⟨Ptr.null⟩ ⟨Ptr.null⟩ args World.init h
  exact ⟨h, argv, w₁, w₂, he, hall⟩

/-- With an argument holding a NUL, `exec` panics in the `unwrap` of that argument's
`CString::new`, before `mono_jit_exec` is called: it has allocated the `CString`s of the
arguments before it, one each, and unwinding has released exactly those, in order; the
arguments after it are never read. -/
theorem exec_panics_at_first_nul (rt : Mono) (domain : Domain) (assembly : Assembly)
    (pre post : List RStr) (s : RStr) (w : World) (hpre : ∀ x ∈ pre, 0 ∉ x.bytes)
    (hs : 0 ∈ s.bytes) :
    ∃ w', jit.exec rt domain assembly (pre ++ s :: post) w =
        .error "called `Result::unwrap()` on an `Err` value" w' ∧
      w'.calls = w.calls ∧ w'.brk = w.brk + pre.length ∧
      w'.released = w.released ++ w.nextAddrs pre.length :=
  ⟨_, jit.exec_run_of_nul rt w domain assembly pre post s hpre hs, by simp, by simp,
    by simp [World.allocAll_fst]⟩

/-- The test's arguments with a NUL inserted after `one`: `exec` releases the copy of `one`
and panics. -/
theorem exec_panics_at_first_nul_test :
    let pre : List RStr := [⟨[0x6F, 0x6E, 0x65], rfl⟩]
    let s : RStr := ⟨[0], rfl⟩
    (∀ x ∈ pre, 0 ∉ x.bytes) ∧ 0 ∈ s.bytes ∧
      ∃ w', jit.exec (default : Mono) ⟨Ptr.null⟩ ⟨Ptr.null⟩ (pre ++ s :: []) World.init =
          .error "called `Result::unwrap()` on an `Err` value" w' ∧
        w'.calls = [] ∧ w'.brk = 1 ∧ w'.released = [⟨1⟩] := by
  intro pre s
  have hpre : ∀ x ∈ pre, 0 ∉ x.bytes := by decide
  have hs : 0 ∈ s.bytes := by decide
  exact ⟨hpre, hs,
    exec_panics_at_first_nul default ⟨Ptr.null⟩ ⟨Ptr.null⟩ pre [] s World.init hpre hs⟩

/-- With `2^31` empty arguments the call receives `2^31` pointers but `argc = -2^31`. -/
theorem exec_argc_wraps :
    let args : List RStr := List.replicate (2 ^ 31) ⟨[], rfl⟩
    ∃ argv w₂, jit.exec (default : Mono) ⟨Ptr.null⟩ ⟨Ptr.null⟩ args World.init = .ok 0 w₂ ∧
      w₂.calls = [.monoJitExec Ptr.null Ptr.null (BitVec.ofNat 32 (2 ^ 31)) argv] ∧
      argv.length = 2 ^ 31 ∧ (BitVec.ofNat 32 (2 ^ 31)).toInt = -2 ^ 31 := by
  intro args
  have h : ∀ s ∈ args, 0 ∉ s.bytes := fun s hs => by rw [List.eq_of_mem_replicate hs]; simp
  have hl : args.length = 2 ^ 31 := List.length_replicate _ _
  refine ⟨(World.init.allocAll (args.map (·.bytes ++ [0]))).1, _, jit.exec_run _ _ _ _ _ h, ?_, ?_,
    by decide⟩
  · simp only [World.releaseAll_calls, World.record_calls, World.allocAll_calls, hl]
    rfl
  · rw [World.allocAll_fst, World.nextAddrs, List.length_map, List.length_range, List.length_map, hl]

end WrappedMono
