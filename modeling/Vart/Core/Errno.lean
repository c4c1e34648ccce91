import Mathlib.Data.Nat.Bitwise

/-!
# Error codes

The functions of the emulator return `0` or `-errno`. A function here returns `Except Errno α`,
next to the state it leaves behind: a failing call may have changed the state.
-/

namespace Vart

/-- The error codes that the modelled functions return. -/
inductive Errno where
  | eperm | enoent | eio | eagain | enomem | eacces | efault | ebusy | eexist | enodev | einval
  | efbig | enospc | epipe | erange | enosys | eloop | eproto | eoverflow | enotsup | enotconn
  | ealready
deriving DecidableEq, Repr

namespace Errno

/-- The number of an error code on Linux. -/
def code : Errno → Nat
  | eperm => 1 | enoent => 2 | eio => 5 | eagain => 11 | enomem => 12 | eacces => 13
  | efault => 14 | ebusy => 16 | eexist => 17 | enodev => 19 | einval => 22 | efbig => 27
  | enospc => 28 | epipe => 32 | erange => 34 | enosys => 38 | eloop => 40 | eproto => 71
  | eoverflow => 75 | enotsup => 95 | enotconn => 107 | ealready => 114

theorem code_lt (e : Errno) : e.code < 2 ^ 7 := by cases e <;> decide

end Errno

/-- The largest `uint64_t`. -/
abbrev uint64Max : Nat := 2 ^ 64 - 1

/-- The largest `uint32_t`. -/
abbrev uint32Max : Nat := 2 ^ 32 - 1

/-- The outcome of a function that returns `0` or `-errno`. -/
abbrev Status := Except Errno Unit

end Vart
