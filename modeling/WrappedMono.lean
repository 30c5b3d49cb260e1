import WrappedMono.Memory
import WrappedMono.Handle
import WrappedMono.Enumerator
import WrappedMono.Class
import WrappedMono.Domain
import WrappedMono.NullSafety
import WrappedMono.Exec
import WrappedMono.Ownership
import WrappedMono.Failures
