import ColumnStore.Proofs.Reader.Retrying
import ColumnStore.Proofs.Writer.Retrying

/-!
# The protocol of readers and writers

What holds of every reader and of every writer from the first thing that is done with it until it is
given up, on any backend, and what this comes to on the in-process backend.
-/

set_option autoImplicit false

namespace ColumnStore

end ColumnStore
