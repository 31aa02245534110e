import NativeApi.Library.Basic
import NativeApi.Decl.Dump

/-!
# Textual form of libraries

The dump of a library is the dump of its roots, followed by the dump of the broken declarations
under a line of their own.
-/

namespace NativeApi.Library

def lines (L : Library) : List String :=
  L.roots.flatMap (Decl.lines 0)
    ++ if L.broken.isEmpty then [] else "broken:" :: L.broken.flatMap (Decl.lines 1)

def dump (L : Library) : String := Decl.textOfLines L.lines

end NativeApi.Library
