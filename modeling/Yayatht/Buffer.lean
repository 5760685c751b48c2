import Mathlib.Data.Nat.Notation
import Mathlib.Data.List.Basic

set_option autoImplicit false

namespace Yayatht

/-- Which buffers are in their place, and the stack of free indices. A release of a
buffer that is not out fails an assertion, which `faulted` records. -/
structure BufferPool where
  buffers : List Bool
  free : List ℕ
  faulted : Bool := false
  deriving DecidableEq, Repr

namespace BufferPool

def new (count : ℕ) : BufferPool := ⟨List.replicate count true, List.range count, false⟩

def available (p : BufferPool) : ℕ := p.free.length

def acquire (p : BufferPool) : BufferPool × Option ℕ :=
  match p.free with
  | [] => (p, none)
  | index :: free =>
    if p.buffers[index]? = some true then
      ({ p with buffers := p.buffers.set index false, free := free }, some index)
    else ({ p with free := free }, none)

def release (p : BufferPool) (index : ℕ) : BufferPool where
  buffers := p.buffers.set index true
  free := index :: p.free
  faulted := p.faulted || decide (p.buffers[index]? ≠ some false)

end BufferPool

end Yayatht
