import AdsDriver.Address
import AdsDriver.AdsLib
import Mathlib.Logic.Function.Basic

/-!
# Variables

`ADSVariable` with its position in a sum-read buffer, its pending echo and its change hash.
Variables are shared objects, so a heap maps their identities to their current contents.  The
heap also carries the outcomes of the coming memory requests, each of which may fail.
-/

namespace AdsDriver

open ByteMemory

/-- The identity of a shared `ADSVariable`. -/
abbrev VarId := Nat

/-- A `SumReadBuffer *`.  Buffers live from the allocation that made them to the next
deallocation; within an allocation they are told apart by ADS port and position. -/
structure BufferPtr where
  /-- The number of deallocations before the buffer was made. -/
  allocation : Nat
  port : Nat
  index : Nat
  deriving DecidableEq

/-- `BufferDataPosition`: a slot in a sum-read buffer. -/
structure BufferDataPosition where
  buffer : Option BufferPtr
  offResult : Nat
  offData : Nat
  deriving DecidableEq

/-- `EMPTY_BUFFER_DATA_POSITION`. -/
def emptyBufferDataPosition : BufferDataPosition := ⟨none, 0, 0⟩

/-- `ADSVariable`.  The element size is looked up from the data type of the address. -/
structure ADSVariable where
  addr : ADSAddress
  /-- Whether the pointer to the driver's connection is set. -/
  conn : Bool := false
  bufferReader : BufferDataPosition := emptyBufferDataPosition
  /-- Uninitialised at construction, hence without default. -/
  arrayDataHash : Int
  writeReadback : Bool := false
  lastWritten : Bytes := []
  deriving DecidableEq

namespace ADSVariable

/-- `elem_size`. -/
def elemSize (var : ADSVariable) : Nat :=
  (adsDatatypeSizes var.addr.dataType).getD 0

/-- Total data size in bytes, a 32-bit product. -/
def size (var : ADSVariable) : Nat := u32 (var.elemSize * var.addr.nelem)

theorem size_lt (var : ADSVariable) : var.size < 2 ^ 32 := u32_lt _

theorem size_of_fits {var : ADSVariable}
    (fits : var.elemSize * var.addr.nelem < 2 ^ 32) :
    var.size = var.elemSize * var.addr.nelem := u32_of_lt fits

/-- `updateDataHash`: store the new hash and tell whether it has changed. -/
def updateDataHash (var : ADSVariable) (newHash : Int) : Bool × ADSVariable :=
  (newHash ≠ var.arrayDataHash, { var with arrayDataHash := newHash })

/-- `set_buffer_reader`. -/
def setBufferReader (var : ADSVariable) (position : BufferDataPosition) : ADSVariable :=
  { var with bufferReader := position }

@[simp]
theorem size_setBufferReader (var : ADSVariable) (position : BufferDataPosition) :
    (var.setBufferReader position).size = var.size := rfl

@[simp]
theorem addr_setBufferReader (var : ADSVariable) (position : BufferDataPosition) :
    (var.setBufferReader position).addr = var.addr := rfl

/-- The sum-read entry of a variable. -/
def requestEntry (var : ADSVariable) : AdsSymbolInfoByName :=
  ⟨var.addr.indexGroup, var.addr.indexOffset, UInt32.ofNat var.size⟩

/-- The invariant of a pending echo: it is a value of the variable's size. -/
def EchoSized (var : ADSVariable) : Prop :=
  var.lastWritten = [] ∨ var.lastWritten.length = var.size

/-- A variable with another pending echo. -/
def withEcho (var : ADSVariable) (lastWritten : Bytes) : ADSVariable := { var with lastWritten }

@[simp]
theorem withEcho_self (var : ADSVariable) : var.withEcho var.lastWritten = var := rfl

@[simp]
theorem withEcho_withEcho (var : ADSVariable) (first second : Bytes) :
    (var.withEcho first).withEcho second = var.withEcho second := rfl

@[simp]
theorem lastWritten_withEcho (var : ADSVariable) (lastWritten : Bytes) :
    (var.withEcho lastWritten).lastWritten = lastWritten := rfl

@[simp]
theorem size_withEcho (var : ADSVariable) (lastWritten : Bytes) :
    (var.withEcho lastWritten).size = var.size := rfl

@[simp]
theorem addr_withEcho (var : ADSVariable) (lastWritten : Bytes) :
    (var.withEcho lastWritten).addr = var.addr := rfl

@[simp]
theorem writeReadback_withEcho (var : ADSVariable) (lastWritten : Bytes) :
    (var.withEcho lastWritten).writeReadback = var.writeReadback := rfl

end ADSVariable

/-- All variables, by identity. -/
abbrev Vars := VarId → ADSVariable

namespace Vars

/-- Two states of the variables that differ only in where buffers are found. -/
def SameButReaders (before after : Vars) : Prop :=
  ∀ var, ∃ position, after var = (before var).setBufferReader position

namespace SameButReaders

variable {before after : Vars}

theorem refl (vars : Vars) : vars.SameButReaders vars := fun var => ⟨(vars var).bufferReader, rfl⟩

theorem trans {last : Vars} (first : before.SameButReaders after)
    (second : after.SameButReaders last) : before.SameButReaders last := by
  intro var
  obtain ⟨position, read⟩ := first var
  obtain ⟨position', read'⟩ := second var
  exact ⟨position', by rw [read', read]; rfl⟩

theorem addr_eq (same : before.SameButReaders after) (var : VarId) :
    (after var).addr = (before var).addr := by
  obtain ⟨position, read⟩ := same var
  rw [read, ADSVariable.addr_setBufferReader]

theorem size_eq (same : before.SameButReaders after) (var : VarId) :
    (after var).size = (before var).size := by
  obtain ⟨position, read⟩ := same var
  rw [read, ADSVariable.size_setBufferReader]

end SameButReaders

/-- Two states of the variables with the same ports, sizes and slots.  Resolving, unresolving,
writing and reading variables all keep these. -/
structure SamePlaces (before after : Vars) : Prop where
  port_eq : ∀ var, (after var).addr.adsPort = (before var).addr.adsPort
  size_eq : ∀ var, (after var).size = (before var).size
  reader_eq : ∀ var, (after var).bufferReader = (before var).bufferReader

end Vars

/-- The variables and the outcomes of the coming memory requests; past the end of the list
requests succeed. -/
structure Heap where
  vars : Vars
  memory : List Bool

namespace Heap

/-- Ask for memory: whether the request succeeds, and the heap after it. -/
def request (heap : Heap) : Bool × Heap :=
  (heap.memory.headD true, { heap with memory := heap.memory.tail })

@[simp]
theorem vars_request (heap : Heap) : heap.request.2.vars = heap.vars := rfl

/-- Set where a variable finds its sum-read data. -/
def setBufferReader (heap : Heap) (var : VarId) (position : BufferDataPosition) : Heap :=
  { heap with
    vars := Function.update heap.vars var ((heap.vars var).setBufferReader position) }

@[simp]
theorem setBufferReader_self (heap : Heap) (var : VarId) (position : BufferDataPosition) :
    (heap.setBufferReader var position).vars var =
      (heap.vars var).setBufferReader position := by
  simp [setBufferReader]

theorem setBufferReader_of_ne (heap : Heap) {var other : VarId} (distinct : other ≠ var)
    (position : BufferDataPosition) :
    (heap.setBufferReader var position).vars other = heap.vars other := by
  simp [setBufferReader, distinct]

theorem sameButReaders_setBufferReader (heap : Heap) (var : VarId)
    (position : BufferDataPosition) :
    heap.vars.SameButReaders (heap.setBufferReader var position).vars := by
  intro other
  by_cases here : other = var
  · subst here
    exact ⟨position, heap.setBufferReader_self other position⟩
  · exact ⟨(heap.vars other).bufferReader, heap.setBufferReader_of_ne here position⟩

end Heap

end AdsDriver
