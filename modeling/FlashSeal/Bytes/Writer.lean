/-
FlashSeal.Bytes.Writer — writing at the end of a growing byte string.

A buffer takes bytes at its end and nowhere else.  A writer is work on a buffer that cannot fail; what
it writes is told by what it leaves (`Writer.behind`).
-/
import FlashSeal.Bytes
import FlashSeal.Work

namespace FlashSeal

/-- A byte string that grows at its end. -/
abbrev Buffer := Array UInt8

/-- Work that writes at the end of a buffer. -/
abbrev Writer := StateM Buffer

namespace Writer

/-- Writes one byte. -/
def push (b : UInt8) : Writer Unit := modify (·.push b)

/-- Writes bytes. -/
def extend (bs : Bytes) : Writer Unit := modify fun buf : Buffer => buf ++ bs

/-- What a writer leaves of a buffer. -/
def behind (w : Writer Unit) (buf : Buffer) : Buffer := (StateT.run w buf).2

theorem behind_push (b : UInt8) (buf : Buffer) : (push b).behind buf = buf ++ [b] := by
  show buf.push b = buf ++ [b]
  rw [Array.push_eq_append, ← Array.appendList_eq_append]
  rfl

theorem behind_extend (bs : Bytes) (buf : Buffer) : (extend bs).behind buf = buf ++ bs := rfl

theorem append_append (buf : Buffer) (as bs : Bytes) : buf ++ as ++ bs = buf ++ (as ++ bs) := by
  rw [← Array.toList_inj]
  simp only [Array.toList_appendList, List.append_assoc]

theorem toList_empty_append (bs : Bytes) : ((#[] : Buffer) ++ bs).toList = bs := by
  rw [Array.toList_appendList, List.nil_append]

/-- What is written first stands in front. -/
theorem behind_bind (w : Writer Unit) (next : Unit → Writer Unit) (buf : Buffer) :
    (w >>= next).behind buf = (next ()).behind (w.behind buf) := rfl

/-- As a step of work that may fail, writing never does. -/
theorem on_liftM {ε : Type} (w : Writer Unit) (buf : Buffer) :
    (liftM w : Work Buffer ε Unit).on buf = (.ok (), w.behind buf) := rfl

end Writer

end FlashSeal
