/-
Bytes that wait to be sent. They are kept in the blocks that they came in, so that taking in a block
costs nothing, however much is waiting already; their meaning is the bytes in the order of arrival.
-/
import ObjectChannel.Bytes

namespace ObjectChannel

structure Pending where
  /-- The blocks, the last one first. -/
  blocks : List Bytes := []
  size : Nat := 0
  size_eq : (Bytes.concat blocks.reverse).size = size := by rfl

namespace Pending

def empty : Pending := {}

instance : Inhabited Pending := ⟨empty⟩

/-- The bytes in the order of arrival. -/
def toBytes (p : Pending) : Bytes := Bytes.concat p.blocks.reverse

private theorem concat_cons_reverse (block : Bytes) (blocks : List Bytes) :
    Bytes.concat (block :: blocks).reverse = Bytes.concat blocks.reverse ++ block := by
  simp [Bytes.concat]

/-- The bytes with a block behind them. -/
def append (p : Pending) (block : Bytes) : Pending where
  blocks := block :: p.blocks
  size := p.size + block.size
  size_eq := by rw [concat_cons_reverse, ByteArray.size_append, p.size_eq]

@[simp] theorem toBytes_empty : empty.toBytes = ByteArray.empty := rfl

@[simp] theorem size_empty : empty.size = 0 := rfl

@[simp] theorem toBytes_append (p : Pending) (block : Bytes) :
    (p.append block).toBytes = p.toBytes ++ block := concat_cons_reverse block p.blocks

@[simp] theorem size_append (p : Pending) (block : Bytes) :
    (p.append block).size = p.size + block.size := rfl

theorem size_toBytes (p : Pending) : p.toBytes.size = p.size := p.size_eq

theorem toBytes_of_size_eq_zero {p : Pending} (h : p.size = 0) : p.toBytes = .empty :=
  ByteArray.size_eq_zero_iff.mp (p.size_toBytes.trans h)

end Pending
end ObjectChannel
