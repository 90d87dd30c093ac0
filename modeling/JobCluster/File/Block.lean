import JobCluster.File.Piece

/-!
# Blocks

A block is a contiguous range of a file together with the hosts that keep its bytes. `Block.clip`
keeps the part of a block inside a range.
-/

namespace JobCluster.File

/-- A range of a file and the nodes that keep it: their names, each a host and a number, and in the
same order their hosts. Both lists are empty where that is not known. -/
structure Block where
  names : List String
  hosts : List String
  offset : UInt64
  length : UInt64
deriving DecidableEq, Repr

namespace Block

/-- Where the block ends. -/
def stop (b : Block) : UInt64 := rangeEnd b.offset b.length

/-- The part of a block in `[start, stop)`, if there is any. -/
def clip (b : Block) (start stop : UInt64) : Option Block :=
  let low := max b.offset start
  let high := min b.stop stop
  if low < high then some { b with offset := low, length := high - low } else none

end Block

/-- Blocks cut at the multiples of a block size, kept by the given hosts in turn; `number` follows
each name. -/
def roundRobin (size : UInt64) (hosts : List String) (number : String)
    (start length : UInt64) : List Block :=
  (Piece.cut start length size).map fun p =>
    let host := match hosts with
      | [] => []
      | _ => (hosts[(p.offset / size).toNat % hosts.length]?).toList
    ⟨host.map (· ++ ":" ++ number), host, p.offset, p.length⟩

end JobCluster.File
