/-
The 32-bit cyclic redundancy check of IEEE 802.3, in its reflected form.

The register starts with every bit set, takes one byte at a time in at its low
end, and is complemented at the end.
-/

import FramedEvents.Bytes

namespace FramedEvents.Checksum

/-- The generator polynomial, lowest power in the highest bit. -/
def polynomial : UInt32 := 0xEDB88320

/-- Division of the register by `x`, reduced by the generator. -/
def shift (register : UInt32) : UInt32 :=
  if register &&& 1 = 1 then (register >>> 1) ^^^ polynomial else register >>> 1

def absorb (register : UInt32) (byte : UInt8) : UInt32 :=
  shift (shift (shift (shift (shift (shift (shift (shift (register ^^^ byte.toUInt32))))))))

def run (register : UInt32) (bytes : Bytes) : UInt32 := bytes.foldl absorb register

def crc32 (bytes : Bytes) : UInt32 := ~~~ (run 0xFFFFFFFF bytes)

theorem run_append (register : UInt32) (front back : Bytes) :
    run register (front ++ back) = run (run register front) back := by
  simp [run]

end FramedEvents.Checksum
