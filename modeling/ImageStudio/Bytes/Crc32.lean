/-!
# Bytes · Crc32: the CRC-32 checksum of PNG chunks

Every PNG chunk ends with the CRC-32 (the IEEE polynomial `0xEDB88320`, reflected, with
initial value and final mask `0xFFFFFFFF`) of its type and data. The table holds the
checksum of every byte value; the checksum of a string folds the table over its bytes.
-/

namespace ImageStudio

namespace Crc32

/-- The checksum register after shifting one byte value through eight rounds. -/
def entry (n : UInt32) : UInt32 := Id.run do
  let mut c := n
  for _ in [0:8] do
    c := if c &&& 1 = 1 then (0xEDB88320 : UInt32) ^^^ (c >>> 1) else c >>> 1
  return c

/-- The table of all 256 byte values. -/
def table : Array UInt32 := (List.range 256).toArray.map fun n => entry n.toUInt32

/-- Feeds bytes into a running register. -/
def update (c : UInt32) (bytes : ByteArray) : UInt32 :=
  bytes.foldl (fun c b => table[((c ^^^ b.toUInt32) &&& 0xFF).toNat]! ^^^ (c >>> 8)) c

/-- The checksum of a byte string. -/
def checksum (bytes : ByteArray) : UInt32 := update 0xFFFFFFFF bytes ^^^ 0xFFFFFFFF

end Crc32

end ImageStudio
