import Mathlib.Data.Nat.Notation

/-! # CRC32

The checksum of a data buffer. The engine calculates it with tables, sixteen bytes at a time; the
bitwise algorithm of the same library gives the same values. -/

namespace WebXEngine

namespace Crc32

/-- The polynomial of zlib. -/
def polynomial : UInt32 := 0xEDB88320

/-- One round of the loop over the bits. -/
def shiftBit (crc : UInt32) : UInt32 := (crc >>> 1) ^^^ (-(crc &&& 1) &&& polynomial)

/-- One round of the loop over the bytes. -/
def addByte (crc : UInt32) (byte : UInt8) : UInt32 := Nat.repeat shiftBit 8 (crc ^^^ byte.toUInt32)

end Crc32

/-- The CRC32 of some data, without previous data. -/
def crc32Bitwise (data : List UInt8) : UInt32 := ~~~(data.foldl Crc32.addByte (~~~0))

/-- The check value of CRC32, of the digits from 1 to 9. -/
example : crc32Bitwise [49, 50, 51, 52, 53, 54, 55, 56, 57] = 0xCBF43926 := by decide +kernel

end WebXEngine
