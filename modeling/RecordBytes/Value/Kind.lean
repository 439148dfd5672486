import RecordBytes.Bytes.BigEndian
import RecordBytes.Decimal.Basic
import RecordBytes.Floating.Basic

/-!
# Kinds of stored values

A kind says what a stored value is and fixes the type of its content.  Twelve kinds take a fixed number
of bytes; text, byte arrays and numbers of any size vary with the value.

Main definitions:

- `Kind.Content`: the contents of a kind.
- `Kind.width?`: the fixed width of a kind, where it has one.
- `Kind.name`, `Kind.tag`: the short name of a kind and the word that heads a shown value.
-/

namespace RecordBytes

/-- The widths of fixed-size integers. -/
inductive Width
  | w8
  | w16
  | w32
  | w64
deriving DecidableEq, Repr

namespace Width

/-- The bytes of an integer. -/
def bytes : Width → Nat
  | w8 => 1
  | w16 => 2
  | w32 => 4
  | w64 => 8

/-- The bits of an integer, two's complement where it is signed. -/
abbrev Bits (width : Width) := BitVec (8 * width.bytes)

end Width

/-- What a stored value is. -/
inductive Kind
  | bool
  | char
  | signed (width : Width)
  | unsigned (width : Width)
  | float (precision : Precision)
  | text
  | bytes
  | bigint
  | decimal
  /-- The number of a large object that is kept elsewhere. -/
  | lob
deriving DecidableEq, Repr

namespace Kind

/-- The contents of a kind. -/
abbrev Content : Kind → Type
  | bool => Bool
  | char => Char
  | signed width => width.Bits
  | unsigned width => width.Bits
  | float precision => precision.Bits
  | text => String
  | bytes => Bytes
  | bigint => Int
  | decimal => Decimal
  | lob => BitVec 64

instance decEqContent : (kind : Kind) → DecidableEq kind.Content
  | bool => inferInstanceAs (DecidableEq Bool)
  | char => inferInstanceAs (DecidableEq Char)
  | signed width => inferInstanceAs (DecidableEq width.Bits)
  | unsigned width => inferInstanceAs (DecidableEq width.Bits)
  | float precision => inferInstanceAs (DecidableEq precision.Bits)
  | text => inferInstanceAs (DecidableEq String)
  | bytes => inferInstanceAs (DecidableEq Bytes)
  | bigint => inferInstanceAs (DecidableEq Int)
  | decimal => inferInstanceAs (DecidableEq Decimal)
  | lob => inferInstanceAs (DecidableEq (BitVec 64))

/-- Every kind, in the order in which they are listed. -/
def all : List Kind :=
  [bool, char, signed .w8, unsigned .w8, signed .w16, unsigned .w16, signed .w32, unsigned .w32,
    signed .w64, unsigned .w64, float .single, float .double, text, bytes, bigint, decimal, lob]

/-- The bytes that every content of the kind takes, where that does not depend on the content. -/
def width? : Kind → Option Nat
  | bool => some 1
  | char => some 4
  | signed width | unsigned width => some width.bytes
  | float precision => some precision.bytes
  | lob => some 8
  | text | bytes | bigint | decimal => none

/-- The short name of a kind. -/
def name : Kind → String
  | bool => "bool"
  | char => "char"
  | signed .w8 => "i8"
  | signed .w16 => "i16"
  | signed .w32 => "i32"
  | signed .w64 => "i64"
  | unsigned .w8 => "u8"
  | unsigned .w16 => "u16"
  | unsigned .w32 => "u32"
  | unsigned .w64 => "u64"
  | float .single => "f32"
  | float .double => "f64"
  | text => "string"
  | bytes => "bytes"
  | bigint => "bigint"
  | decimal => "decimal"
  | lob => "lob"

/-- The word that heads a value of the kind when the value is shown. -/
def tag : Kind → String
  | bool => "Bool"
  | char => "Char"
  | signed .w8 => "I8"
  | signed .w16 => "I16"
  | signed .w32 => "I32"
  | signed .w64 => "I64"
  | unsigned .w8 => "U8"
  | unsigned .w16 => "U16"
  | unsigned .w32 => "U32"
  | unsigned .w64 => "U64"
  | float .single => "F32"
  | float .double => "F64"
  | text => "String"
  | bytes => "Bytes"
  | bigint => "BigInt"
  | decimal => "Decimal"
  | lob => "Lob"

/-- The zero or empty content of a kind. -/
def zero : (kind : Kind) → kind.Content
  | bool => false
  | char => '\x00'
  | signed _ => 0
  | unsigned _ => 0
  | float _ => 0
  | text => ""
  | bytes => []
  | bigint => 0
  | decimal => Decimal.zero
  | lob => 0

/-- Equality of contents as a program compares them: floating-point numbers and decimals as numbers,
everything else by identity. -/
def equal : (kind : Kind) → kind.Content → kind.Content → Bool
  | float _, a, b => Floating.equal a b
  | decimal, a, b => a.equal b
  | bool, a, b => a == b
  | char, a, b => a == b
  | signed _, a, b => a == b
  | unsigned _, a, b => a == b
  | text, a, b => a == b
  | bytes, a, b => a == b
  | bigint, a, b => a == b
  | lob, a, b => a == b

end Kind
end RecordBytes
