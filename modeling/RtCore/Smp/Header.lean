import Mathlib.Data.List.Basic

/-!
# The SMP header

Every SMP packet begins with an 8-byte header whose length field says how many
bytes of body follow. All transports of the repository find the end of a packet
from it.

## Main definitions

* `SmpHeader.parse` — the decoded header, if the data is long enough
* `IsSmpPacket` — the data is one whole packet, as long as its own header says
-/

namespace RtCore.Smp

/-- The operation codes. The field is cast from three bits without a check, so it
also holds the values without a name. -/
structure SmpOperation where
  toUnderlying : UInt8
deriving DecidableEq, Repr

namespace SmpOperation

/-- A read request. -/
def read : SmpOperation := ⟨0⟩
/-- The response to a read. -/
def readResponse : SmpOperation := ⟨1⟩
/-- A write request. -/
def write : SmpOperation := ⟨2⟩
/-- The response to a write. -/
def writeResponse : SmpOperation := ⟨3⟩

end SmpOperation

/-- The 8-byte SMP header. -/
structure SmpHeader where
  operation : SmpOperation
  /-- 0 for SMP v1, 1 for SMP v2. -/
  version : UInt8
  flags : UInt8
  /-- Length of the CBOR body that follows the header. -/
  length : UInt16
  group : UInt16
  /-- Echoed in the response. -/
  sequence : UInt8
  commandId : UInt8
deriving DecidableEq, Repr

namespace SmpHeader

/-- `SmpHeader::SIZE`. -/
def size : ℕ := 8

/-- Decodes the header at the start of `data`, in network byte order. -/
def parse (data : List UInt8) : Option SmpHeader :=
  match data with
  | b₀ :: b₁ :: b₂ :: b₃ :: b₄ :: b₅ :: b₆ :: b₇ :: _ =>
    some
      { operation := ⟨b₀ &&& 0x07⟩
        version := (b₀ >>> 3) &&& 0x03
        flags := b₁
        length := (b₂.toUInt16 <<< 8) ||| b₃.toUInt16
        group := (b₄.toUInt16 <<< 8) ||| b₅.toUInt16
        sequence := b₆
        commandId := b₇ }
  | _ => none

/-- Header plus body length. -/
def getPacketSize (header : SmpHeader) : ℕ := size + header.length.toNat

/-- `IsRequest`: a read or a write. -/
def isRequest (header : SmpHeader) : Bool :=
  header.operation = .read ∨ header.operation = .write

/-- `IsResponse`: the response to one of them. -/
def isResponse (header : SmpHeader) : Bool :=
  header.operation = .readResponse ∨ header.operation = .writeResponse

theorem size_le_getPacketSize (header : SmpHeader) : size ≤ header.getPacketSize :=
  Nat.le_add_right ..

theorem exists_parse {data : List UInt8} (long : size ≤ data.length) :
    ∃ header, parse data = some header := by
  match data, long with
  | _ :: _ :: _ :: _ :: _ :: _ :: _ :: _ :: _, _ => exact ⟨_, rfl⟩

theorem size_le_of_parse {data : List UInt8} {header : SmpHeader}
    (parsed : parse data = some header) : size ≤ data.length := by
  match data, parsed with
  | _ :: _ :: _ :: _ :: _ :: _ :: _ :: _ :: _, _ => simp [size]

theorem parse_append {data : List UInt8} (rest : List UInt8) (long : size ≤ data.length) :
    parse (data ++ rest) = parse data := by
  match data, long with
  | _ :: _ :: _ :: _ :: _ :: _ :: _ :: _ :: _, _ => rfl

/-- The header is decided by the bytes of any long enough beginning of the data. -/
theorem parse_take {data : List UInt8} {count : ℕ} (long : size ≤ count)
    (inside : count ≤ data.length) : parse (data.take count) = parse data := by
  have whole : parse (data.take count ++ data.drop count) = parse (data.take count) :=
    parse_append _ (by simp only [List.length_take]; omega)
  rw [List.take_append_drop] at whole
  exact whole.symm

/-- The length field lies in the first four bytes. -/
theorem getPacketSize_congr {first second : List UInt8} {header header' : SmpHeader}
    (parsed : parse first = some header) (parsed' : parse second = some header')
    (same : first.take 4 = second.take 4) : header.getPacketSize = header'.getPacketSize := by
  match first, second, parsed, parsed' with
  | _ :: _ :: _ :: _ :: _ :: _ :: _ :: _ :: _, _ :: _ :: _ :: _ :: _ :: _ :: _ :: _ :: _,
    parsed, parsed' =>
    simp only [List.take_succ_cons, List.take_zero, List.cons.injEq, and_true] at same
    simp only [parse, Option.some.injEq] at parsed parsed'
    obtain ⟨-, -, rfl, rfl⟩ := same
    rw [← parsed, ← parsed']
    rfl

end SmpHeader

/-- The data is one whole packet: a header and as many bytes of body as it says. -/
def IsSmpPacket (packet : List UInt8) : Prop :=
  (SmpHeader.parse packet).map SmpHeader.getPacketSize = some packet.length

instance (packet : List UInt8) : Decidable (IsSmpPacket packet) :=
  inferInstanceAs (Decidable (_ = _))

theorem isSmpPacket_iff {packet : List UInt8} :
    IsSmpPacket packet ↔
      ∃ header, SmpHeader.parse packet = some header ∧ header.getPacketSize = packet.length := by
  simp [IsSmpPacket, Option.map_eq_some_iff]

theorem IsSmpPacket.size_le {packet : List UInt8} (valid : IsSmpPacket packet) :
    SmpHeader.size ≤ packet.length := by
  obtain ⟨header, parsed, -⟩ := isSmpPacket_iff.mp valid
  exact SmpHeader.size_le_of_parse parsed

end RtCore.Smp
