/-
# XYStage.Wire.Frame -- framing of messages on the serial link

A frame is a message identifier and a payload of at most 255 bytes. On the wire
it reads

  start (0x7B)  id  length  payload  0x00 0x00  end (0x7D)

where the two bytes before the end are reserved: they are sent as zero and never
checked. A payload carries its size bound, so every frame can be encoded.
-/

namespace XYStage

set_option autoImplicit false

/-- What can go wrong between frames and bytes. -/
inductive FrameError where
  /-- More than 255 payload bytes. -/
  | payloadTooLarge
  /-- The byte after the reserved ones was not the end delimiter. -/
  | missingEnd
  /-- The frame does not fit the buffer. -/
  | bufferTooSmall
  deriving DecidableEq

def FrameError.message : FrameError → String
  | .payloadTooLarge => "payload exceeds 255 bytes"
  | .missingEnd => "end delimiter missing"
  | .bufferTooSmall => "encode buffer too small"

/-- Most bytes a payload can have. -/
def payloadLimit : Nat := 255

/-- Payload bytes; their number fits the length byte of a frame. -/
structure Payload where
  bytes : List UInt8
  size_le : bytes.length ≤ payloadLimit
  deriving DecidableEq

namespace Payload

def empty : Payload := ⟨[], by decide⟩

def ofBytes? (bytes : List UInt8) : Option Payload :=
  if size_le : bytes.length ≤ payloadLimit then some ⟨bytes, size_le⟩ else none

def size (p : Payload) : Nat :=
  p.bytes.length

/-- Append one byte; a full payload stays as it is. -/
def push (p : Payload) (byte : UInt8) : Payload :=
  if room : p.bytes.length < payloadLimit then
    ⟨p.bytes ++ [byte], by simp only [List.length_append, List.length_singleton]; omega⟩
  else p

end Payload

/-- A message identifier with its payload. -/
structure Frame where
  id : UInt8
  payload : Payload
  deriving DecidableEq

namespace Frame

def startByte : UInt8 := 0x7b

def endByte : UInt8 := 0x7d

/-- The reserved bytes between payload and end delimiter. -/
def reserved : List UInt8 := [0, 0]

/-- Bytes of a frame besides its payload. -/
def overhead : Nat := 6

/-- A frame of arbitrary bytes, if they fit a payload. -/
def new (id : UInt8) (bytes : List UInt8) : Except FrameError Frame :=
  match Payload.ofBytes? bytes with
  | some payload => .ok ⟨id, payload⟩
  | none => .error .payloadTooLarge

/-- A frame without payload. -/
def empty (id : UInt8) : Frame := ⟨id, .empty⟩

/-- The length byte. -/
def length (f : Frame) : UInt8 :=
  UInt8.ofNat f.payload.size

/-- Number of bytes on the wire. -/
def encodedSize (f : Frame) : Nat :=
  overhead + f.payload.size

/-- The bytes on the wire. -/
def encode (f : Frame) : List UInt8 :=
  [startByte, f.id, f.length] ++ f.payload.bytes ++ reserved ++ [endByte]

/-- Encode into the front of a buffer, giving the number of bytes written and
the buffer afterwards. -/
def encodeInto (f : Frame) (buffer : List UInt8) : Except FrameError (Nat × List UInt8) :=
  if buffer.length < f.encodedSize then .error .bufferTooSmall
  else .ok (f.encodedSize, f.encode ++ buffer.drop f.encodedSize)

end Frame

end XYStage
