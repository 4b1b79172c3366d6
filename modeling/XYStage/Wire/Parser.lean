/-
# XYStage.Wire.Parser -- recovering frames from a byte stream

`Parser.feed` takes one byte at a time. Bytes before a start delimiter are
skipped; from there the declared length alone decides where the frame ends, so a
delimiter inside the payload means nothing. A frame whose last byte is not the
end delimiter is dropped, and the search for a start begins after that byte.

Each constructor of `Parser` keeps only what has been read so far.
-/
import XYStage.Wire.Frame

namespace XYStage

set_option autoImplicit false

/-- How much of a frame has been received. -/
inductive Parser where
  /-- Between frames. -/
  | outside
  /-- The start delimiter. -/
  | started
  /-- The identifier. -/
  | identified (id : UInt8)
  /-- A nonzero length, and fewer payload bytes than it declares. -/
  | collecting (id length : UInt8) (payload : Payload)
  /-- The whole payload, and `seen` of the reserved bytes. -/
  | padding (id : UInt8) (payload : Payload) (seen : Nat)
  /-- Everything but the end delimiter. -/
  | closing (id : UInt8) (payload : Payload)
  deriving DecidableEq

namespace Parser

/-- What one byte brought about. -/
inductive Outcome where
  /-- No frame ends here. -/
  | pending
  /-- The byte completed this frame. -/
  | complete (frame : Frame)
  /-- The byte stood where the end delimiter belongs; the frame is dropped. -/
  | broken
  deriving DecidableEq

/-- Whether a start delimiter has been seen and its frame has not ended. -/
def isPartial : Parser → Bool
  | .outside => false
  | _ => true

/-- Take one byte. -/
def feed (byte : UInt8) : Parser → Outcome × Parser
  | .outside => (.pending, if byte = Frame.startByte then .started else .outside)
  | .started => (.pending, .identified byte)
  | .identified id =>
      (.pending, if byte = 0 then .padding id .empty 0 else .collecting id byte .empty)
  | .collecting id length payload =>
      let payload := payload.push byte
      (.pending,
        if payload.size = length.toNat then .padding id payload 0
        else .collecting id length payload)
  | .padding id payload seen =>
      (.pending,
        if seen + 1 = Frame.reserved.length then .closing id payload
        else .padding id payload (seen + 1))
  | .closing id payload =>
      if byte = Frame.endByte then (.complete ⟨id, payload⟩, .outside)
      else (.broken, .outside)

/-- Take bytes up to the first one that completes or spoils a frame; the bytes
after it are not looked at. -/
def feedAll : List UInt8 → Parser → Outcome × Parser
  | [], parser => (.pending, parser)
  | byte :: rest, parser =>
      match parser.feed byte with
      | (.pending, parser) => feedAll rest parser
      | ended => ended

/-- Take every byte: what each brought about, with the parser after it, and the
parser after the last. -/
def trace : List UInt8 → Parser → List (Outcome × Parser) × Parser
  | [], parser => ([], parser)
  | byte :: rest, parser =>
      let (outcome, parser) := parser.feed byte
      let (later, last) := trace rest parser
      ((outcome, parser) :: later, last)

end Parser

/-- The outcome as a result: a frame if one was completed, or the error that
dropped it. -/
def Parser.Outcome.result : Parser.Outcome → Except FrameError (Option Frame)
  | .pending => .ok none
  | .complete frame => .ok (some frame)
  | .broken => .error .missingEnd

end XYStage
