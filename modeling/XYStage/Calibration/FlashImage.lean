/-
# XYStage.Calibration.FlashImage -- the stored form of a calibration

An image is a calibration between a header (magic number and format version) and
its checksum, in compact form. Reading takes the image from the front of the
bytes and ignores what follows; what was read must then have the right magic
number, version and checksum, in that order.
-/
import XYStage.Calibration.Checksum
import XYStage.Calibration.Compact

namespace XYStage

set_option autoImplicit false

/-- What can go wrong between a calibration and its stored form. -/
inductive FlashImageError where
  /-- The buffer is too small. -/
  | tooLarge
  /-- The bytes are no image. -/
  | unreadable
  | wrongMagic
  | unknownVersion (version : UInt8)
  | wrongChecksum
  deriving DecidableEq

def FlashImageError.message : FlashImageError → String
  | .tooLarge => "calibration image encode failed"
  | .unreadable => "calibration image decode failed"
  | .wrongMagic => "calibration image magic mismatch"
  | .unknownVersion version =>
      "unsupported calibration image version " ++ toString version.toNat
  | .wrongChecksum => "calibration image CRC mismatch"

/-- A calibration with what makes it recognisable. -/
structure FlashImage where
  magic : UInt32
  version : UInt8
  calibration : Calibration
  checksum : UInt32
  deriving DecidableEq

namespace FlashImage

/-- The magic number of every image. -/
def expectedMagic : UInt32 := 0x47414e54

/-- The version of this format. -/
def currentVersion : UInt8 := 1

/-- A buffer of this size holds every image. -/
def maxSize : Nat := 256

def new (calibration : Calibration) : FlashImage :=
  ⟨expectedMagic, currentVersion, calibration, calibration.checksum⟩

/-- Check magic number, version and checksum. -/
def verify (image : FlashImage) : Except FlashImageError Unit :=
  if image.magic ≠ expectedMagic then .error .wrongMagic
  else if image.version ≠ currentVersion then .error (.unknownVersion image.version)
  else if image.checksum ≠ image.calibration.checksum then .error .wrongChecksum
  else .ok ()

/-- The bytes of an image. -/
def bytes (image : FlashImage) : List UInt8 :=
  Compact.count image.magic ++ [image.version] ++ Compact.calibration image.calibration ++
    Compact.count image.checksum

/-- The bytes of an image, if a buffer of the given size holds them. -/
def encode (image : FlashImage) (bufferSize : Nat) : Except FlashImageError (List UInt8) :=
  if image.bytes.length ≤ bufferSize then .ok image.bytes else .error .tooLarge

def reader : Compact.Reader FlashImage := do
  let magic ← Compact.Reader.count
  let version ← Compact.Reader.byte
  let calibration ← Compact.Reader.calibration
  let checksum ← Compact.Reader.count
  return { magic, version, calibration, checksum }

/-- The calibration of a valid image at the front of some bytes. -/
def decode (bytes : List UInt8) : Except FlashImageError Calibration :=
  match reader bytes with
  | none => .error .unreadable
  | some (image, _) =>
      match image.verify with
      | .error e => .error e
      | .ok () => .ok image.calibration

end FlashImage

end XYStage
