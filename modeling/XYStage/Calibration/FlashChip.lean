/-
# XYStage.Calibration.FlashChip -- the calibration in flash memory

The last 64 KiB of flash hold a log of items under keys; every item is a
calibration image under `FlashKey.calibration`, and the newest one counts. A
`FlashChip` keeps the log, whether accesses fail, and the lowest address that was
ever programmed.

Keys, buffers and the steps of a fetch and a store are the driver's. The log under them
(`FlashLog`), the failures and the address are the bench's picture of a chip and its
storage library.
-/
import XYStage.Calibration.FlashImage
import XYStage.Calibration.FlashLog

namespace XYStage

set_option autoImplicit false

/-- Why a key and its bytes do not match. -/
inductive KeyError where
  | bufferTooSmall
  | invalidFormat
  deriving DecidableEq

/-- The keys of flash items. -/
inductive FlashKey where
  | calibration
  deriving DecidableEq

namespace FlashKey

def toByte : FlashKey → UInt8
  | .calibration => 0

/-- Write a key into the front of a buffer, giving the number of bytes written
and the buffer afterwards. -/
def writeInto (key : FlashKey) : List UInt8 → Except KeyError (Nat × List UInt8)
  | [] => .error .bufferTooSmall
  | _ :: rest => .ok (1, key.toByte :: rest)

/-- Read a key off the front of some bytes, giving the number of bytes used. -/
def ofBytes : List UInt8 → Except KeyError (FlashKey × Nat)
  | [] => .error .bufferTooSmall
  | byte :: _ => if byte = 0 then .ok (.calibration, 1) else .error .invalidFormat

end FlashKey

/-- Why a flash access failed. -/
inductive FlashError where
  /-- The storage reported an error. -/
  | inaccessible
  /-- There is no item. -/
  | absent
  /-- The item is no valid image. -/
  | image (error : FlashImageError)
  deriving DecidableEq

namespace Flash

/-- Bytes of flash memory. -/
def size : Nat := 2 * 1024 * 1024

/-- The first address of the partition that holds the log. -/
def partitionStart : Nat := size - FlashLog.pageCount * FlashPage.size

/-- Bytes of the buffer through which images are stored and fetched, key included. -/
def imageBuffer : Nat := FlashImage.maxSize + 32

/-- Bytes of the buffer through which items of any content are stored, key included. -/
def rawBuffer : Nat := 512

end Flash

/-- A flash chip. -/
structure FlashChip where
  /-- The items under the calibration key. -/
  log : FlashLog
  /-- Whether every access fails. -/
  failing : Bool
  /-- The lowest address that was ever programmed. -/
  lowestProgrammed : Nat
  deriving DecidableEq

namespace FlashChip

/-- An erased chip. -/
def erased : FlashChip := ⟨.empty, false, Flash.size⟩

/-- Whether everything below the partition is still erased. -/
def untouchedBelowPartition (chip : FlashChip) : Bool :=
  decide (Flash.partitionStart ≤ chip.lowestProgrammed)

/-- Store an item under the calibration key, through a buffer of so many bytes. -/
def store (buffer : Nat) (bytes : List UInt8) (chip : FlashChip) :
    Except FlashError Unit × FlashChip :=
  if chip.failing then (.error .inaccessible, chip)
  else
    let (stored, log) := chip.log.append buffer bytes
    (stored.mapError fun _ => .inaccessible, { chip with
      log
      lowestProgrammed := min chip.lowestProgrammed Flash.partitionStart })

/-- Store an item of any content. -/
def storeRaw (bytes : List UInt8) (chip : FlashChip) : Except FlashError Unit × FlashChip :=
  chip.store Flash.rawBuffer bytes

/-- The item under the calibration key. -/
def fetch (chip : FlashChip) : Except FlashError (List UInt8) :=
  if chip.failing then .error .inaccessible
  else
    match chip.log.newest Flash.imageBuffer with
    | .error _ => .error .inaccessible
    | .ok none => .error .absent
    | .ok (some bytes) => .ok bytes

/-- Erase the whole chip. -/
def erase (chip : FlashChip) : FlashChip :=
  { chip with log := .empty }

/-- Fetch the stored calibration, if it is a valid image. -/
def fetchCalibration (chip : FlashChip) : Except FlashError Calibration :=
  match chip.fetch with
  | .error e => .error e
  | .ok bytes => (FlashImage.decode bytes).mapError .image

/-- Store a calibration as a new image. -/
def storeCalibration (c : Calibration) (chip : FlashChip) : Except FlashError Unit × FlashChip :=
  match (FlashImage.new c).encode FlashImage.maxSize with
  | .error e => (.error (.image e), chip)
  | .ok bytes => chip.store Flash.imageBuffer bytes

end FlashChip

end XYStage
