/-
# XYStage.Calibration.FlashLog -- a log of items on flash pages

A flash partition is a ring of pages. An item is appended to the current page and
never changes; when the page has no room for it, the page is closed and the next
one becomes the current page. One page is kept free, so opening the last free page
goes with erasing the oldest closed one. All items have the same key: only the
newest counts, but whoever looks for it reads through its whole page and needs a
buffer that can hold each item there.

A `FlashLog` stands for the key-value storage library under the flash driver, which is
not part of the program. It follows the documented layout of that library and only
serves the bench, which runs a whole board against it. Nothing is proved about it, and
no statement about the program rests on it: those about images are about
`FlashImage`, whatever keeps the bytes.
-/

namespace XYStage

set_option autoImplicit false

/-- Why a log could not be read or extended. -/
inductive FlashLogError where
  /-- An item is longer than the buffer it should pass through. -/
  | bufferTooSmall
  /-- An item is longer than a page. -/
  | itemTooLong
  deriving DecidableEq

/-- The values of the items on a page, newest first. -/
abbrev FlashPage := List (List UInt8)

namespace FlashPage

/-- Bytes of a page, which is erased as a whole. -/
def size : Nat := 4096

/-- Bytes that are read at once; items start at multiples of it. -/
def wordSize : Nat := 4

/-- Bytes for items on a page: a word in front and one behind mark the page as in
use and as closed. -/
def capacity : Nat := size - 2 * wordSize

/-- Bytes in front of an item for its length and checksums. -/
def headerSize : Nat := 8

/-- Bytes of an item: a key of one byte and the value. -/
def itemSize (value : List UInt8) : Nat := 1 + value.length

/-- Bytes that an item takes up: its header and as many words as it needs. -/
def footprint (value : List UInt8) : Nat :=
  headerSize + (itemSize value + wordSize - 1) / wordSize * wordSize

/-- Bytes that the items of a page take up. -/
def used : FlashPage → Nat
  | [] => 0
  | value :: before => used before + footprint value

/-- Whether a page has room for one more item. -/
def hasRoom (value : List UInt8) (page : FlashPage) : Bool :=
  decide (page.used + footprint value ≤ capacity)

/-- Whether a buffer of so many bytes can hold each item of a page. -/
def readable (buffer : Nat) (page : FlashPage) : Bool :=
  page.all fun value => itemSize value ≤ buffer

end FlashPage

/-- A log of items. An erased partition is a log whose current page is empty. -/
structure FlashLog where
  /-- The page that takes new items. -/
  current : FlashPage
  /-- The pages that take no more items, newest first. -/
  closed : List FlashPage
  deriving DecidableEq

namespace FlashLog

/-- The log of an erased partition. -/
def empty : FlashLog := ⟨[], []⟩

/-- Pages of the partition. -/
def pageCount : Nat := 16

/-- The newest item of the newest page that has any, read with a buffer of so many
bytes. -/
def newestOn (buffer : Nat) : List FlashPage → Except FlashLogError (Option (List UInt8))
  | [] => .ok none
  | [] :: older => newestOn buffer older
  | (value :: before) :: _ =>
      if FlashPage.readable buffer (value :: before) then .ok (some value)
      else .error .bufferTooSmall

/-- The newest item, read with a buffer of so many bytes. -/
def newest (buffer : Nat) (log : FlashLog) : Except FlashLogError (Option (List UInt8)) :=
  newestOn buffer (log.current :: log.closed)

/-- Whether a page is free. -/
def hasFreePage (log : FlashLog) : Bool :=
  decide (log.closed.length + 1 < pageCount)

/-- Erase the oldest page if no page is free. Its items are read first, and the
newest item is looked up on the other pages. Closed pages are never empty, so it is
there and nothing has to be moved. -/
def reclaim (buffer : Nat) (log : FlashLog) : Except FlashLogError FlashLog :=
  if log.hasFreePage then .ok log
  else if log.closed.getLast?.all (FlashPage.readable buffer) then
    let rest := { log with closed := log.closed.dropLast }
    (rest.newest buffer).map fun _ => rest
  else .error .bufferTooSmall

/-- Close the current page and go on with the next one. -/
def turnPage (log : FlashLog) : FlashLog :=
  ⟨[], log.current :: log.closed⟩

/-- Put an item on the current page. -/
def push (value : List UInt8) (log : FlashLog) : FlashLog :=
  { log with current := value :: log.current }

/-- Append an item that passes through a buffer of so many bytes. A page that
became current while the oldest one could not be erased stays current and empty;
the next append begins by trying again. -/
def append (buffer : Nat) (value : List UInt8) (log : FlashLog) :
    Except FlashLogError Unit × FlashLog :=
  match log.reclaim buffer with
  | .error e => (.error e, log)
  | .ok log =>
      if buffer < FlashPage.itemSize value then (.error .bufferTooSmall, log)
      else if FlashPage.capacity < FlashPage.footprint value then (.error .itemTooLong, log)
      else if log.current.hasRoom value then (.ok (), log.push value)
      else
        match log.turnPage.reclaim buffer with
        | .error e => (.error e, log.turnPage)
        | .ok log => (.ok (), log.push value)

end FlashLog

end XYStage
