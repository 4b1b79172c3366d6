/-
# XYStage.Controller.Report -- the record of one control iteration

A poll of the controller reports what it did: whether it reloaded the
calibration, the status changes it made and why, and what became of the frame it
received, if it received one. When the link fails, the record up to the failure
stands beside the error.
-/
import XYStage.Calibration.Setting
import XYStage.Link.Exchange
import XYStage.Motion.Axis
import XYStage.Status

namespace XYStage

set_option autoImplicit false

/-- A change of status. -/
structure StatusChange where
  before : Status
  after : Status
  deriving DecidableEq

/-- What became of a received frame. -/
inductive FrameFate where
  /-- A command was executed; the result is that of the `axisResult` sent, if
  the command has one. -/
  | executed (id : UInt8) (result : Option ResultCode)
  /-- The identifier is not a command. -/
  | unknown (id : UInt8)
  /-- The payload was refused; the flag tells whether the host was told. -/
  | refused (id : UInt8) (replied : Bool)
  deriving DecidableEq

/-- What one poll did. -/
structure PollRecord where
  /-- The calibration was reloaded from the store. -/
  reloaded : Bool
  /-- The change of status because no axis was moving. -/
  rested : Option StatusChange
  /-- The change of status because of a command. -/
  onCommand : Option StatusChange
  fate : Option FrameFate
  /-- Why the store did not take a calibration value. -/
  storeFailure : Option StoreFailure
  deriving DecidableEq

/-- A poll that did nothing. -/
def PollRecord.nothing : PollRecord := ⟨false, none, none, none, none⟩

/-- The record of a poll, and the failure of the link that ended it early. -/
structure PollReport (ε : Type) where
  record : PollRecord
  failure : Option (ExchangeError ε)

/-- Why a motion ended on an event. -/
inductive MotionEnding where
  /-- The last segment reached its target. -/
  | completed (axis : AxisId)
  /-- A limit switch stopped the axis. -/
  | blocked (axis : AxisId) (switch : LimitSwitch)
  deriving DecidableEq

end XYStage
