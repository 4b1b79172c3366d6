/-
# XYStage.Controller.Axes -- both axes of the stage
-/
import XYStage.Motion.Axis
import XYStage.Status

namespace XYStage

set_option autoImplicit false

/-- The two axes. -/
structure Axes (α : Type) where
  x : Axis α
  y : Axis α

namespace Axes

variable {α : Type}

def get (id : AxisId) (axes : Axes α) : Axis α :=
  match id with
  | .x => axes.x
  | .y => axes.y

def set (id : AxisId) (axis : Axis α) (axes : Axes α) : Axes α :=
  match id with
  | .x => { axes with x := axis }
  | .y => { axes with y := axis }

/-- Act on both axes, X first. -/
def map (f : Axis α → Axis α) (axes : Axes α) : Axes α :=
  ⟨f axes.x, f axes.y⟩

def anyMoving (axes : Axes α) : Bool :=
  axes.x.state.moving || axes.y.state.moving

/-- The limit flags over both axes. -/
def limits (axes : Axes α) : LimitFlags where
  anyLimit := axes.x.anyLimit || axes.y.anyLimit
  allHome := axes.x.state.pressed.home && axes.y.state.pressed.home
  anyHome := axes.x.state.pressed.home || axes.y.state.pressed.home

variable [AxisHardware α]

/-- Both axes at rest at zero. -/
def new (x y : α) : Axes α := ⟨.new .x x, .new .y y⟩

/-- Halt both axes. -/
def halt (axes : Axes α) : Axes α :=
  axes.map Axis.stop

end Axes

end XYStage
