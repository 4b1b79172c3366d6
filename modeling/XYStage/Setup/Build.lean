/-
# XYStage.Setup.Build -- configuring a firmware build

A build announces its linker arguments and the files it depends on, validates
the board configuration and writes the constants. It stops with a boxed message
if there is no configuration or if anything is wrong with it.
-/
import XYStage.Setup.Constants
import XYStage.Setup.Validation

namespace XYStage

set_option autoImplicit false

namespace Setup

/-- Why a build stops. -/
inductive BuildError where
  /-- There is no configuration file. -/
  | configMissing
  | invalidConfig (violations : List Violation)
  /-- The configuration lacks something the constants need. -/
  | constantsIncomplete

/-- A configured build. -/
structure BuildOutput where
  /-- The text of the constants. -/
  boardConstants : String
  /-- Whether the linker's memory layout was written. -/
  memoryLayout : Bool

/-! ## Boxes -/

/-- Columns between the sides of a box. -/
def boxWidth : Nat := 66

def boxTop : String := "╔" ++ String.ofList (List.replicate boxWidth '═') ++ "╗"

def boxRule : String := "╠" ++ String.ofList (List.replicate boxWidth '═') ++ "╣"

def boxBottom : String := "╚" ++ String.ofList (List.replicate boxWidth '═') ++ "╝"

/-- A text filled up with blanks; a longer one stays as it is. -/
def padded (width : Nat) (text : String) : String :=
  text ++ String.ofList (List.replicate (width - text.length) ' ')

def boxLine (text : String) : String :=
  "║  " ++ padded 64 text ++ "║"

/-- A line of a box for one of several messages. -/
def boxItem (text : String) : String :=
  "║  • " ++ padded 62 text ++ " ║"

def BuildError.message : BuildError → String
  | .configMissing =>
      "\n".intercalate [boxTop, boxLine "ERROR: gantry.toml not found!", boxLine "",
        boxLine "The firmware requires a gantry.toml board configuration.",
        boxLine "Please create one in the gantry-firmware directory.", boxBottom]
  | .invalidConfig violations =>
      "\n".intercalate
        ([boxTop, boxLine "ERROR: Invalid configuration in gantry.toml", boxRule] ++
          violations.map (fun violation => boxItem violation.message) ++ [boxBottom])
  | .constantsIncomplete => "incomplete configuration"

/-! ## The build -/

/-- The lines announced before the configuration is looked at. The logging
feature has linker arguments of its own. -/
def announcements (logging : Bool) : List String :=
  ["cargo:rustc-link-search=out",
    "cargo:rustc-link-arg-bins=--nmagic",
    "cargo:rustc-link-arg-bins=-Tlink.x",
    "cargo:rustc-link-arg-bins=-Tlink-rp.x"] ++
  (if logging then ["cargo:rustc-link-arg-bins=-Tdefmt.x"] else []) ++
  ["cargo:rerun-if-changed=memory.x",
    "cargo:rerun-if-changed=build.rs",
    "cargo:rerun-if-changed=gantry.toml"]

/-- The line announced once the configuration is valid. -/
def validated : String := "cargo:warning=gantry.toml validated successfully"

/-- The lines a build announces, and what becomes of it. -/
def build (logging : Bool) (config : Option Value) :
    List String × Except BuildError BuildOutput :=
  match config with
  | none => (announcements logging, .error .configMissing)
  | some document =>
      match violations document with
      | [] =>
          let output :=
            match constants? document with
            | some boardConstants => .ok { boardConstants, memoryLayout := true }
            | none => .error .constantsIncomplete
          (announcements logging ++ [validated], output)
      | violations => (announcements logging, .error (.invalidConfig violations))

end Setup

end XYStage
