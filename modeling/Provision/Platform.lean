namespace Provision

/-!
# Platforms

A platform is an operating system and a processor.  Downloads are chosen by platform.
-/

/-- Operating systems that downloads are offered for. -/
inductive OperatingSystem where
  | windows
  | osx
  | linux
  deriving Repr, DecidableEq

/-- Processors that downloads are offered for. -/
inductive Processor where
  | x64
  | arm64
  | x32
  deriving Repr, DecidableEq

/-- A platform to run on. -/
structure Platform where
  system : OperatingSystem
  processor : Processor
  deriving Repr, DecidableEq

namespace OperatingSystem

/-- The name of an operating system. -/
def name : OperatingSystem → String
  | .windows => "windows"
  | .osx => "osx"
  | .linux => "linux"

/-- The operating system with a name. -/
def ofName? (text : String) : Option OperatingSystem :=
  [windows, osx, linux].find? fun system => system.name = text

end OperatingSystem

namespace Processor

/-- The name of a processor. -/
def name : Processor → String
  | .x64 => "x64"
  | .arm64 => "arm64"
  | .x32 => "x32"

/-- The processor with a name. -/
def ofName? (text : String) : Option Processor :=
  [x64, arm64, x32].find? fun processor => processor.name = text

end Processor

namespace Platform

/-- The platform that the library itself runs on. -/
def host : Platform :=
  ⟨.linux, .x64⟩

end Platform

end Provision
