import BenchSweep.Settings.Decode
import BenchSweep.Settings.Validate
import BenchSweep.Yaml.Node.Read

/-! # Loading a configuration

    A configuration comes from the text of a settings file or from defaults
    alone; either way single settings may be replaced. -/

namespace BenchSweep

/-- Why a configuration cannot be loaded. -/
inductive LoadFault where
  | invalid (fault : Fault)
  | notFound (path : String)
  | malformed (fault : Yaml.Malformed)
  | undecodable (problem : Settings.Problem)
  | unreadable (reason : String)
deriving DecidableEq, Repr

/-- The wording of a loading fault. -/
def LoadFault.message : LoadFault → String
  | .invalid fault   => "Hard validation error: " ++ fault.message
  | .notFound path   => "Configuration file not found: " ++ path
  | .malformed fault =>
      "Configuration parse error: YAML parse error: " ++ fault.problem
        ++ Settings.markText fault.mark
  | .undecodable problem =>
      "Configuration parse error: YAML parse error: " ++ problem.message
  | .unreadable reason => "IO error: reading config file - " ++ reason

/-- What reading a file finds. -/
inductive Contents where
  | absent
  | bytes (content : List UInt8)
  | unreadable (reason : String)
deriving DecidableEq, Repr

/-- The reason why bytes are no text. -/
def notTextReason : String := "stream did not contain valid UTF-8"

namespace Settings

/-- The settings that a text makes; a blank text makes none. -/
def parse (text : String) : Except LoadFault RawConfig :=
  if Text.allBlank text.toList then .ok {}
  else do
    let document ← (Yaml.Document.read text.toList).mapError .malformed
    (decode document).mapError .undecodable

/-- The configuration of a text. -/
def load (text : String) (overrides : Overrides) : Except LoadFault Config := do
  (validate (← parse text) overrides).mapError .invalid

/-- The configuration of the file at a path. -/
def loadFile (path : String) (contents : Contents) (overrides : Overrides) :
    Except LoadFault Config :=
  match contents with
  | .absent            => .error (.notFound path)
  | .unreadable reason => .error (.unreadable reason)
  | .bytes content     =>
      match String.fromUTF8? ⟨content.toArray⟩ with
      | none      => .error (.unreadable notTextReason)
      | some text => load text overrides

/-- The configuration of the defaults. -/
def defaults (overrides : Overrides) : Except LoadFault Config :=
  (validate {} overrides).mapError .invalid

end Settings

end BenchSweep
