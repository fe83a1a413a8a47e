import SidecarProxy.Settings.Load
import SidecarProxy.Startup

/-!
# Command line

Checks the settings of a sidecar and says in which ways it would search for
routes.  The path of the settings follows `-c` or `--config`.
-/

namespace SidecarProxy
namespace CommandLine

/-- Where the settings are when no path is given. -/
def defaultPath : String := "sidecar.toml"

/-- The path that the arguments name; nothing when they cannot be understood. -/
def settingsPath? : List String → Option String
  | [] => some defaultPath
  | ["-c", path] => some path
  | ["--config", path] => some path
  | _ => none

/-- What is said about the arguments when they cannot be understood. -/
def usage : String := "usage: sidecar-proxy [-c PATH | --config PATH]"

/-- What is said about settings that can be used. -/
def summary (s : Settings) : String :=
  s.module.id ++ ": " ++ ", ".intercalate (s.resolver.chain.map Resolve.Strategy.name)

/-- The content of a file, if there is one that can be read. -/
def content? (path : String) : IO (Option (List UInt8)) := do
  try
    let bytes ← IO.FS.readBinFile path
    return some bytes.toList
  catch _ => return none

/-- Runs the command line and gives its exit code. -/
def run (args : List String) : IO UInt32 := do
  match settingsPath? args with
  | none =>
    IO.eprintln usage
    return 2
  | some path =>
    match Settings.ofFile (← content? path) with
    | .error e =>
      IO.eprintln e.message
      return 1
    | .ok s =>
      IO.println (summary s)
      return 0

end CommandLine
end SidecarProxy

/-- The command line. -/
def main (args : List String) : IO UInt32 :=
  SidecarProxy.CommandLine.run args
