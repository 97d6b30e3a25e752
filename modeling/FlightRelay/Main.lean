import FlightRelay.Application
import FlightRelay.CommandLine
import FlightRelay.Deflate.Library
import FlightRelay.Toml.Writer

/-!
# The program

Reads the command line and the settings file, which is written with the standard settings if there is
none, and makes the application from both.
-/

namespace FlightRelay.Main

/-- Text for those who ask for help. -/
def usage : String :=
  "\n".intercalate
    ["Real-time relay server for flight-simulation networks",
      "",
      "Usage: SkyRelay [OPTIONS]",
      "",
      "Options:",
      "  -c, --config <FILE>            Configuration file path [default: skyrelay.toml]",
      "  -b, --bind <ADDRESS>           Bind address (e.g., 0.0.0.0:14000)",
      "  -l, --log-level <LEVEL>        Log level (trace, debug, info, warn, error)",
      "  -m, --max-connections <COUNT>  Maximum number of concurrent connections",
      "      --json-logs                Output logs in JSON format",
      "  -h, --help                     Print help",
      "  -V, --version                  Print version"]

/-- Name and version of the program. -/
def version : String := "SkyRelay 0.1.0"

/-- What the program says of a command line that it does not carry out. -/
def complaint (e : CommandLineError) : String := s!"error: {e.kind}"

/-- Processors of the machine, as far as the program knows. -/
def processors : Nat := 4

/-- The settings in a file, which is written first if there is none. -/
def load (path : String) : IO (Option AppSettings) := do
  try
    return AppSettings.ofText? (← IO.FS.readFile path)
  catch
    | .noFileOrDirectory .. =>
      IO.FS.writeFile path AppSettings.standard.text
      return some AppSettings.standard
    | _ => return none

/-- Makes the application and says where it would listen. -/
def run (c : CommandLine) : IO UInt32 := do
  match ← load c.configPath with
  | none =>
    IO.eprintln s!"Failed to load {c.configPath}"
    return 1
  | some settings =>
    let now ← IO.monoMsNow
    match Application.create (c.override settings) Deflate.library processors now with
    | .error e =>
      IO.eprintln s!"Failed to start application: {e.startMessage}"
      return 1
    | .ok application =>
      let address := application.server.settings.bindAddress.text
      IO.println s!"Configuration loaded and validated successfully: {address}"
      return 0

end FlightRelay.Main

/-- Carries out a command line. -/
def main (words : List String) : IO UInt32 := do
  match FlightRelay.CommandLine.parse words with
  | .error .help =>
    IO.println FlightRelay.Main.usage
    return 0
  | .error .version =>
    IO.println FlightRelay.Main.version
    return 0
  | .error e =>
    IO.eprintln (FlightRelay.Main.complaint e)
    return 2
  | .ok c => FlightRelay.Main.run c
