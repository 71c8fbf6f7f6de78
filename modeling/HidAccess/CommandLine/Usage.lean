import HidAccess.CommandLine.Grammar

/-!
# Usage texts

What is printed when help or the version is wanted, and what is said about words that are wrong.
-/

namespace HidAccess

namespace Usage

def version (level : Level) : String :=
  let name := match level with
    | none => "hidkit"
    | some c => "hidkit-" ++ c.name
  name ++ " 0.1.0\n"

def help : String :=
  "List and talk to HID devices\n\n"
    ++ "Usage: hidkit [OPTIONS] [COMMAND]\n\n"
    ++ "Commands:\n"
    ++ "  list  List attached HID devices (default) [aliases: ls, l]\n"
    ++ "  info  Open a device and print its descriptor strings [aliases: i]\n"
    ++ "  read  Read input reports and print them in hex [aliases: r]\n"
    ++ "  poll  Write a report and poll for a response [aliases: p]\n"
    ++ "  help  Print this message or the help of the given subcommand(s)\n\n"
    ++ "Options:\n"
    ++ "      --config <FILE>      Configuration file (default: <config dir>/hidkit/config.toml)\n"
    ++ "      --backend <KIND>     Backend to use instead of the configured/build default\n"
    ++ "      --log-level <LEVEL>  Log filter (e.g. debug, hidkit=trace); RUST_LOG wins\n"
    ++ "  -h, --help               Print help\n"
    ++ "  -V, --version            Print version\n"

end Usage

namespace UsageError

def answer : UsageError → String
  | .helpWanted => Usage.help
  | .versionWanted level => Usage.version level
  | _ => ""

def complaint? : UsageError → Option String
  | .helpWanted | .versionWanted _ => none
  | .unknownArgument => some "unexpected argument"
  | .unknownCommand => some "unrecognized subcommand"
  | .malformedValue | .missingValue => some "an option has an invalid value"
  | .missingOption => some "required options were not provided"
  | .conflict => some "options cannot be used together"
  | .unneededValue => some "an option was given a value that it does not take"

end UsageError

end HidAccess
