/-!
# Help

What the program says about itself.
-/

namespace DatasetSchema.CommandLine

/-- The version of the program. -/
def versionText : String :=
  "dsdl 0.1.0"

/-- How the program is used. -/
def helpText : String :=
  "Usage: dsdl [OPTIONS] <INPUT>\n\n" ++
  "Arguments:\n" ++
  "  <INPUT>  Path to the input schema file\n\n" ++
  "Options:\n" ++
  "  -o, --output <OUTPUT>        Path to the generated Python file; defaults to the input path " ++
  "with a `.py` extension\n" ++
  "  -c, --config <CONFIG>        Path to configuration file (TOML)\n" ++
  "      --log-level <LOG_LEVEL>  Log level (off, error, warn, info, debug, trace) " ++
  "[default: info]\n" ++
  "  -h, --help                   Print help\n" ++
  "  -V, --version                Print version"

end DatasetSchema.CommandLine
