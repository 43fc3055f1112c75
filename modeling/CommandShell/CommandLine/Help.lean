/-!
# Help and version

The two texts that the program prints about itself, without the line feed that printing adds.
-/

namespace CommandShell.CommandLine

/-- The version of the program. -/
def version : String := "0.1.0"

/-- The line that names the program and its version. -/
def versionText : String := "clish " ++ version

/-- The help text; it ends with an empty line. -/
def helpText : String :=
  "\n".intercalate
    [versionText,
      "Interactive and scriptable command shell",
      "",
      "USAGE:",
      "    clish [OPTIONS] [SCRIPT]",
      "",
      "OPTIONS:",
      "    -f, --file <FILE>       Run commands from FILE instead of stdin",
      "    -t, --thread            Run the session on a worker thread",
      "    -c, --config <FILE>     Path to configuration file (JSON)",
      "    -p, --path <PATH>       Definition search path (semicolon separated)",
      "    -l, --log-level <LVL>   Log level (error, warn, info, debug, trace)",
      "    -h, --help              Print help",
      "    -V, --version           Print version",
      "",
      "ENVIRONMENT VARIABLES:",
      "    CLISH_PATH              Definition search path [default: /etc/clish;~/.clish]",
      "    CLISH_LOG_LEVEL         Log level (overrides config)",
      "    RUST_LOG                Alternative log level setting",
      "    HOME                    Substituted for a leading '~' in the search path",
      "",
      "EXAMPLES:",
      "    # Interactive session",
      "    clish",
      "",
      "    # Run a script on a worker thread",
      "    clish --thread -f setup.clish",
      "",
      "    # Use a private definition directory",
      "    clish -p ~/my-defs",
      ""]

end CommandShell.CommandLine
