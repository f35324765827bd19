import RangeTest.Command.Arguments

namespace RangeTest

/-- The exit status of a command line that asks for no run. -/
def Halt.status : Halt → Nat
  | misuse => 2
  | help => 0
  | version => 0

def Usage.shape : String :=
  "Usage: ranger-analyzer [OPTIONS] <RXLOG> <TXLOG>"

/-- What the arguments are for, line by line. -/
def Usage.helpLines : List String :=
  ["Analyze ranger range-test logs: per-link RSSI and packet loss, joined CSV export",
    "",
    shape,
    "",
    "Arguments:",
    "  <RXLOG>  Log of the receiving node",
    "  <TXLOG>  Log of the transmitting node",
    "",
    "Options:",
    "  -c, --csvfile <PATH>  Write one row per received packet to this CSV file",
    "  -n, --nodes <PATH>    Node-info table, enables the metadata join",
    "  -l, --los <PATH>      Line-of-sight table",
    "  -s, --summary <PATH>  Write a JSON summary of every link to this file",
    "      --config <PATH>   TOML configuration (default: ranger.toml next to RXLOG)",
    "  -i, --interactive     Ask for node metadata missing from the tables",
    "  -v...                 Raise log verbosity (-v debug, -vv trace)",
    "  -h, --help            Print help",
    "  -V, --version         Print version"]

def Usage.version : String :=
  "ranger-analyzer 0.1.0"

/-- What a command line without a run is answered with. -/
def Halt.lines : Halt → List String
  | misuse =>
    ["error: the arguments make no run", "", Usage.shape, "",
      "For more information, try '--help'."]
  | help => Usage.helpLines
  | version => [Usage.version]

def Halt.text (reason : Halt) : String :=
  String.join (reason.lines.map (· ++ "\n"))

end RangeTest
