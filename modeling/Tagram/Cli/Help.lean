/-
# Help

The texts that the program prints about itself, line by line.

Key definitions: `Cli.Topic`, `Cli.helpText`, `Cli.versionText`.
-/

namespace Tagram
namespace Cli

/-- What help can be asked about. -/
inductive Topic where
  | program
  | listen
  | send
  | help
  deriving DecidableEq

/-- The name and version of the program. -/
def versionText : String := "wirebridge 0.1.0"

/-- The options that every command has. -/
def commonOptions : List String := [
  "      --max-retries <MAX_RETRIES>",
  "          Give up after this many consecutive socket failures",
  "      --max-backoff-ms <MAX_BACKOFF_MS>",
  "          Longest wait between socket reopen attempts, in milliseconds [default: 5000]",
  "  -h, --help",
  "          Print help"]

/-- The help on a topic. -/
def helpText : Topic → List String
  | .program => [
      "Type-tagged UDP message framing with a thread-safe queue bridge",
      "",
      "Usage: wirebridge [OPTIONS] <COMMAND>",
      "",
      "Commands:",
      "  listen  Print every command received at an address",
      "  send    Send a single Move command",
      "  help    Print this message or the help of the given subcommand(s)",
      "",
      "Options:"] ++ commonOptions ++ [
      "  -V, --version",
      "          Print version"]
  | .listen => [
      "Print every command received at an address",
      "",
      "Usage: wirebridge listen [OPTIONS] <ADDRESS>",
      "",
      "Arguments:",
      "  <ADDRESS>  Address to receive datagrams on",
      "",
      "Options:",
      "      --forward <FORWARD>",
      "          Re-send received commands to this peer",
      "      --bind <BIND>",
      "          Local address used when forwarding [default: 0.0.0.0:0]"] ++ commonOptions
  | .send => [
      "Send a single Move command",
      "",
      "Usage: wirebridge send [OPTIONS] <BIND> <PEER> <UID> <X> <Y>",
      "",
      "Arguments:",
      "  <BIND>  Local address to send from",
      "  <PEER>  Destination of the datagram",
      "  <UID>   ",
      "  <X>     ",
      "  <Y>     ",
      "",
      "Options:"] ++ commonOptions
  | .help => [
      "Print this message or the help of the given subcommand(s)",
      "",
      "Usage: wirebridge help [COMMAND]...",
      "",
      "Arguments:",
      "  [COMMAND]...  Print help for the subcommand(s)"]

end Cli
end Tagram
