import Showroom.CommandLine.Options

/-!
# Showroom.CommandLine.Report

What a user sees: how the command line is used, and the exit codes.
-/

namespace Showroom.CommandLine

def usage : String :=
  "Talk to a laptop catalog server\n\nUsage: laptop-client [OPTIONS] <COMMAND>\n\n" ++
  "Commands:\n" ++
  "  create  Create random laptops (--count N)\n" ++
  "  search  Search the catalog (--max-price X, --min-cores N, --min-ghz X, --min-ram-gb N)\n" ++
  "  upload  Create a random laptop and upload an image of it (--image FILE)\n" ++
  "  rate    Create random laptops and give them random scores (--count N, --rounds N)\n\n" ++
  "Options:\n" ++
  "  --server-address ADDRESS, --username NAME, --password TEXT, --refresh-secs N\n" ++
  "  --help, --version"

def title : String := "laptop-client 0.1.0"

/-- The exit code of a command that is not carried out. -/
def Stop.exitCode : Stop → UInt32
  | .mistake => 2
  | .help => 0
  | .version => 0

/-- What is printed instead of carrying out a command. -/
def Stop.text : Stop → String
  | .mistake => usage
  | .help => usage
  | .version => title

def failureText (message : String) : String := "Error: " ++ message

end Showroom.CommandLine
