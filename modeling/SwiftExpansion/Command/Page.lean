import SwiftExpansion.Command.Line
import SwiftExpansion.Version

/-!
# Help and usage texts

Each command has a page with its usage line and its help, and its switches. A faulty command line
is answered by the fault, mostly after the usage line and a pointer to the help.
-/
namespace SwiftExpansion.Command

inductive Page
  | group
  | expand
  | macros
  deriving Repr, DecidableEq

namespace Page

def path : Page → String
  | .group => "cli"
  | .expand => "cli expand"
  | .macros => "cli macros"

def usage : Page → String
  | .group => "Usage: cli [OPTIONS] COMMAND [ARGS]...\n"
  | .expand => "Usage: cli expand [OPTIONS] REQUEST_FILES...\n"
  | .macros => "Usage: cli macros [OPTIONS]\n"

def body : Page → String
  | .group => "
  SyMacros - Swift macro expansion engine.

Options:
  --version  Show the version and exit.
  --help     Show this message and exit.

Commands:
  expand  Expand macro usages described by JSON request files.
  macros  List the registered macros.
"
  | .expand => "
  Expand macro usages described by JSON request files.

  Each file holds one expansion request or a list of them, as produced by the
  host's parser. Generated code and diagnostics are printed; the exit status is
  1 when any error was reported.

Options:
  -c, --config FILE         Optional JSON configuration file
  -f, --format [text|json]  Report format
  -o, --output FILE         Output file for the report (default: stdout)
  -j, --jobs INTEGER RANGE  Number of requests expanded in parallel  [x>=1]
  -v, --verbose             Enable verbose logging
  --help                    Show this message and exit.
"
  | .macros => "
  List the registered macros.

Options:
  -c, --config FILE         Optional JSON configuration file
  -f, --format [text|json]
  --help                    Show this message and exit.
"

def help (p : Page) : String :=
  p.usage ++ p.body

def pointer (p : Page) : String :=
  p.usage ++ "Try '" ++ p.path ++ " --help' for help.\n\n"

/-- The answer to a faulty command line. The wrong use of an option points to no page. -/
def complaint (p : Page) (f : UsageFault) : String :=
  (if f.isOptionUse then "" else p.pointer) ++ "Error: " ++ f.message ++ "\n"

def switches : Page → List SwitchForm
  | .group => [⟨.version, "--version", none, false⟩, ⟨.help, "--help", none, false⟩]
  | .expand => [
      ⟨.config, "--config", some 'c', true⟩,
      ⟨.format, "--format", some 'f', true⟩,
      ⟨.output, "--output", some 'o', true⟩,
      ⟨.jobs, "--jobs", some 'j', true⟩,
      ⟨.verbose, "--verbose", some 'v', false⟩,
      ⟨.help, "--help", none, false⟩]
  | .macros => [
      ⟨.config, "--config", some 'c', true⟩,
      ⟨.format, "--format", some 'f', true⟩,
      ⟨.help, "--help", none, false⟩]

end Page

def versionLine : String :=
  "cli, version " ++ version ++ "\n"

end SwiftExpansion.Command
