import Stencil.CommandLine.Flag

/-!
# Usage texts

How the program and its commands are called, in lines of at most 80 columns.

## Main definitions

- `usage` — the call of the program or of a command
- `helpText` — the usage with what everything means
-/

namespace Stencil

namespace CommandLine

/-- Lines, each with its line feed. -/
def ofLines (lines : List String) : Text :=
  lines.flatMap fun (line : String) => Text.ofString line ++ [Text.newline]

/-- The name that reports of the program or of a command start with. -/
def programName : Option Command → Text
  | none => "templar"
  | some c => "templar " ++ (c.name : Text)

def usageLines : Option Command → List String
  | none => ["usage: templar [-h] [--debug] \x7brender,error\x7d ..."]
  | some .render => [
    "usage: templar render [-h] [--model MODEL | --model-file MODEL_FILE]",
    "                      [--base-dir BASE_DIR] [--templates-dir TEMPLATES_DIR]",
    "                      [--cache-size CACHE_SIZE] [--static | --dynamic]",
    "                      [--output OUTPUT]",
    "                      name"]
  | some .error => [
    "usage: templar error [-h] [--message MESSAGE]",
    "                     [--model MODEL | --model-file MODEL_FILE]",
    "                     [--output OUTPUT]"]

def detailLines : Option Command → List String
  | none => [
    "",
    "Templar template renderer",
    "",
    "positional arguments:",
    "  \x7brender,error\x7d  Available commands",
    "    render        Render a template file",
    "    error         Render the built-in error page",
    "",
    "options:",
    "  -h, --help      show this help message and exit",
    "  --debug         Enable debug logging",
    "",
    "Examples:",
    "  templar render hello.html --model '\x7b\"name\": \"World\"\x7d'",
    "  templar render page.html --base-dir site --templates-dir views --static",
    "  templar error --message \"Something broke\"",
    "            "]
  | some .render => [
    "",
    "positional arguments:",
    "  name                  Template name, relative to the templates directory",
    "",
    "options:",
    "  -h, --help            show this help message and exit",
    "  --model MODEL         Template model as a JSON object",
    "  --model-file MODEL_FILE",
    "                        Path to a JSON file holding the template model",
    "  --base-dir BASE_DIR   Application base directory",
    "  --templates-dir TEMPLATES_DIR",
    "                        Templates directory, relative to the base directory",
    "  --cache-size CACHE_SIZE",
    "                        Maximum number of cached templates",
    "  --static              Compile templates ahead of execution",
    "  --dynamic             Compile templates on every execution",
    "  --output OUTPUT, -o OUTPUT",
    "                        Write output to this file instead of stdout"]
  | some .error => [
    "",
    "options:",
    "  -h, --help            show this help message and exit",
    "  --message MESSAGE     Error message to display",
    "  --model MODEL         Template model as a JSON object",
    "  --model-file MODEL_FILE",
    "                        Path to a JSON file holding the template model",
    "  --output OUTPUT, -o OUTPUT",
    "                        Write output to this file instead of stdout"]

/-- The call of the program or of a command. -/
def usage (level : Option Command) : Text :=
  ofLines (usageLines level)

/-- What the program or a command is for and what its arguments mean. -/
def helpText (level : Option Command) : Text :=
  ofLines (usageLines level ++ detailLines level)

end CommandLine

end Stencil
