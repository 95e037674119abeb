import EntitySchema.Settings.Basic
import EntitySchema.Text.Quoted

/-! The options of the command line and its usage texts. -/
namespace EntitySchema.CommandLine

inductive Switch where
  | help
  | version
  | config
  | output
  | check
  | report
  | format
  | pluralOverride
  | payloadMode
  | force
  | verbose
  | quiet
  deriving DecidableEq, Repr

namespace Switch

def all : List Switch :=
  [.help, .version, .config, .output, .check, .report, .format, .pluralOverride, .payloadMode,
    .force, .verbose, .quiet]

def spellings : Switch → List String
  | .help => ["-h", "--help"]
  | .version => ["--version"]
  | .config => ["-c", "--config"]
  | .output => ["-o", "--output"]
  | .check => ["--check"]
  | .report => ["--report"]
  | .format => ["--format"]
  | .pluralOverride => ["--plural-override"]
  | .payloadMode => ["--payload-mode"]
  | .force => ["--force"]
  | .verbose => ["-v", "--verbose"]
  | .quiet => ["-q", "--quiet"]

def table : List (String × Switch) := all.flatMap fun s => s.spellings.map fun n => (n, s)

def ofSpelling? (spelling : String) : Option Switch := table.lookup spelling

def takesValue : Switch → Bool
  | .config | .output | .format | .pluralOverride | .payloadMode => true
  | .help | .version | .check | .report | .force | .verbose | .quiet => false

def choices : Switch → Option (List String)
  | .format => some (Format.all.map Format.name)
  | .payloadMode => some (PayloadMode.all.map PayloadMode.name)
  | _ => none

def title (s : Switch) : String := "/".intercalate s.spellings

end Switch

def programName : String := "jdlschema"

def versionText : String := "jdlschema v1.0.0\n"

def lines (ls : List String) : String := String.join (ls.map (· ++ "\n"))

def usage : String := lines [
  "usage: jdlschema [-h] [--version] [-c PATH] [-o FILE] [--check] [--report]",
  "                 [--format \x7bjson,yaml\x7d] [--plural-override WORD=PLURAL]",
  "                 [--payload-mode \x7bidOnly,fullObject\x7d] [--force] [-v] [-q]",
  "                 [JDL_FILE]"]

def help : String := usage ++ lines [
  "",
  "jdlschema — JDL to schema compiler.",
  "",
  "Parses a JHipster-style JDL file into a normalized entity/enum schema and writes it as JSON " ++
    "or YAML for downstream generators.",
  "",
  "positional arguments:",
  "  JDL_FILE              Path to the JDL file (falls back to 'jdlFile' in the",
  "                        config).",
  "",
  "options:",
  "  -h, --help            show this help message and exit",
  "  --version             show program's version number and exit",
  "  -c PATH, --config PATH",
  "                        Config file (YAML or JSON). Defaults to",
  "                        jdlschema.config.yaml in the current directory when",
  "                        present.",
  "  -o FILE, --output FILE",
  "                        Write the compiled document here instead of stdout.",
  "",
  "operation modes:",
  "  --check               Only parse and validate; print the validation report.",
  "  --report              Print the compilation summary to stderr.",
  "",
  "configuration overrides:",
  "  --format \x7bjson,yaml\x7d  Output document format (default: json).",
  "  --plural-override WORD=PLURAL",
  "                        Plural override; may be repeated.",
  "  --payload-mode \x7bidOnly,fullObject\x7d",
  "                        Relationship payload mode passed to renderers.",
  "  --force               Rewrite the output file even when unchanged.",
  "",
  "verbosity:",
  "  -v, --verbose         Increase verbosity (-v for INFO, -vv for DEBUG).",
  "  -q, --quiet           Suppress all output except errors.",
  "",
  "Examples:",
  "  jdlschema app.jdl",
  "  jdlschema app.jdl -o schema.yaml --format yaml",
  "  jdlschema app.jdl --check",
  "  jdlschema -c jdlschema.config.yaml --plural-override Person=people"]

inductive Misuse where
  | ambiguous (word : String) (candidates : List String)
  | missingValue (s : Switch)
  | unwantedValue (s : Switch) (value : String)
  | invalidChoice (s : Switch) (value : String) (choices : List String)
  | unrecognised (words : List String)
  deriving DecidableEq, Repr

def Misuse.message : Misuse → String
  | .ambiguous word candidates =>
    "ambiguous option: " ++ word ++ " could match " ++ ", ".intercalate candidates
  | .missingValue s => "argument " ++ s.title ++ ": expected one argument"
  | .unwantedValue s value =>
    "argument " ++ s.title ++ ": ignored explicit argument " ++ Text.quoted value
  | .invalidChoice s value choices =>
    "argument " ++ s.title ++ ": invalid choice: " ++ Text.quoted value ++ " (choose from " ++
      ", ".intercalate (choices.map Text.quoted) ++ ")"
  | .unrecognised words => "unrecognized arguments: " ++ " ".intercalate words

end EntitySchema.CommandLine
