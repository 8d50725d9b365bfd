/-!
# Usage and help

The texts that the command line prints about itself.
-/

namespace SourceAudit.CommandLine

def program : String := "rulecheck"

/-- How the program is called. -/
def usage : String :=
  "usage: rulecheck [-h] [--validator VALIDATOR] [--config CONFIG]\n" ++
  "                 [--rules-path RULE_PATHS] [--disable DISABLED_RULES]\n" ++
  "                 [--no-builtin-rules] [--extension EXTENSIONS]\n" ++
  "                 [--format \x7btext,json\x7d] [--out OUTPUT_PATH] [--progress]\n" ++
  "                 [--verbose | --quiet]\n" ++
  "                 path\n"

/-- What the program does and what its options mean. -/
def help : String :=
  usage ++
  "\n" ++
  "Rule-based static analyzer for Python source\n" ++
  "\n" ++
  "positional arguments:\n" ++
  "  path                  File or directory to analyze.\n" ++
  "\n" ++
  "options:\n" ++
  "  -h, --help            show this help message and exit\n" ++
  "  --validator VALIDATOR\n" ++
  "                        Python interpreter used for the syntax check (defaults\n" ++
  "                        to the running interpreter).\n" ++
  "  --config CONFIG       YAML settings file.\n" ++
  "  --rules-path RULE_PATHS, -r RULE_PATHS\n" ++
  "                        Directory with additional rule modules (repeatable).\n" ++
  "  --disable DISABLED_RULES, -d DISABLED_RULES\n" ++
  "                        Fully qualified rule name to skip, e.g.\n" ++
  "                        rulecheck.rules.line_length (repeatable).\n" ++
  "  --no-builtin-rules    Do not load the built-in rules.\n" ++
  "  --extension EXTENSIONS\n" ++
  "                        File suffix to analyze when walking directories\n" ++
  "                        (repeatable, default .py).\n" ++
  "  --format \x7btext,json\x7d  Report format.\n" ++
  "  --out OUTPUT_PATH, --output OUTPUT_PATH\n" ++
  "                        Path to write the JSON report (e.g.,\n" ++
  "                        artifacts/rulecheck.json).\n" ++
  "  --progress            Print one character per analyzed file.\n" ++
  "  --verbose, -v         Enable debug logging.\n" ++
  "  --quiet, -q           Only log errors.\n"

end SourceAudit.CommandLine
