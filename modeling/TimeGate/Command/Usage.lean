/-! The fixed texts of the command: its usage and its help. -/

set_option autoImplicit false

namespace TimeGate.Command

def programName : String := "cronrange"

def usageText : String :=
  "usage: cronrange [-h] -e EXPRESSION [-t TIMEZONE] [--at AT] [--strict]\n" ++
  "                 [--config CONFIG] [--env ENV] [-v] [--log-level LOG_LEVEL]\n"

def optionsText : String :=
  "options:\n" ++
  "  -h, --help            show this help message and exit\n" ++
  "  -e EXPRESSION, --expression EXPRESSION\n" ++
  "                        Cron-like expression\n" ++
  "  -t TIMEZONE, --timezone TIMEZONE\n" ++
  "                        IANA timezone name (default: config value, else UTC)\n" ++
  "  --at AT               ISO 8601 instant to check instead of now (naive means\n" ++
  "                        UTC)\n" ++
  "  --strict              Reject values outside each field's legal bounds\n" ++
  "  --config CONFIG, -c CONFIG\n" ++
  "                        Path to config.yaml (default:\n" ++
  "                        ~/.cronrange/config.yaml)\n" ++
  "  --env ENV             Path to .env file (default: ~/.cronrange/.env)\n" ++
  "  -v, --verbose         Print the verdict of every field\n" ++
  "  --log-level LOG_LEVEL\n" ++
  "                        Logging level (default: config value, else WARNING)\n"

def epilogueText : String :=
  "* represents any value\n" ++
  ", separator (e.g. 5,6)\n" ++
  "- used to define (inclusive) ranges (e.g. 5-9); 9-6 wraps around\n" ++
  "/ not supported\n" ++
  "\n" ++
  "┌───────────── minute (0 - 59)\n" ++
  "│ ┌───────────── hour (0 - 23)\n" ++
  "│ │ ┌───────────── day of the month (1 - 31)\n" ++
  "│ │ │ ┌───────────── month (1 - 12)\n" ++
  "│ │ │ │ ┌───────────── day of the week (0 - 6) (Sunday to Saturday)\n" ++
  "│ │ │ │ │\n" ++
  "* * * * *\n" ++
  "\n" ++
  "example:\n" ++
  "  cronrange -e \"* 9-17 * * *\"    check if now is between 9 AM and 5:59 PM (UTC)\n"

def helpText : String :=
  usageText ++ "\n" ++ "Check whether a moment falls within a cron-like allowed range\n" ++ "\n" ++
    optionsText ++ "\n" ++ epilogueText

def usageReport (message : String) : String :=
  usageText ++ programName ++ ": error: " ++ message ++ "\n"

end TimeGate.Command
