/-!
# Usage

The texts about the command line.

* `Usage.usage` — the summary of it.
* `Usage.help` — the full explanation.
* `Usage.complaint` — what is written about a command line that is refused.
-/

namespace ChipEight.Usage

/-- The summary of the command line. -/
def usage : List String :=
  ["usage: chip8vm [-h] [--cycles CYCLES] [--cosmac-keys] [--debug] [--logs]",
   "               [--no-vf-reset] [--shift-vx] [--wrap-sprites] [--keep-i]",
   "               rom"]

/-- The full explanation of the command line. -/
def help : List String :=
  usage ++
  ["",
   "CHIP-8 virtual machine",
   "",
   "positional arguments:",
   "  rom              raw CHIP-8 program image",
   "",
   "options:",
   "  -h, --help       show this help message and exit",
   "  --cycles CYCLES  instructions run per 60 Hz frame (default: 1)",
   "  --cosmac-keys    use the COSMAC VIP 1234/QWER/ASDF/ZXCV block instead of one",
   "                   key per hex digit",
   "  --debug          start paused and stay open after a fault for single-",
   "                   stepping",
   "  --logs           trace executed opcodes (F1 toggles)",
   "",
   "quirks:",
   "  --no-vf-reset    8XY1/2/3 leave VF alone",
   "  --shift-vx       8XY6/8XYE shift Vx in place",
   "  --wrap-sprites   sprites wrap instead of clipping",
   "  --keep-i         FX55/FX65 leave I unchanged"]

/-- The lines that are written about a command line that is refused. -/
def complaint (message : String) : List String :=
  usage ++ ("chip8vm: error: " ++ message).splitOn "\n"

end ChipEight.Usage
