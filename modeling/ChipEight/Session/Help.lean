/-!
# Help

What the command says about itself when it is asked for help.
-/

namespace ChipEight.Help

/-- How the command is used, line by line. -/
def usage : List String :=
  ["usage: retro-chip8 [-h] [--config CONFIG] [--cycles CYCLES]",
    "                   [--load-state FILE] [--save-state FILE] [--dump-screen]",
    "                   [--disassemble] [--verbose]",
    "                   rom"]

/-- The switches and what they do. -/
def switches : List (String × String) :=
  [("-h, --help", "show this help message and exit"),
    ("--config CONFIG", "YAML system configuration file"),
    ("--cycles CYCLES", "number of instructions to execute (default: 700)"),
    ("--load-state FILE", "restore a saved state before running"),
    ("--save-state FILE", "write a save state after running"),
    ("--dump-screen", "print the framebuffer as text"),
    ("--disassemble", "print the disassembly of the program"),
    ("--verbose", "enable debug logging")]

/-- A word of the command line and its meaning in two columns. -/
def line (entry : String × String) : String :=
  "  " ++ entry.1 ++ String.ofList (List.replicate (19 - entry.1.length) ' ') ++ entry.2

/-- The whole help, line by line. -/
def lines : List String :=
  usage ++ ["", "Headless CHIP-8 interpreter", "", "positional arguments:",
      line ("rom", "CHIP-8 program (.ch8) to load at 0x200"), "", "options:"] ++
    switches.map line

end ChipEight.Help
