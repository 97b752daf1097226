import SolAudit.Path

/-!
# Environments

What the program takes from its surroundings besides its arguments and the disk.
-/

namespace SolAudit.Cli

structure Environment where
  vars : List (String × String) := []
  /-- Output goes to a terminal. -/
  terminal : Bool := false
  deriving DecidableEq, Repr

namespace Environment

def get? (env : Environment) (name : String) : Option String := env.vars.lookup name

def has (env : Environment) (name : String) : Bool := (env.get? name).isSome

/-- The settings file is in the home directory. -/
def settingsPath (env : Environment) : Path :=
  let home : Path := ⟨(env.get? "HOME").getD "."⟩
  home.join ⟨".config/solinsight/config.toml"⟩

/-- Colour is forced, or shown on a terminal unless it is turned off. -/
def wantsColour (env : Environment) : Bool :=
  if (env.get? "CLICOLOR_FORCE").any (· != "0") then true
  else !env.has "NO_COLOR" && env.terminal && env.get? "CLICOLOR" != some "0"

/-- The surroundings can show colour. -/
def allowsColour (env : Environment) : Bool :=
  !env.has "NO_COLOR" && !(env.get? "TERM").any ["dumb", "unknown"].contains &&
    !env.has "CI" && !env.has "CONTINUOUS_INTEGRATION"

/-- A text in a colour, or plain. -/
def paint (env : Environment) (colour text : String) : String :=
  if env.wantsColour && env.allowsColour then "\x1b[" ++ colour ++ "m" ++ text ++ "\x1b[0m" else text

end Environment

end SolAudit.Cli
