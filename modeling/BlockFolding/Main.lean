import BlockFolding.Program

/-
  The command line program

  Reads the arguments and the variables it knows, prints what `Program.run` says and ends with
  its code. Everything is decided there.
-/

open BlockFolding

/-- The environment that holds the values of the variables the program knows. -/
def readEnvironment : IO Environment := do
  let names := [verboseVariable, jsonVariable, Program.logVariable]
  let values ← names.mapM fun name => return (name, ← IO.getEnv name)
  return fun name => (values.lookup name).join

def main (arguments : List String) : IO UInt32 := do
  let exit := Program.run arguments (← readEnvironment)
  IO.print exit.output
  IO.eprint exit.errors
  if exit.code = 2 then IO.eprintln ""
  return exit.code.toUInt32
