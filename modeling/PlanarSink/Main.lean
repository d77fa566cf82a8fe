import PlanarSink.CommandLine.Program

/-! The outer layer of the program: files, variables and outputs. -/
namespace PlanarSink.CommandLine

def process : World IO where
  read path := do
    try return .ok (← IO.FS.readFile path)
    catch cause => return .error (toString cause)
  valueOf name := IO.getEnv name

end PlanarSink.CommandLine

def main (arguments : List String) : IO UInt32 := do
  let finish ← PlanarSink.CommandLine.run PlanarSink.CommandLine.process arguments
  (← IO.getStdout).putStr finish.output
  (← IO.getStderr).putStr finish.complaint
  return finish.code
