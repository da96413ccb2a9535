import Propositional.CommandLine.Program

open Propositional.CommandLine in
def main (arguments : List String) : IO UInt32 := do
  let setting ← IO.getEnv "RUST_LOG"
  let level := (setting.bind LogLevel.ofName?).getD .warning
  let input ←
    if needsInput arguments then (·.toList) <$> (← IO.getStdin).readBinToEnd
    else pure []
  let response := respond level arguments input
  (← IO.getStdout).putStr response.output
  let errors ← IO.getStderr
  for line in response.log do
    errors.putStrLn line
  if let .misuse misuse := response then
    errors.putStrLn ("error: " ++ misuse.message)
  return response.exitCode.toUInt32
