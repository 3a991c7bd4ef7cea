import Reckoner.Console

/-! # The program

The conversation of `Reckoner.Console` with standard input and output. -/

namespace Reckoner

/-- The bytes up to the next line feed or the end of the input, if there are any. -/
partial def readLine (input : IO.FS.Stream) (line : List UInt8) : IO (Option (List UInt8)) := do
  let chunk ← input.read 1
  match chunk.data[0]? with
  | none => return if line.isEmpty then none else some line.reverse
  | some byte =>
    if byte = Text.lineFeed then
      return some (byte :: line).reverse
    else
      readLine input (byte :: line)

partial def talk (calculator : Calculator) (input output : IO.FS.Stream) : IO Console.Ending := do
  output.putStr Console.prompt
  output.flush
  let turn := Console.turn calculator (← readLine input [])
  output.putStr turn.output
  match turn.ending with
  | some ending => return ending
  | none => talk calculator input output

end Reckoner

def main : IO UInt32 := do
  let input ← IO.getStdin
  let output ← IO.getStdout
  output.putStr Reckoner.Console.banner
  let ending ← Reckoner.talk .standard input output
  output.flush
  match ending with
  | .invalidText => do
    (← IO.getStderr).putStrLn "Error: stream did not contain valid UTF-8"
    return 1
  | _ => return 0
