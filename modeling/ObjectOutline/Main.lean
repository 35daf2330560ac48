import ObjectOutline.CommandLine.Run

/-! The program: reads the files that a run may need, carries out the run, and prints. -/
namespace ObjectOutline.CommandLine

/-- The reason why a file could not be read, by the number that the operating system gives it. -/
def failureOf : IO.Error → FileError
  | .inappropriateType _ 20 _ => .notDirectory
  | .inappropriateType _ _ _ => .isDirectory
  | _ => .notFound

/-- Reads one file. -/
def readFile (path : String) : IO (Except FileError (List UInt8)) := do
  try
    let bytes ← IO.FS.readBinFile path
    return .ok bytes.toList
  catch error => return .error (failureOf error)

/-- Reads files into a reader that knows no others. -/
def readFiles (paths : List String) : IO FileReader := do
  let read ← paths.mapM fun path => do return (path, ← readFile path)
  return fun path => (read.lookup path).getD (.error .notFound)

end ObjectOutline.CommandLine

open ObjectOutline.CommandLine in
/-- Runs the program. -/
def main (arguments : List String) : IO UInt32 := do
  let files ← readFiles (paths arguments)
  let outcome := run files arguments
  IO.eprint outcome.stderr
  IO.print outcome.stdout
  return UInt32.ofNat outcome.code
