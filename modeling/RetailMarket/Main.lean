import RetailMarket.CommandLine

/-!
# The program
-/

namespace RetailMarket

/-- The reason of a failed access to a file, in the words of the operating system. -/
def accessFailure : IO.Error → String
  | .noFileOrDirectory _ _ _ => AccessFault.notFound.text
  | .permissionDenied _ code _ => s!"Permission denied (os error {code})"
  | .inappropriateType _ code _ =>
    if code = 20 then AccessFault.notDirectory.text else AccessFault.isDirectory.text
  | .invalidArgument _ code details =>
    if code = 36 then AccessFault.nameTooLong.text else s!"{details} (os error {code})"
  | error => toString error

instance : FileAccess IO where
  read path := do
    try return .ok (← IO.FS.readFile path)
    catch error => return .error (accessFailure error)
  write path contents := do
    try
      IO.FS.writeFile path contents
      return .ok ()
    catch error => return .error (accessFailure error)

end RetailMarket

def main (arguments : List String) : IO UInt32 := do
  let outcome ← RetailMarket.CommandLine.run arguments
  (← IO.getStdout).putStr outcome.output
  (← IO.getStderr).putStr outcome.errors
  return UInt32.ofNat outcome.exitCode
