import Courier.FileSystem.Image
import Courier.Json.Document
import Courier.Program

/-!
The command line. The directory that the program works in is read as an image, one
line of JSON on the standard input; what is printed and complained of goes to the
standard output and the standard error.
-/

def main (arguments : List String) : IO UInt32 := do
  let input ← IO.getStdin
  let image ← input.getLine
  let clock ← IO.monoNanosNow
  let directory ← IO.getEnv "PWD"
  let environment : Courier.Environment :=
    { stamp := toString clock
      directory := directory.getD "."
      host := { memory := 4294967296, threads := 4096 }
      elapsed := "0"
      seed := Courier.Octets.little 8 clock }
  let disk := ((Courier.Json.parse? image).map Courier.Disk.ofImage).getD {}
  let report := Courier.Program.run environment disk arguments
  IO.print report.output
  IO.eprint report.journal.console
  IO.eprint report.complaints
  return UInt32.ofNat report.status
