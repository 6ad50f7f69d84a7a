import Drtm.Backend
import Drtm.Foundation.Format

/-!
# Messages

The message functions of the sample backend, with those of the sample
application behind them.  A message that passes a buffer is cut off where the
buffer ends.
-/

namespace Drtm

open Foundation

def Arg.value : Arg → Format.Value
  | .number n => .number n
  | .text s => .text (ascii s.toList)

namespace SampleBackend

def tmpBufSizeBytes : SizeT := 256

def expand (fmt : String) (args : List Arg) : Option (List UInt8) := do
  let pieces ← Format.parse fmt.toList
  Format.render pieces (args.map Arg.value)

/-- What is in the buffer, of which `raw` was the contents, after `vsnprintf`. -/
def vsnprintf (raw : Cells) (fmt : String) (args : List Arg) :
    Option (List UInt8) := do
  let text ← expand fmt args
  let (_, buf) := snprintf raw 0 tmpBufSizeBytes text
  return buf.cstring tmpBufSizeBytes.toNat

def output (fmt : String) (args : List Arg) : Option (List UInt8) :=
  expand fmt args

def voutputWarning (raw : Cells) (fmt : String) (args : List Arg) :
    Option (List UInt8) := do
  let msg ← vsnprintf raw fmt args
  return ascii "WARNING: ".toList ++ msg

def voutputError (raw : Cells) (fmt : String) (args : List Arg) :
    Option (List UInt8) := do
  let msg ← vsnprintf raw fmt args
  return ascii "ERROR: ".toList ++ msg

end SampleBackend

end Drtm
