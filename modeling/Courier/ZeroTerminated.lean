/-!
# Zero-terminated texts

Paths and messages are handed on as texts that end at the first character with
the code zero; what follows that is lost.
-/

namespace Courier

def zeroTerminated (text : String) : String := String.ofList (text.toList.takeWhile (· != '\x00'))

end Courier
