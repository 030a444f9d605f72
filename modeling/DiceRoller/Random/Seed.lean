import DiceRoller.Random.Digest
import DiceRoller.Random.Twister

/-!
Seeds of the generator. A number is taken without its sign and cut into 32-bit
words, the least significant one first. A text is the number whose big-endian
bytes are its UTF-8 form followed by the digest of that form.
-/

namespace DiceRoller

inductive Seed where
  | number (value : Int)
  | text (value : String)
  deriving DecidableEq, Repr

namespace Seed

/-- The 32-bit words of a number; zero is one zero word. -/
def words (number : Nat) : List UInt32 :=
  if number < 0x100000000 then [UInt32.ofNat number]
  else UInt32.ofNat number :: words (number / 0x100000000)
termination_by number

def bigEndian (bytes : List UInt8) : Nat :=
  bytes.foldl (fun number byte => 256 * number + byte.toNat) 0

def magnitude : Seed → Nat
  | number value => value.natAbs
  | text value =>
      let bytes := value.toUTF8.toList
      bigEndian (bytes ++ Digest.sha512 bytes)

def generator (seed : Seed) : Twister.Generator :=
  .ofKey (words seed.magnitude).toArray

end Seed

end DiceRoller
