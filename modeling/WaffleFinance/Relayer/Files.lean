import WaffleFinance.Lib.Directory
import WaffleFinance.Relayer.Orders

/-!
# The names of the files

The stores of the relayer have a file for each key.  Its name is the key, with an underscore for
each character that is not a letter, a digit, an underscore or a hyphen; three of the stores cut it
off.
-/

namespace WaffleFinance.Relayer

/-- The characters that are kept. -/
def isSafe (c : Char) : Bool := c.isAlphanum || c = '_' || c = '-'

/-- JavaScript replaces each of the two units of a character outside of the basic plane. -/
def sanitise (key : Text) : Text :=
  key.flatMap fun c => if isSafe c then [c] else if c.toNat < 65536 then ['_'] else ['_', '_']

def withExtension (safe : Text) : Text := safe ++ ".json".toList

lemma withExtension_injective : Function.Injective withExtension :=
  List.append_left_injective _

/-- The file of an order in the ledger of refunds. -/
def refundFile (orderId : Text) : Text := withExtension (sanitise orderId)

/-- The file of a payment in the ledger of proofs. -/
def proofFile (stellarTxHash : Text) : Text := withExtension ((sanitise stellarTxHash).take 80)

/-- The file of an order in the store of transactions. -/
def txFile (orderId : Text) : Text := withExtension ((sanitise orderId).take 120)

/-- The file of an action in the store of the idempotency manager. -/
def actionFile (key : Text) : Text := withExtension ((sanitise key).take 100)

end WaffleFinance.Relayer
