import Purse.Account.Record
import Purse.Ledger.Basic
import Purse.Transaction.Validity

/-!
# Wallet errors

Authoring fails with one of the first four. The others come from signing, checking and files.
-/

namespace Purse

/-- What is wrong with a request. -/
inductive RequestFault where
  | noOutputs
  | zeroAmount (index : Nat)
  | amountOverflow
  | outputOverflow
  | unknownStrategy (name : String)
  deriving DecidableEq

def RequestFault.message : RequestFault → String
  | .noOutputs => "no outputs"
  | .zeroAmount index => "output " ++ Decimal.print index ++ " has zero amount"
  | .amountOverflow => "total amount overflow"
  | .outputOverflow => "total output overflow"
  | .unknownStrategy name => "unknown selection strategy: " ++ name

inductive WalletError where
  | invalidRequest (cause : Cause RequestFault)
  | insufficientFunds (available needed : Amount)
  | storeUnavailable (cause : Cause LedgerError)
  | addressDerivationFailed (cause : Cause DerivationError)
  | keyNotFound (script : Cause Script)
  | signing (fault : SigningError)
  | transaction (fault : ValidityError)
  | corruptedFile (cause : Cause Corruption)
  | io (cause : Cause FileFault)
  deriving DecidableEq

namespace WalletError

def message : WalletError → String
  | .invalidRequest cause => "invalid request: " ++ cause.describe RequestFault.message
  | .insufficientFunds available needed =>
      "insufficient funds: have " ++ Decimal.print available.toNat ++ ", need " ++
        Decimal.print needed.toNat
  | .storeUnavailable cause => "store unavailable: " ++ cause.describe LedgerError.message
  | .addressDerivationFailed cause =>
      "address derivation failed: " ++ cause.describe DerivationError.message
  | .keyNotFound script => "key not found: " ++ script.describe fun script =>
      "script " ++ script.toText
  | .signing fault => fault.message
  | .transaction fault => fault.message
  | .corruptedFile cause => "corrupted file: " ++ cause.describe Corruption.message
  | .io cause => "I/O error: " ++ cause.describe FileFault.message

def request (fault : RequestFault) : WalletError :=
  .invalidRequest (.found fault)

def ofLedger (fault : LedgerError) : WalletError :=
  .storeUnavailable (.found fault)

def ofDerivation (fault : DerivationError) : WalletError :=
  .addressDerivationFailed (.found fault)

def ofStore : StoreError → WalletError
  | .io cause => .io cause
  | .serialization detail => .corruptedFile (.stated detail)
  | .corrupt cause => .corruptedFile cause

end WalletError

end Purse
