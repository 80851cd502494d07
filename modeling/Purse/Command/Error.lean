import Purse.Authoring.Request
import Purse.Wallet.Error

/-!
# Faults of commands

A fault is reported as a chain of messages, the outermost first.
-/

namespace Purse

inductive CommandError where
  | configuration (fault : WalletError)
  | badKind (fault : Script.Fault)
  | seedNotHex (fault : Hex.Fault)
  | seedLength (length : Nat)
  | createDirectory (path : Path) (fault : DiskFault)
  | createWallet (fault : WalletError)
  | openWallet (dir : Path) (fault : WalletError)
  | readLedger (path : Path) (fault : DiskFault)
  | malformedLedger (path : Path)
  | writeLedger (temporary : Path) (fault : DiskFault)
  | replaceLedger (path : Path) (fault : DiskFault)
  | zeroCredit
  | badPayment (fault : Payment.Fault)
  | wallet (fault : WalletError)
  deriving DecidableEq

namespace CommandError

def chain : CommandError → List String
  | .configuration fault => ["Failed to load configuration", fault.message]
  | .badKind fault => [fault.message]
  | .seedNotHex fault => ["Seed must be hex", fault.message]
  | .seedLength length => ["Seed must be 32 bytes, got " ++ Decimal.print length]
  | .createDirectory path fault =>
      ["Failed to create directory: " ++ path.text, fault.message]
  | .createWallet fault => ["Failed to create wallet", fault.message]
  | .openWallet dir fault => ["Failed to open wallet in " ++ dir.text, fault.message]
  | .readLedger path fault => ["Failed to read " ++ path.text, fault.message]
  | .malformedLedger path => ["Invalid ledger file: " ++ path.text, Json.faultText]
  | .writeLedger temporary fault => ["Failed to write " ++ temporary.text, fault.message]
  | .replaceLedger path fault => ["Failed to replace " ++ path.text, fault.message]
  | .zeroCredit => ["Credit amount must be positive"]
  | .badPayment (.noSeparator text) => ["Expected kind:hexhash:amount, got " ++ text]
  | .badPayment (.badScript fault) => [fault.message]
  | .badPayment (.badAmount text fault) => ["Invalid amount: " ++ text, fault.message]
  | .wallet fault => [fault.message]

/-- What is printed for a fault: the outermost message, and below it what caused it. -/
def report (fault : CommandError) : String :=
  match fault.chain with
  | [] => "Error"
  | [message] => "Error: " ++ message
  | message :: causes =>
      "Error: " ++ message ++ "\n\nCaused by:" ++
        String.join (causes.map fun cause => "\n    " ++ cause)

end CommandError

end Purse
