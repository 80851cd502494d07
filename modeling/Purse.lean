import Purse.Authoring.Trace
import Purse.Main
import Purse.Store.Failing
import Purse.Proofs.Amount
import Purse.Proofs.Fee
import Purse.Proofs.Funding
import Purse.Proofs.LargestFunding
import Purse.Proofs.Eligibility
import Purse.Proofs.Request
import Purse.Proofs.Authoring
import Purse.Proofs.Conservation
import Purse.Proofs.FeeAdequacy
import Purse.Proofs.AddressBook
import Purse.Proofs.Preservation
import Purse.Proofs.Trace
import Purse.Proofs.Allocation
import Purse.Proofs.BookRuns
import Purse.Proofs.Issuing
import Purse.Proofs.WalletRuns
import Purse.Proofs.Preview
import Purse.Proofs.OneStep
import Purse.Proofs.Signing
import Purse.Proofs.Spendable
import Purse.Proofs.SelfCheck
import Purse.Proofs.Framing
import Purse.Proofs.Sighash
import Purse.Proofs.Ledger
import Purse.Proofs.Unspent
import Purse.Proofs.Ownership
import Purse.Proofs.SpendCycle
import Purse.Proofs.Encoding
import Purse.Proofs.Persistence
import Purse.Proofs.StoreRuns
import Purse.Proofs.Restart
import Purse.Proofs.LeastSelection
import Purse.Proofs.Recheck
import Purse.Proofs.Balance
import Purse.Proofs.Lookups
import Purse.Proofs.LedgerOrder
import Purse.Proofs.Passes
import Purse.Proofs.SpendPhases
import Purse.Proofs.SigningOrder
import Purse.Proofs.Shortfall
import Purse.Proofs.AuthoringFaults
import Purse.Proofs.TextForms
import Purse.Proofs.Progress
import Purse.Proofs.ExactAuthoring
import Purse.Proofs.Dust
