import Purse.Authoring.Change

/-!
# Traces of calls

Collaborators that note every call, so that it can be said what authoring asks of them and when.
-/

namespace Purse

inductive Call where
  | tipHeight
  | listUnspent (account : AccountId) (minConf : UInt32)
  | changeKind (account : AccountId)
  | currentChange (account : AccountId)
  | nextChange (account : AccountId)
  deriving DecidableEq

/-- The call as a log shows it. -/
def Call.toText : Call → String
  | .tipHeight => "tip_height"
  | .listUnspent account minConf =>
      "list_unspent(" ++ account.toText ++ "," ++ Decimal.print minConf.toNat ++ ")"
  | .changeKind account => "change_script_kind(" ++ account.toText ++ ")"
  | .currentChange account => "current_change_address(" ++ account.toText ++ ")"
  | .nextChange account => "next_change_address(" ++ account.toText ++ ")"

/-- A state with the calls so far, the latest one last. -/
structure Traced (σ : Type) where
  state : σ
  calls : List Call

namespace Traced

variable {σ ε α : Type}

/-- Notes the call, then carries it out. -/
def note (call : Call) (action : Action σ ε α) : Action (Traced σ) ε α :=
  fun traced =>
    match action traced.state with
    | (result, state) => (result, ⟨state, traced.calls ++ [call]⟩)

def ledger (reader : LedgerReader σ) : LedgerReader (Traced σ) where
  tipHeight := note .tipHeight reader.tipHeight
  listUnspent account minConf :=
    note (.listUnspent account minConf) (reader.listUnspent account minConf)

def addresses (source : ChangeSource σ) : ChangeSource (Traced σ) where
  changeKind account := note (.changeKind account) (source.changeKind account)
  currentChange account := note (.currentChange account) (source.currentChange account)
  nextChange account := note (.nextChange account) (source.nextChange account)

end Traced

end Purse
