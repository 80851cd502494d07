import Purse.Authoring.Draws
import Purse.Wallet.Error

/-!
# Coin selection

Credits that cost more to spend than they are worth are set aside. The others are put into the
order of the strategy and taken until they reach the target.
-/

namespace Purse

inductive SelectionStrategy where
  | largest
  | random
  deriving DecidableEq, Inhabited

namespace SelectionStrategy

def name : SelectionStrategy → String
  | .largest => "largest"
  | .random => "random"

def ofName? (name : String) : Option SelectionStrategy :=
  [SelectionStrategy.largest, .random].find? fun strategy => strategy.name = name

/-- Reads a name in letters of either case. -/
def parse (text : String) : Except WalletError SelectionStrategy :=
  let lowered := text.map Char.toLower
  match ofName? lowered with
  | none => .error (.request (.unknownStrategy lowered))
  | some strategy => .ok strategy

instance : Json.Form SelectionStrategy where
  toJson strategy := .ofText strategy.name
  ofJson? json := json.alternative?.bind ofName?

end SelectionStrategy

structure Selection where
  selected : List Credit
  total : Amount
  deriving DecidableEq

namespace Selection

/-- The order in which credits are taken. -/
def arrange (strategy : SelectionStrategy) (draws : Draws) (credits : List Credit) : List Credit :=
  match strategy with
  | .largest => credits.mergeSort fun a b => decide (b.amount ≤ a.amount)
  | .random => shuffle draws credits

/-- Takes credits until `total` has reached the target. -/
def accumulate (target total : Amount) : List Credit → Selection
  | [] => ⟨[], total⟩
  | credit :: rest =>
      if target ≤ total then ⟨[], total⟩
      else
        let taken := accumulate target (Amount.addSaturating total credit.amount) rest
        { taken with selected := credit :: taken.selected }

/-- Picks credits whose sum reaches the target, or fails if all of them together fall short. -/
def select (strategy : SelectionStrategy) (draws : Draws) (eligible : List Credit)
    (target : Amount) (rate : FeeRate) : Except WalletError Selection :=
  let candidates := eligible.filter fun credit => credit.yieldsPositively rate
  let taken := accumulate target 0 (arrange strategy draws candidates)
  if taken.total < target then .error (.insufficientFunds taken.total target) else .ok taken

end Selection

end Purse
