import Purse.Authoring.Selection

/-!
# Defaults of authoring
-/

namespace Purse

structure AuthoringConfig where
  feeRate : FeeRate
  minConf : UInt32
  strategy : SelectionStrategy
  /-- The rate that decides which change is dust. -/
  relayFee : FeeRate
  /-- How many times the fee may be estimated anew. -/
  maxFeeIterations : UInt64
  deriving DecidableEq

namespace AuthoringConfig

def standard : AuthoringConfig where
  feeRate := ⟨1000⟩
  minConf := 1
  strategy := .largest
  relayFee := ⟨1000⟩
  maxFeeIterations := 8

instance : Json.Form AuthoringConfig where
  toJson config :=
    .ofFields [("fee_rate", Json.toJson config.feeRate), ("min_conf", Json.toJson config.minConf),
      ("strategy", Json.toJson config.strategy), ("relay_fee", Json.toJson config.relayFee),
      ("max_fee_iterations", Json.toJson config.maxFeeIterations)]
  ofJson? json := do
    let [feeRate, minConf, strategy, relayFee, maxFeeIterations] ←
      json.leadingFields?
        ["fee_rate", "min_conf", "strategy", "relay_fee", "max_fee_iterations"] | none
    some {
      feeRate := ← Json.withDefault? standard.feeRate feeRate
      minConf := ← Json.withDefault? standard.minConf minConf
      strategy := ← Json.withDefault? standard.strategy strategy
      relayFee := ← Json.withDefault? standard.relayFee relayFee
      maxFeeIterations := ← Json.withDefault? standard.maxFeeIterations maxFeeIterations }

end AuthoringConfig

end Purse
