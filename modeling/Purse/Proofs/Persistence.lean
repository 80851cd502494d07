import Mathlib
import Purse.Command.Run
import Purse.Proofs.JsonForm

/-!
# Files that read back

A file that holds the form of a value, laid out in either way, is read as that value.  The readers
of wallets, ledgers and configurations differ in what they check around the form, so each of them
has a theorem of its own.
-/

namespace Purse

open Json

namespace Json

/-- How a form is laid out as text. -/
inductive Layout where
  | compact
  | pretty

/-- The contents of a file that holds a form. -/
def Layout.print : Layout → Json → ByteArray
  | .compact, json => json.compact.toUTF8
  | .pretty, json => json.pretty.toUTF8

theorem Layout.parseContents?_print (layout : Layout) {json : Json} (hplain : json.Plain) :
    parseContents? (layout.print json) = some json := by
  cases layout with
  | compact => exact (parseContents?_toUTF8 _).trans (parse?_compact hplain)
  | pretty => exact (parseContents?_toUTF8 _).trans (parse?_pretty hplain)

/-- The value that a file holds the form of. -/
def decode? {α : Type} [Form α] (contents : ByteArray) : Option α :=
  (parseContents? contents).bind ofJson?

@[simp]
theorem decode?_print {α : Type} [Form α] [Lossless α] (layout : Layout) (value : α) :
    decode? (layout.print (toJson value)) = some value := by
  rw [decode?, layout.parseContents?_print (plain_toJson value)]
  exact ofJson?_toJson value

end Json

/-! ## Readers -/

namespace WalletFile

/-- What the store writes for the data. -/
def around (data : KeyChainData) : WalletFile :=
  ⟨currentMagic, currentVersion, data⟩

theorem parse_layout (layout : Layout) (data : KeyChainData) :
    parse (layout.print (toJson (around data))) = .ok data := by
  have hdecode : decode? (layout.print (toJson (around data))) = some (around data) :=
    decode?_print layout _
  rw [decode?] at hdecode
  rw [parse, hdecode]
  rfl

@[simp]
theorem parse_print (data : KeyChainData) : parse (print data).toUTF8 = .ok data :=
  parse_layout .pretty data

end WalletFile

namespace Disk

variable {disk : Disk} {path : Path}

theorem contains_of_find {node : Node} (hfind : disk.find path = .ok node) :
    disk.contains path = true := by
  rw [contains, hfind]

theorem read_of_find {contents : ByteArray} (hfind : disk.find path = .ok (.file contents)) :
    disk.read path = .ok contents := by
  rw [read, hfind]

end Disk

section File

variable {disk : Disk} {path : Path} {layout : Layout}

theorem FileStore.readFile_layout {data : KeyChainData}
    (hfind : disk.find path =
      .ok (.file (layout.print (toJson (WalletFile.around data))))) :
    readFile disk path = .ok data := by
  rw [readFile, Disk.read_of_find hfind]
  exact WalletFile.parse_layout layout data

theorem Command.loadLedger_layout {ledger : Ledger}
    (hfind : disk.find path = .ok (.file (layout.print (toJson ledger)))) :
    loadLedger disk path = .ok ledger := by
  have hdecode : decode? (layout.print (toJson ledger)) = some ledger := decode?_print layout _
  rw [decode?] at hdecode
  rw [loadLedger, if_pos (Disk.contains_of_find hfind), Disk.read_of_find hfind]
  simp only [hdecode]

end File

theorem WalletConfig.parse?_layout (layout : Layout) (fallback config : WalletConfig) :
    parse? fallback (layout.print config.toJson) = some config := by
  rw [parse?, layout.parseContents?_print (plain_toJson config)]
  exact ofJson?_toJson fallback config

/-! ## Everything that is kept -/

/-- What is kept in a layout is read as it was. -/
structure Json.Layout.Faithful (layout : Layout) : Prop where
  keyChainData (data : KeyChainData) : decode? (layout.print (toJson data)) = some data
  walletFile {disk : Disk} {path : Path} (data : KeyChainData)
    (hfind : disk.find path = .ok (.file (layout.print (toJson (WalletFile.around data))))) :
    FileStore.readFile disk path = .ok data
  ledger (ledger : Ledger) : decode? (layout.print (toJson ledger)) = some ledger
  ledgerFile {disk : Disk} {path : Path} (ledger : Ledger)
    (hfind : disk.find path = .ok (.file (layout.print (toJson ledger)))) :
    Command.loadLedger disk path = .ok ledger
  walletConfig (fallback config : WalletConfig) :
    WalletConfig.parse? fallback (layout.print config.toJson) = some config
  authoringConfig (config : AuthoringConfig) :
    decode? (layout.print (toJson config)) = some config
  authoredTransaction (authored : AuthoredTransaction) :
    decode? (layout.print (toJson authored)) = some authored

theorem Json.Layout.faithful (layout : Layout) : layout.Faithful where
  keyChainData := decode?_print layout
  walletFile _ := FileStore.readFile_layout
  ledger := decode?_print layout
  ledgerFile _ := Command.loadLedger_layout
  walletConfig := WalletConfig.parse?_layout layout
  authoringConfig := decode?_print layout
  authoredTransaction := decode?_print layout

/-- A wallet file whose only account has the greatest number and the greatest index. -/
theorem FileStore.readFile_greatest :
    let accounts := Registry.empty.insert ⟨4294967295⟩ (AccountRecord.mk .p2tr 4294967295 0)
    let data : KeyChainData := ⟨⟨FixedBytes.replicate 32 0⟩, accounts⟩
    let disk := (Disk.empty ["home"]).put ["home", "wallet.json"]
      (.file (Layout.compact.print (toJson (WalletFile.around data))))
    readFile disk ⟨"wallet.json"⟩ = .ok data := by
  intro accounts data disk
  exact (Layout.compact.faithful).walletFile data rfl

end Purse
