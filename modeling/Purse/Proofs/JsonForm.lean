import Purse.Authoring.Build
import Purse.Ledger.Basic
import Purse.Proofs.HexText
import Purse.Proofs.JsonText
import Purse.Proofs.Registry
import Purse.Store.File
import Purse.Wallet.Config

/-!
# Forms without loss

Whatever is written in its JSON form is read back as it was.  The forms of records are read by the
names of their fields, so it is enough that the names differ and that every field is read back.
-/

namespace Purse

namespace Json

/-- Values whose form can be printed and is read back as the value. -/
class Lossless (α : Type) [Form α] : Prop where
  plain_toJson (value : α) : (toJson value).Plain
  ofJson?_toJson (value : α) : ofJson? (toJson value) = some value

export Lossless (plain_toJson ofJson?_toJson)

attribute [simp] ofJson?_toJson

theorem plain_ofText (text : String) : (ofText text).Plain :=
  .text (Quoted.closed_ofText text)

/-! ## Records -/

theorem mapM_eq_some {α β γ : Type} {read : β → Option γ} {write : α → β} {meant : α → γ}
    {values : List α} (hread : ∀ value ∈ values, read (write value) = some (meant value)) :
    (values.map write).mapM read = some (values.map meant) := by
  induction values with
  | nil => rfl
  | cons value values ih =>
      rw [List.forall_mem_cons] at hread
      rw [List.map_cons, List.mapM_cons, hread.1, ih hread.2]
      rfl

theorem membersText?_ofFields (fields : List (String × Json)) :
    membersText? (fields.map fun (key, value) => (Quoted.ofText key, value)) = some fields := by
  induction fields with
  | nil => rfl
  | cons field fields ih => simp [membersText?, ih]

theorem member?_of_mem {members : List (String × Json)} (hnodup : (members.map Prod.fst).Nodup)
    {member : String × Json} (hmember : member ∈ members) :
    member? member.1 members = some (some member.2) := by
  induction members with
  | nil => cases hmember
  | cons head rest ih =>
      rw [List.map_cons, List.nodup_cons] at hnodup
      rcases List.mem_cons.1 hmember with rfl | hlater
      · have hrest : (rest.filter fun entry => entry.1 = member.1) = [] := by
          rw [List.filter_eq_nil_iff]
          intro entry hentry
          have hne : entry.1 ≠ member.1 := fun heq => hnodup.1 (heq ▸ List.mem_map_of_mem hentry)
          simpa using hne
        have hfirst : decide (member.1 = member.1) = true := decide_eq_true rfl
        rw [member?, List.filter_cons, if_pos hfirst, hrest]
      · have hne : head.1 ≠ member.1 := fun heq => hnodup.1 (heq ▸ List.mem_map_of_mem hlater)
        rw [member?, List.filter_cons, if_neg (by simpa using hne)]
        exact ih hnodup.2 hlater

variable {names : List String} {fields : List (String × Json)}

theorem memberValues?_ofFields (hnames : names = fields.map Prod.fst) (hnodup : names.Nodup) :
    memberValues? names (fields.map fun (key, value) => (Quoted.ofText key, value)) =
      some (fields.map fun field => some field.2) := by
  subst hnames
  rw [memberValues?, membersText?_ofFields]
  exact mapM_eq_some fun field hfield => member?_of_mem hnodup hfield

/-- A record is read by the names of its fields, which have to differ. -/
theorem fields?_ofFields (hnames : names = fields.map Prod.fst) (hnodup : names.Nodup) :
    (ofFields fields).fields? names = some (fields.map fun field => some field.2) :=
  memberValues?_ofFields hnames hnodup

theorem leadingFields?_ofFields (hnames : names = fields.map Prod.fst) (hnodup : names.Nodup) :
    (ofFields fields).leadingFields? names = some (fields.map fun field => some field.2) :=
  memberValues?_ofFields hnames hnodup

theorem plain_ofFields (hvalues : ∀ field ∈ fields, field.2.Plain) : (ofFields fields).Plain := by
  refine .record (fun member hmember => ?_) fun member hmember => ?_
  · obtain ⟨field, _, rfl⟩ := List.mem_map.1 hmember
    exact Quoted.closed_ofText field.1
  · obtain ⟨field, hfield, rfl⟩ := List.mem_map.1 hmember
    exact hvalues field hfield

/-! ## Plain values -/

instance : Lossless UInt64 where
  plain_toJson value := .natural value.toNat
  ofJson?_toJson value := by
    unfold instFormUInt64
    simp [natural?, value.toNat_lt]

instance : Lossless UInt32 where
  plain_toJson value := .natural value.toNat
  ofJson?_toJson value := by
    unfold instFormUInt32
    simp [natural?, value.toNat_lt]

instance : Lossless UInt8 where
  plain_toJson value := .natural value.toNat
  ofJson?_toJson value := by
    unfold instFormUInt8
    simp [natural?, value.toNat_lt]

instance : Lossless Bool where
  plain_toJson value := .bool value
  ofJson?_toJson _ := rfl

instance : Lossless String where
  plain_toJson text := plain_ofText text
  ofJson?_toJson text := Quoted.text?_ofText text

instance {α : Type} [Form α] [Lossless α] : Lossless (List α) where
  plain_toJson values := by
    refine .list fun item hitem => ?_
    obtain ⟨value, _, rfl⟩ := List.mem_map.1 hitem
    exact plain_toJson value
  ofJson?_toJson values := by
    have hread := mapM_eq_some fun value (_ : value ∈ values) => ofJson?_toJson value
    rwa [List.map_id'] at hread

/-- An optional value is read as missing only from null, so it must not be written as null. -/
theorem lossless_option {α : Type} [Form α] [Lossless α]
    (hnull : ∀ value : α, toJson value ≠ .null) : Lossless (Option α) where
  plain_toJson
    | none => .null
    | some value => plain_toJson value
  ofJson?_toJson
    | none => rfl
    | some value => by
        have hread : (ofJson? (toJson value)).map some = some (some value) := by
          rw [ofJson?_toJson, Option.map_some]
        have hvalue := hnull value
        unfold instFormOption
        cases hjson : toJson value with
        | null => exact absurd hjson hvalue
        | bool | natural | number | text | list | record =>
            rw [hjson] at hread
            simpa [hjson] using hread

instance : Lossless (Option UInt64) := lossless_option fun _ => nofun

instance {size : Nat} : Lossless (FixedBytes size) where
  plain_toJson value := plain_toJson value.toBytes
  ofJson?_toJson value := by
    unfold instFormFixedBytes
    simp

/-- The name of an alternative is read back where the names of all alternatives differ. -/
theorem alternative?_ofText (name : String) : (ofText name).alternative? = some name :=
  Quoted.text?_ofText name

end Json

open Json

instance : Lossless Digest where
  plain_toJson digest := plain_ofText digest.toText
  ofJson?_toJson digest := by
    have htext : ofJson? (ofText digest.toText) = some digest.toText := ofJson?_toJson _
    unfold Digest.instForm
    simp [htext]

instance : Lossless OutPoint where
  plain_toJson point := plain_ofFields (by simp [plain_toJson])
  ofJson?_toJson point := by
    unfold OutPoint.instForm
    simp [fields?_ofFields, required?]

instance : Lossless ScriptKind where
  plain_toJson kind := plain_ofText kind.tag
  ofJson?_toJson kind := by
    unfold ScriptKind.instForm
    simp [alternative?_ofText]

instance : Lossless Script where
  plain_toJson script := plain_ofFields (by simp [plain_toJson])
  ofJson?_toJson script := by
    unfold Script.instForm
    simp [fields?_ofFields, required?]

instance : Lossless AccountId where
  plain_toJson account := plain_toJson account.number
  ofJson?_toJson account := by
    unfold AccountId.instForm
    simp

instance : Lossless Input where
  plain_toJson input := plain_ofFields (by simp [plain_toJson])
  ofJson?_toJson input := by
    unfold Input.instForm
    simp [fields?_ofFields, required?]

instance : Lossless Output where
  plain_toJson output := plain_ofFields (by simp [plain_toJson])
  ofJson?_toJson output := by
    unfold Output.instForm
    simp [fields?_ofFields, required?]

instance : Lossless Transaction where
  plain_toJson tx := plain_ofFields (by simp [plain_toJson])
  ofJson?_toJson tx := by
    unfold Transaction.instForm
    simp [fields?_ofFields, required?]

instance : Lossless AuthoredTransaction where
  plain_toJson authored := plain_ofFields (by simp [plain_toJson])
  ofJson?_toJson authored := by
    unfold AuthoredTransaction.instForm
    simp [fields?_ofFields, required?, withDefault?]

instance : Lossless Credit where
  plain_toJson credit := plain_ofFields (by simp [plain_toJson])
  ofJson?_toJson credit := by
    unfold Credit.instForm
    simp [fields?_ofFields, required?, withDefault?]

instance : Lossless Ledger where
  plain_toJson ledger := plain_ofFields (by simp [plain_toJson])
  ofJson?_toJson ledger := by
    unfold Ledger.instForm
    simp [fields?_ofFields, required?]

/-! ## Configuration -/

instance : Lossless FeeRate where
  plain_toJson rate := plain_toJson rate.perKvb
  ofJson?_toJson rate := by
    unfold FeeRate.instForm
    simp

@[simp]
theorem SelectionStrategy.ofName?_name (strategy : SelectionStrategy) :
    ofName? strategy.name = some strategy := by
  cases strategy <;> decide

instance : Lossless SelectionStrategy where
  plain_toJson strategy := plain_ofText strategy.name
  ofJson?_toJson strategy := by
    unfold SelectionStrategy.instForm
    simp [alternative?_ofText]

instance : Lossless AuthoringConfig where
  plain_toJson config := plain_ofFields (by simp [plain_toJson])
  ofJson?_toJson config := by
    unfold AuthoringConfig.instForm
    simp [leadingFields?_ofFields, withDefault?]

namespace WalletConfig

theorem plain_toJson (config : WalletConfig) : config.toJson.Plain :=
  plain_ofFields (by simp [Json.plain_toJson])

/-- A configuration says all of its fields, so the fallback does not matter. -/
theorem ofJson?_toJson (fallback config : WalletConfig) :
    ofJson? fallback config.toJson = some config := by
  simp [ofJson?, toJson, leadingFields?_ofFields, withDefault?]

end WalletConfig

/-! ## Accounts -/

instance : Lossless AccountRecord where
  plain_toJson record := plain_ofFields (by simp [plain_toJson])
  ofJson?_toJson record := by
    unfold AccountRecord.instForm
    simp [fields?_ofFields, required?]

namespace Registry

variable {α : Type}

theorem ext {a b : Registry α} (hentries : a.entries = b.entries) : a = b := by
  cases a
  cases b
  cases hentries
  rfl

theorem toList_toText (account : AccountId) :
    account.toText.toList = Nat.toDigits 10 account.number.toNat := by
  rw [AccountId.toText, Decimal.print, String.toList_ofList]

theorem accountOfKey?_ofText (account : AccountId) :
    accountOfKey? (Quoted.ofText account.toText) = some account := by
  have hdigits := flatMap_escape_toDigits account.number.toNat
  have hread := readUnsigned_toDigits stops_nil account.number.toNat
  rw [List.append_nil] at hread
  have haccount : Json.ofJson? (.natural account.number.toNat) = some account :=
    ofJson?_toJson account
  rw [accountOfKey?, Quoted.ofText, toList_toText, hdigits]
  simp [hread, haccount]

/-- Entries that come in ascending order are put one after another. -/
theorem insertMembers?_of_ascending [Form α] [Lossless α] {registry : Registry α}
    {entries : List (AccountId × α)}
    (hascending : (registry.entries ++ entries).Pairwise fun a b => a.1.number < b.1.number) :
    ∃ whole, insertMembers? registry (entries.map fun (account, value) =>
      (Quoted.ofText account.toText, Json.toJson value)) = some whole ∧
        whole.entries = registry.entries ++ entries := by
  induction entries generalizing registry with
  | nil => exact ⟨registry, rfl, (List.append_nil _).symm⟩
  | cons entry entries ih =>
      obtain ⟨account, value⟩ := entry
      have hlast : ∀ other ∈ registry.entries, other.1.number < account.number := by
        intro other hother
        exact (List.pairwise_append.1 hascending).2.2 other hother _ List.mem_cons_self
      have hinserted : (registry.insert account value).entries =
          registry.entries ++ [(account, value)] := insertEntry_of_lt value hlast
      have hrest : ((registry.insert account value).entries ++ entries).Pairwise
          fun a b => a.1.number < b.1.number := by
        rwa [hinserted, List.append_assoc, List.singleton_append]
      obtain ⟨whole, hwhole, hentries⟩ := ih hrest
      refine ⟨whole, ?_, ?_⟩
      · simpa [insertMembers?, accountOfKey?_ofText] using hwhole
      · rw [hentries, hinserted, List.append_assoc, List.singleton_append]

instance [Form α] [Lossless α] : Lossless (Registry α) where
  plain_toJson registry := by
    refine plain_ofFields fun field hfield => ?_
    obtain ⟨entry, _, rfl⟩ := List.mem_map.1 hfield
    exact plain_toJson entry.2
  ofJson?_toJson registry := by
    have hascending : ((empty : Registry α).entries ++ registry.entries).Pairwise
        fun a b => a.1.number < b.1.number := registry.ascending
    obtain ⟨whole, hread, hentries⟩ := insertMembers?_of_ascending hascending
    have hwhole : whole = registry := ext hentries
    unfold instForm
    simpa [ofFields, Function.comp_def, hwhole] using hread

end Registry

instance : Lossless KeyChainData where
  plain_toJson data := plain_ofFields (by simp [plain_toJson])
  ofJson?_toJson data := by
    unfold KeyChainData.instForm
    simp [fields?_ofFields, required?]

instance : Lossless WalletFile where
  plain_toJson file := plain_ofFields (by simp [plain_toJson])
  ofJson?_toJson file := by
    unfold WalletFile.instForm
    simp [fields?_ofFields, required?]

end Purse
